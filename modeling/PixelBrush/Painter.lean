import PixelBrush.Color
import PixelBrush.Fault
import PixelBrush.Painting

/-! # Painters

A painter owns the cells, and is asked what they hold.  A painting answers for
every cell of the plane, but a painter may also refuse to answer, with a fault.
Only texts that name a color count as colored.
-/

namespace PixelBrush

/-- Whoever tells what the cells hold. -/
structure Painter where
  cell : (x y : Int) → Except Fault (Option String)

namespace Painter

/-- The painter that answers from a painting. -/
def ofPainting (painting : Painting) : Painter :=
  ⟨fun x y => .ok (painting.cell x y)⟩

instance : Coe Painting Painter := ⟨ofPainting⟩

/-- The color of a cell, if its text names one. -/
def color? (painter : Painter) (x y : Int) : Except Fault (Option Color) := do
  return (← painter.cell x y).bind Color.parse?

/-- The number of cells of a color in the box between two corners.  The painter
is asked for every cell of the box. -/
def countColor (painter : Painter) (color : Color) (x₁ y₁ x₂ y₂ : Int) : Except Fault Nat :=
  (Painting.between x₁ x₂).foldlM (fun count x =>
    (Painting.between y₁ y₂).foldlM (fun count y => do
      return if (← painter.color? x y) = some color then count + 1 else count) count) 0

end Painter
end PixelBrush
