import PixelBrush.Painter

/-! # What a painting answers

A painting answers for every cell, and so all cells of a box can be counted.
-/

namespace PixelBrush
namespace Painting

/-- The color of a cell of a painting, if its text names one. -/
def color? (painting : Painting) (x y : Int) : Option Color :=
  (painting.cell x y).bind Color.parse?

/-- The number of cells of a color in the box between two corners. -/
def countColor (painting : Painting) (color : Color) (x₁ y₁ x₂ y₂ : Int) : Nat :=
  (between x₁ x₂).foldl (fun count x =>
    (between y₁ y₂).foldl (fun count y =>
      if painting.color? x y = some color then count + 1 else count) count) 0

end Painting

namespace Painter

variable (painting : Painting)

@[simp]
theorem color?_ofPainting (x y : Int) :
    (ofPainting painting).color? x y = .ok (painting.color? x y) := rfl

@[simp]
theorem countColor_ofPainting (color : Color) (x₁ y₁ x₂ y₂ : Int) :
    (ofPainting painting).countColor color x₁ y₁ x₂ y₂ =
      .ok (painting.countColor color x₁ y₁ x₂ y₂) := by
  unfold countColor Painting.countColor
  -- No cell is refused, so that every round of either fold comes to a number.
  have row (count : Nat) (x : Int) :
      (Painting.between y₁ y₂).foldlM (fun count y => do
          return if (← (ofPainting painting).color? x y) = some color then count + 1 else count)
        count =
      (pure ((Painting.between y₁ y₂).foldl (fun count y =>
        if painting.color? x y = some color then count + 1 else count) count) :
          Except Fault Nat) :=
    List.foldlM_pure
  simp only [row]
  exact List.foldlM_pure

end Painter
end PixelBrush
