
/-! # Paintings

A painting gives a text for every cell of the plane: the one that was set
last, or the background.  The text may name a color, something else, or be
missing altogether.
-/

namespace PixelBrush

/-- What the cells of a canvas hold.  Cells set later come first. -/
structure Painting where
  background : Option String := some "white"
  cells : List ((Int × Int) × Option String) := []

namespace Painting

def cell (painting : Painting) (x y : Int) : Option String :=
  (painting.cells.lookup (x, y)).getD painting.background

def setCell (painting : Painting) (x y : Int) (text : Option String) : Painting :=
  { painting with cells := ((x, y), text) :: painting.cells }

/-- The integers between two bounds, in either order and including both. -/
def between (first last : Int) : List Int :=
  (List.range ((last - first).natAbs + 1)).map fun (step : Nat) => min first last + Int.ofNat step

end Painting
end PixelBrush
