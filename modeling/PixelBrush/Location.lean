/-! # Locations in a program text

A location is a line and a column, both counted from one.  Reading on from a
location moves one column for each character, and to the start of the next
line at each line break: a line feed, a carriage return, or the two together.
-/

namespace PixelBrush

/-- A place in a program text. -/
structure Location where
  line : Int
  column : Int
  deriving DecidableEq, Inhabited

namespace Location

def start : Location := ⟨1, 1⟩

/-- The location of what stands at no place in a text. -/
def nowhere : Location := ⟨0, 0⟩

/-- A number of columns further on the same line. -/
def right (location : Location) (columns : Nat) : Location :=
  { location with column := location.column + columns }

def nextLine (location : Location) : Location :=
  ⟨location.line + 1, 1⟩

/-- The location just behind a text that starts at the given location. -/
def after : Location → List Char → Location
  | location, [] => location
  | location, '\r' :: '\n' :: later => after location.nextLine later
  | location, character :: later =>
      if character = '\n' ∨ character = '\r' then after location.nextLine later
      else after (location.right 1) later

end Location
end PixelBrush
