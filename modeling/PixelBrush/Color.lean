import PixelBrush.Text.Blank
import PixelBrush.Text.Lowercase

/-! # Colors

There are nine colors.  A color is named in any letter case and with any
blanks around the name.
-/

namespace PixelBrush

/-- The colors of a brush and of the cells of a canvas. -/
inductive Color
  | red
  | blue
  | green
  | yellow
  | orange
  | purple
  | black
  | white
  | transparent
  deriving DecidableEq

namespace Color

def all : List Color :=
  [red, blue, green, yellow, orange, purple, black, white, transparent]

/-- The canonical name of a color. -/
def name : Color → String
  | red => "red"
  | blue => "blue"
  | green => "green"
  | yellow => "yellow"
  | orange => "orange"
  | purple => "purple"
  | black => "black"
  | white => "white"
  | transparent => "transparent"

def ofName? (name : String) : Option Color :=
  all.find? fun color => color.name == name

/-- The color that a text names. -/
def parse? (text : String) : Option Color :=
  ofName? (String.ofList (Text.foldCase (Text.trim Text.isBlank text.toList)))

def terminalCode : Color → String
  | red => "\x1b[31m"
  | blue => "\x1b[34m"
  | green => "\x1b[32m"
  | yellow => "\x1b[33m"
  | orange => "\x1b[93m"
  | purple => "\x1b[35m"
  | black => "\x1b[30m"
  | white => "\x1b[37m"
  | transparent => "\x1b[2m"

def terminalReset : String := "\x1b[0m"

theorem mem_all (color : Color) : color ∈ all := by
  cases color <;> decide

@[simp] theorem ofName?_name (color : Color) : ofName? color.name = some color := by
  cases color <;> decide

@[simp] theorem parse?_name (color : Color) : parse? color.name = some color := by
  cases color <;> decide

end Color
end PixelBrush
