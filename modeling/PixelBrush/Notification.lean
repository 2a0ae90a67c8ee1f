import PixelBrush.Color
import PixelBrush.Value

/-! # Notifications

Whoever paints the pixels is told about each command that was carried out.  A
notification says all that is needed for painting; it can also be put into a
sentence for a reader, with color names in color on a terminal.
-/

namespace PixelBrush

/-- What a painter is told. -/
inductive Notification
  | spawn (x y : Int)
  | color (color : String)
  | size (size : Int)
  | line (startX startY endX endY : Int) (color : String) (size : Int)
  | circle (centerX centerY radius : Int) (color : String) (size : Int)
  | rectangle (x y width height : Int) (color : String) (size : Int)
  | fill (x y : Int) (color : String)
  deriving DecidableEq

namespace Notification

def name : Notification → String
  | spawn .. => "spawn"
  | color _ => "color"
  | size _ => "size"
  | line .. => "draw_line"
  | circle .. => "draw_circle"
  | rectangle .. => "draw_rectangle"
  | fill .. => "fill"

/-- The details of a notification in a log. -/
def details : Notification → List Value
  | spawn x y => [.number x, .number y]
  | color shade => [.string shade]
  | size thickness => [.number thickness]
  | line startX startY endX endY shade thickness =>
      [.number startX, .number startY, .number endX, .number endY, .string shade, .number thickness]
  | circle centerX centerY radius shade thickness =>
      [.number centerX, .number centerY, .number radius, .string shade, .number thickness]
  | rectangle x y width height shade thickness =>
      [.number x, .number y, .number width, .number height, .string shade, .number thickness]
  | fill x y shade => [.number x, .number y, .string shade]

/-- A color name as it is shown to a reader.  In color, a name that is no
canonical color name still ends with the code that turns colors off. -/
def shownColor (colored : Bool) (color : String) : String :=
  if colored then
    ((Color.ofName? color).map Color.terminalCode).getD "" ++ color ++ Color.terminalReset
  else color

/-- A pair of coordinates, unless one has too many digits. -/
def point? (x y : Int) : Option String := do
  return "(" ++ (← Text.decimal? x) ++ ", " ++ (← Text.decimal? y) ++ ")"

/-- A notification as a sentence, unless a number in it has too many digits. -/
def sentence? (colored : Bool) : Notification → Option String
  | spawn x y => do
      return "spawn at " ++ (← point? x y)
  | color shade =>
      some ("brush color -> " ++ shownColor colored shade)
  | size thickness => do
      return "brush size -> " ++ (← Text.decimal? thickness)
  | line startX startY endX endY shade thickness => do
      return "line " ++ (← point? startX startY) ++ " -> " ++ (← point? endX endY) ++ " " ++
        shownColor colored shade ++ " size=" ++ (← Text.decimal? thickness)
  | circle centerX centerY radius shade thickness => do
      return "circle center=" ++ (← point? centerX centerY) ++ " r=" ++
        (← Text.decimal? radius) ++ " " ++ shownColor colored shade ++ " size=" ++
        (← Text.decimal? thickness)
  | rectangle x y width height shade thickness => do
      return "rectangle " ++ (← point? x y) ++ " " ++ (← Text.decimal? width) ++ "x" ++
        (← Text.decimal? height) ++ " " ++ shownColor colored shade ++ " size=" ++
        (← Text.decimal? thickness)
  | fill x y shade => do
      return "fill from " ++ (← point? x y) ++ " " ++ shownColor colored shade

end Notification
end PixelBrush
