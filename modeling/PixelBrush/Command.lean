/-! # Commands and queries

Commands move the robot and change its brush; queries ask about the robot and
the canvas.  Each has a code, by which tokens and trees refer to it, and a
title, by which messages do.
-/

namespace PixelBrush

/-- The drawing commands. -/
inductive Command
  | spawn
  | color
  | size
  | drawLine
  | drawCircle
  | drawRectangle
  | fill
  deriving DecidableEq

namespace Command

def all : List Command :=
  [spawn, color, size, drawLine, drawCircle, drawRectangle, fill]

def code : Command → String
  | spawn => "SPAWN"
  | color => "COLOR"
  | size => "SIZE"
  | drawLine => "DRAW_LINE"
  | drawCircle => "DRAW_CIRCLE"
  | drawRectangle => "DRAW_RECTANGLE"
  | fill => "FILL"

def title : Command → String
  | spawn => "Spawn"
  | color => "Color"
  | size => "Size"
  | drawLine => "DrawLine"
  | drawCircle => "DrawCircle"
  | drawRectangle => "DrawRectangle"
  | fill => "Fill"

def arity : Command → Nat
  | spawn => 2
  | color | size => 1
  | drawLine | drawCircle => 3
  | drawRectangle => 5
  | fill => 0

def ofCode? (code : String) : Option Command :=
  all.find? fun command => command.code == code

@[simp] theorem ofCode?_code (command : Command) : ofCode? command.code = some command := by
  cases command <;> decide

end Command

/-- The questions that an expression can ask. -/
inductive Query
  | actualX
  | actualY
  | canvasSize
  | colorCount
  | isBrushColor
  | isBrushSize
  | isCanvasColor
  deriving DecidableEq

namespace Query

def all : List Query :=
  [actualX, actualY, canvasSize, colorCount, isBrushColor, isBrushSize, isCanvasColor]

def code : Query → String
  | actualX => "GET_ACTUAL_X"
  | actualY => "GET_ACTUAL_Y"
  | canvasSize => "GET_CANVAS_SIZE"
  | colorCount => "GET_COLOR_COUNT"
  | isBrushColor => "IS_BRUSH_COLOR"
  | isBrushSize => "IS_BRUSH_SIZE"
  | isCanvasColor => "IS_CANVAS_COLOR"

def title : Query → String
  | actualX => "GetActualX"
  | actualY => "GetActualY"
  | canvasSize => "GetCanvasSize"
  | colorCount => "GetColorCount"
  | isBrushColor => "IsBrushColor"
  | isBrushSize => "IsBrushSize"
  | isCanvasColor => "IsCanvasColor"

def arity : Query → Nat
  | actualX | actualY | canvasSize => 0
  | isBrushColor | isBrushSize => 1
  | isCanvasColor => 3
  | colorCount => 5

def ofCode? (code : String) : Option Query :=
  all.find? fun query => query.code == code

@[simp] theorem ofCode?_code (query : Query) : ofCode? query.code = some query := by
  cases query <;> decide

end Query
end PixelBrush
