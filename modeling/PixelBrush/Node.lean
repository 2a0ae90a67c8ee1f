import PixelBrush.Location
import PixelBrush.Name

/-! # Program trees

A program is a tree of statements and expressions.  Whatever a node refers to
it refers to by name, and a literal is given by the name of its kind and a
payload.  Trees read from a program text use these fields as the language
means them; a tree put together by hand may put anything anywhere, even
nothing, and it is running it that brings this to light.
-/

namespace PixelBrush

/-- A node of a program tree. -/
inductive Node
  | program (statements : List Node) (location : Location)
  | label (name : Name) (location : Location)
  | assignment (name : Name) (value : Node) (location : Location)
  | instruction (code : Name) (arguments : List Node) (location : Location)
  | jump (label : Name) (condition : Node) (location : Location)
  | binary (operator : Name) (left right : Node) (location : Location)
  | unary (operator : Name) (operand : Node) (location : Location)
  | call (code : Name) (arguments : List Node) (location : Location)
  | literal (kind : Name) (value : Payload) (location : Location)
  | reference (name : Name) (location : Location)
  /-- A node of a type that programs do not use, with a text that stands for
  what it holds. -/
  | foreign (type description : String) (location : Location)
  /-- A place where a text stands instead of a node. -/
  | text (content : String)
  /-- A place where nothing stands. -/
  | missing
  deriving Inhabited

namespace Node

def typeName : Node → String
  | program .. => "Program"
  | label .. => "Label"
  | assignment .. => "Assignment"
  | instruction .. => "Instruction"
  | jump .. => "ConditionalJump"
  | binary .. => "Binary"
  | unary .. => "Unary"
  | call .. => "FunctionCall"
  | literal .. => "Literal"
  | reference .. => "Variable"
  | foreign type .. => type
  | text _ => "Text"
  | missing => "Nothing"

/-- The location of a node; there is none where no node stands. -/
def location? : Node → Option Location
  | program _ location => some location
  | label _ location => some location
  | assignment _ _ location => some location
  | instruction _ _ location => some location
  | jump _ _ location => some location
  | binary _ _ _ location => some location
  | unary _ _ location => some location
  | call _ _ location => some location
  | literal _ _ location => some location
  | reference _ location => some location
  | foreign _ _ location => some location
  | text _ | missing => none

/-- The program with the given statements, which itself stands nowhere. -/
def ofStatements (statements : List Node) : Node :=
  program statements .nowhere

/-- How deep reading, evaluating and printing a tree may nest, counted in
nested calls. -/
def nestingLimit : Nat := 1000

end Node
end PixelBrush
