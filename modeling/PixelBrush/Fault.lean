import PixelBrush.Node
import PixelBrush.Notification
import PixelBrush.Operator

/-! # What can go wrong in a run

A mishap is an error that the language provides for, and has a location.
Besides, a run can come up against limits of its surroundings, and a tree put
together by hand against its own defects.
-/

namespace PixelBrush

/-- The errors that the language provides for. -/
inductive Mishap
  | stepLimit (limit : Nat)
  | unknownInstruction (code : Name)
  | unknownStatement (type : String)
  | unknownLabel (name : Name)
  | spawnMissing
  | spawnRepeated
  | arity (title : String) (expected got : Nat)
  | wrongKind (expected got : Kind)
  | invalidColor (text : String)
  | invalidDirection (dx dy : Int)
  | spawnOutside (x y : Int)
  | sizeNotPositive
  | distanceNotPositive
  | lineOutside (x y : Int)
  | radiusNotPositive
  | circleOutside (x y : Int)
  | extentNotPositive
  | rectangleOutside
  | undefinedVariable (name : Name)
  | unknownFunction (code : Name)
  | unknownExpression (type : String)
  | unsupportedLiteral (kind : Name)
  | literalMismatch (value : Payload) (kind : Kind)
  | unsupportedOperator (operator : Name)
  | operandKinds (operator : BinaryOperator) (expected left right : Kind)
  | divisionByZero
  | unsupportedUnary (operator : Name)
  | operandKind (operator : UnaryOperator) (expected got : Kind)
  deriving DecidableEq

namespace Mishap

/-- What is said about a wrong number of arguments. -/
def arityMessage? (title : String) (expected got : Nat) : Option String :=
  if expected = 0 then some (title ++ " takes no arguments")
  else do
    return title ++ " requires exactly " ++ (← Text.decimal? expected) ++
      (if expected = 1 then " argument" else " arguments") ++ ", got " ++ (← Text.decimal? got)

/-- What is said about a mishap, unless a number in it has too many digits. -/
def message? : Mishap → Option String
  | stepLimit limit => do
      return "Step limit exceeded (" ++ (← Text.decimal? limit) ++ " statements)"
  | unknownInstruction code => do
      return "Unknown instruction: " ++ (← code.plain?)
  | unknownStatement type => some ("Unknown node type: " ++ type)
  | unknownLabel name => do
      return "Label '" ++ (← name.plain?) ++ "' not found"
  | spawnMissing => some "Must call Spawn before any other instructions"
  | spawnRepeated => some "Spawn can only be called once at the beginning"
  | arity title expected got => arityMessage? title expected got
  | wrongKind expected got =>
      some ("Expected " ++ expected.adjective ++ " value, got " ++ got.name)
  | invalidColor text => some ("Invalid color: " ++ text)
  | invalidDirection dx dy => do
      return "Invalid direction vector " ++ (← Notification.point? dx dy)
  | spawnOutside x y => do
      return "Spawn coordinates " ++ (← Notification.point? x y) ++ " are outside canvas"
  | sizeNotPositive => some "Brush size must be positive"
  | distanceNotPositive => some "Distance must be positive"
  | lineOutside x y => do
      return "Drawing would go outside canvas bounds (end point " ++
        (← Notification.point? x y) ++ ")"
  | radiusNotPositive => some "Radius must be positive"
  | circleOutside x y => do
      return "Circle center " ++ (← Notification.point? x y) ++
        " would be outside canvas bounds"
  | extentNotPositive => some "Distance, width and height must be positive"
  | rectangleOutside => some "Rectangle would go outside canvas bounds"
  | undefinedVariable name => do
      return "Variable '" ++ (← name.plain?) ++ "' not defined"
  | unknownFunction code => do
      return "Unknown function: " ++ (← code.plain?)
  | unknownExpression type => some ("Unknown expression type: " ++ type)
  | unsupportedLiteral kind => do
      return "Unsupported literal type: " ++ (← kind.plain?)
  | literalMismatch value kind => do
      return "Literal " ++ (← value.quoted?) ++ " is not a " ++ kind.name
  | unsupportedOperator operator => do
      return "Unsupported operator: " ++ (← operator.plain?)
  | operandKinds operator expected left right =>
      some ("Operator '" ++ operator.text ++ "' expects " ++ expected.adjective ++
        " operands, got " ++ left.name ++ " and " ++ right.name)
  | divisionByZero => some "Division by zero"
  | unsupportedUnary operator => do
      return "Unsupported unary operator: " ++ (← operator.plain?)
  | operandKind operator expected got =>
      some ("Operator '" ++ operator.text ++ "' expects a " ++ expected.adjective ++
        " operand, got " ++ got.name)

end Mishap

/-- Why a statement or an expression fails. -/
inductive Fault
  /-- An error that the language provides for. -/
  | mishap (cause : Mishap) (location : Location)
  /-- The expression nests too deeply to be evaluated. -/
  | tooDeep
  /-- The message about a mishap has to show a number with too many digits. -/
  | unwritable (cause : Mishap)
  /-- A number that has to be printed has too many digits. -/
  | tooManyDigits
  /-- A literal holds no value. -/
  | notAValue
  /-- Something that is no node stands where a node has to be. -/
  | notANode
  /-- A state is asked for, and no program has been run so far. -/
  | noRun
  /-- The painter refuses to tell what a cell holds. -/
  | noCell (x y : Int)
  deriving DecidableEq

namespace Fault

/-- The fault that a mishap at a node amounts to: the mishap itself, provided
that its message can be written and the node has a location. -/
def ofMishap (cause : Mishap) (node : Node) : Fault :=
  match cause.message?, node.location? with
  | none, _ => unwritable cause
  | some _, some location => mishap cause location
  | some _, none => notANode

end Fault
end PixelBrush
