import PixelBrush.Arithmetic
import PixelBrush.Command
import PixelBrush.Fault
import PixelBrush.Painter
import PixelBrush.State

/-! # Evaluating expressions

An expression is evaluated in view of the settings, the painter and the
state, and changes none of them.  Before the first run there is no state, and
an expression that asks for one has no value.  Operands and arguments are
evaluated from left to right, all of them and always: no operator skips its
right operand.
The functions that call each other share a budget, of which each nested call
takes one unit; when it is used up, the expression nests too deeply.
-/

namespace PixelBrush

/-- What an expression can see.  There is a state as soon as a run has
started. -/
structure View where
  settings : Settings
  painter : Painter
  state : Option State

namespace View

/-- The state, for an expression that asks for it. -/
def current (view : View) : Except Fault State :=
  match view.state with
  | some state => .ok state
  | none => .error .noRun

def robot (view : View) : Except Fault Robot :=
  view.current.map State.robot

/-- The settings, for an expression that asks about the canvas of a run. -/
def canvas (view : View) : Except Fault Settings :=
  view.current.map fun _ => view.settings

@[simp] theorem current_mk (settings : Settings) (painter : Painter) (state : State) :
    (View.mk settings painter (some state)).current = .ok state := rfl

@[simp] theorem robot_mk (settings : Settings) (painter : Painter) (state : State) :
    (View.mk settings painter (some state)).robot = .ok state.robot := rfl

@[simp] theorem canvas_mk (settings : Settings) (painter : Painter) (state : State) :
    (View.mk settings painter (some state)).canvas = .ok settings := rfl

end View

namespace Evaluation

def asNumber (argument : Node) : Value → Except Fault Int
  | .number value => .ok value
  | value => .error (.ofMishap (.wrongKind .number value.kind) argument)

def asBoolean (argument : Node) : Value → Except Fault Bool
  | .boolean value => .ok value
  | value => .error (.ofMishap (.wrongKind .boolean value.kind) argument)

def asString (argument : Node) : Value → Except Fault String
  | .string value => .ok value
  | value => .error (.ofMishap (.wrongKind .string value.kind) argument)

/-- The color that a text names, if a node asks for one. -/
def asColor (owner : Node) (text : String) : Except Fault Color :=
  match Color.parse? text with
  | some color => .ok color
  | none => .error (.ofMishap (.invalidColor text) owner)

def literal (node : Node) (kind : Name) (value : Payload) : Except Fault Value :=
  match kind.text?.bind Kind.ofName?, value with
  | none, _ => .error (.ofMishap (.unsupportedLiteral kind) node)
  | some _, none => .error .notAValue
  | some expected, some value =>
      if value.kind = expected then .ok value
      else .error (.ofMishap (.literalMismatch (some value) expected) node)

def onBooleans (node : Node) (operator : BinaryOperator) (result : Bool → Bool → Bool) :
    Value → Value → Except Fault Value
  | .boolean left, .boolean right => .ok (.boolean (result left right))
  | left, right =>
      .error (.ofMishap (.operandKinds operator .boolean left.kind right.kind) node)

/-- Combine two numbers, if they have a result. -/
def onNumbers (node : Node) (operator : BinaryOperator)
    (result : Int → Int → Except Arithmetic.Undefined Value) :
    Value → Value → Except Fault Value
  | .number left, .number right =>
      match result left right with
      | .ok value => .ok value
      | .error _ => .error (.ofMishap .divisionByZero node)
  | left, right =>
      .error (.ofMishap (.operandKinds operator .number left.kind right.kind) node)

/-- Apply a binary operator to the values of its operands. -/
def applyBinary (node : Node) (operator : BinaryOperator) : Value → Value → Except Fault Value :=
  let compare (holds : Int → Int → Bool) :=
    onNumbers node operator fun left right => .ok (.boolean (holds left right))
  let calculate (result : Int → Int → Int) :=
    onNumbers node operator fun left right => .ok (.number (result left right))
  let attempt (result : Int → Int → Except Arithmetic.Undefined Int) :=
    onNumbers node operator fun left right => (result left right).map .number
  match operator with
  | .and => onBooleans node operator (· && ·)
  | .or => onBooleans node operator (· || ·)
  | .equal => compare fun left right => decide (left = right)
  | .notEqual => compare fun left right => decide (left ≠ right)
  | .less => compare fun left right => decide (left < right)
  | .lessEqual => compare fun left right => decide (left ≤ right)
  | .greater => compare fun left right => decide (left > right)
  | .greaterEqual => compare fun left right => decide (left ≥ right)
  | .add => calculate (· + ·)
  | .subtract => calculate (· - ·)
  | .multiply => calculate (· * ·)
  | .divide => attempt Arithmetic.quotient
  | .remainder => attempt Arithmetic.remainder
  | .power => attempt Arithmetic.power

/-- Apply a unary operator to the value of its operand. -/
def applyUnary (node : Node) : UnaryOperator → Value → Except Fault Value
  | .negate, .number value => .ok (.number (-value))
  | .not, .boolean value => .ok (.boolean (!value))
  | .negate, value => .error (.ofMishap (.operandKind .negate .number value.kind) node)
  | .not, value => .error (.ofMishap (.operandKind .not .boolean value.kind) node)

/-- The number that stands for a truth value in the answer of a query. -/
def flag (truth : Bool) : Value :=
  .number (if truth then 1 else 0)

/-- Answer a query.  The arguments are handed over together with the means to
evaluate them as numbers and as colors.  The state is looked into last. -/
def answer (view : View) (node : Node) (number : Node → Except Fault Int)
    (color : Node → Except Fault Color) (query : Query) (arguments : List Node) :
    Except Fault Value :=
  match query, arguments with
  | .actualX, [] => do
      let robot ← view.robot
      if robot.spawned then return .number robot.x else throw (.ofMishap .spawnMissing node)
  | .actualY, [] => do
      let robot ← view.robot
      if robot.spawned then return .number robot.y else throw (.ofMishap .spawnMissing node)
  | .canvasSize, [] => do
      return .number (← view.canvas).canvasSize
  | .colorCount, [first, second, third, fourth, fifth] => do
      let color ← color first
      let x₁ ← number second
      let y₁ ← number third
      let x₂ ← number fourth
      let y₂ ← number fifth
      let canvas ← view.canvas
      if canvas.inBounds x₁ y₁ && canvas.inBounds x₂ y₂ then
        return .number (← view.painter.countColor color x₁ y₁ x₂ y₂)
      else
        return .number 0
  | .isBrushColor, [first] => do
      let color ← color first
      let robot ← view.robot
      return flag (decide (robot.color = color))
  | .isBrushSize, [first] => do
      let size ← number first
      let robot ← view.robot
      return flag (decide (robot.size = size))
  | .isCanvasColor, [first, second, third] => do
      let color ← color first
      let vertical ← number second
      let horizontal ← number third
      let robot ← view.robot
      let x := robot.x + horizontal
      let y := robot.y + vertical
      if view.settings.inBounds x y then
        return flag (decide ((← view.painter.color? x y) = some color))
      else
        return flag false
  | query, arguments =>
      .error (.ofMishap (.arity query.title query.arity arguments.length) node)

mutual

/-- The value of an expression. -/
def evaluate (view : View) : (budget : Nat) → Node → Except Fault Value
  | 0, _ => .error .tooDeep
  | budget + 1, node =>
      match node with
      | .literal kind value _ => literal node kind value
      | .reference name _ => do
          match (← view.current).store.find? name with
          | some value => return value
          | none => throw (.ofMishap (.undefinedVariable name) node)
      | .binary operator left right _ => binary view budget node operator left right
      | .unary operator operand _ => unary view budget node operator operand
      | .call code arguments _ =>
          match code.text?.bind Query.ofCode? with
          | some query => call view budget node query arguments
          | none => .error (.ofMishap (.unknownFunction code) node)
      | _ => .error (.ofMishap (.unknownExpression node.typeName) node)

/-- The value of a binary operation.  Both operands are evaluated before the
operator is looked at. -/
def binary (view : View) : (budget : Nat) → (node : Node) → (operator : Name) →
    (left right : Node) → Except Fault Value
  | 0, _, _, _, _ => .error .tooDeep
  | budget + 1, node, operator, left, right => do
      let leftValue ← evaluate view budget left
      let rightValue ← evaluate view budget right
      match operator.text?.bind BinaryOperator.ofText? with
      | some operator => applyBinary node operator leftValue rightValue
      | none => .error (.ofMishap (.unsupportedOperator operator) node)

def unary (view : View) : (budget : Nat) → (node : Node) → (operator : Name) →
    (operand : Node) → Except Fault Value
  | 0, _, _, _ => .error .tooDeep
  | budget + 1, node, operator, operand => do
      let value ← evaluate view budget operand
      match operator.text?.bind UnaryOperator.ofText? with
      | some operator => applyUnary node operator value
      | none => .error (.ofMishap (.unsupportedUnary operator) node)

def call (view : View) : (budget : Nat) → (node : Node) → Query → (arguments : List Node) →
    Except Fault Value
  | 0, _, _, _ => .error .tooDeep
  | budget + 1, node, query, arguments =>
      answer view node (number view budget) (color view budget node) query arguments

def number (view : View) : (budget : Nat) → (argument : Node) → Except Fault Int
  | 0, _ => .error .tooDeep
  | budget + 1, argument => do
      asNumber argument (← evaluate view budget argument)

/-- The color that an argument of a node denotes. -/
def color (view : View) : (budget : Nat) → (owner argument : Node) → Except Fault Color
  | 0, _, _ => .error .tooDeep
  | budget + 1, owner, argument => do
      asColor owner (← string view budget argument)

def string (view : View) : (budget : Nat) → (argument : Node) → Except Fault String
  | 0, _ => .error .tooDeep
  | budget + 1, argument => do
      asString argument (← evaluate view budget argument)

end

def boolean (view : View) (budget : Nat) (condition : Node) : Except Fault Bool := do
  asBoolean condition (← evaluate view budget condition)

end Evaluation
end PixelBrush
