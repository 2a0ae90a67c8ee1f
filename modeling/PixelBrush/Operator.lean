/-! # Operators

Binary operators associate to the left and bind by precedence; a unary
operator binds tighter than any of them.  A tree refers to an operator by its
text.
-/

namespace PixelBrush

/-- The operators between two operands. -/
inductive BinaryOperator
  | or
  | and
  | equal
  | notEqual
  | less
  | lessEqual
  | greater
  | greaterEqual
  | add
  | subtract
  | multiply
  | divide
  | remainder
  | power
  deriving DecidableEq

namespace BinaryOperator

def all : List BinaryOperator :=
  [or, and, equal, notEqual, less, lessEqual, greater, greaterEqual,
    add, subtract, multiply, divide, remainder, power]

/-- The text that stands for an operator in a tree. -/
def text : BinaryOperator → String
  | or => "or"
  | and => "and"
  | equal => "=="
  | notEqual => "!="
  | less => "<"
  | lessEqual => "<="
  | greater => ">"
  | greaterEqual => ">="
  | add => "+"
  | subtract => "-"
  | multiply => "*"
  | divide => "/"
  | remainder => "%"
  | power => "^"

def ofText? (text : String) : Option BinaryOperator :=
  all.find? fun operator => operator.text == text

/-- How tightly an operator binds, from one to six. -/
def precedence : BinaryOperator → Nat
  | or => 1
  | and => 2
  | equal | notEqual | less | lessEqual | greater | greaterEqual => 3
  | add | subtract => 4
  | multiply | divide | remainder => 5
  | power => 6

@[simp] theorem ofText?_text (operator : BinaryOperator) :
    ofText? operator.text = some operator := by
  cases operator <;> decide

end BinaryOperator

/-- The operators before one operand. -/
inductive UnaryOperator
  | negate
  | not
  deriving DecidableEq

namespace UnaryOperator

/-- The text that stands for an operator in a tree. -/
def text : UnaryOperator → String
  | negate => "-"
  | not => "not"

def ofText? (text : String) : Option UnaryOperator :=
  [negate, not].find? fun operator => operator.text == text

@[simp] theorem ofText?_text (operator : UnaryOperator) :
    ofText? operator.text = some operator := by
  cases operator <;> decide

end UnaryOperator
end PixelBrush
