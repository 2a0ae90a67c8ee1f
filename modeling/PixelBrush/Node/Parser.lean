import PixelBrush.Node
import PixelBrush.Token.Reading

/-! # Reading program trees from tokens

Expressions are read by precedence climbing: an atom, and then every operator
that binds tighter than the floor, together with its right operand.  The
readings that call each other share a budget, of which each nested call takes
one unit; when it is used up, the expression nests too deeply.  A loop takes
no budget.  It goes round at most as often as tokens are left, because every
round takes at least one.
-/

namespace PixelBrush
namespace Parser

open Reading

/-- Read operators that bind tighter than the floor, each with its right
operand, and fold them onto the left operand. -/
def operators (operand : Nat → Reading Node) (floor : Nat) : Nat → Node → Reading Node
  | 0, left => pure left
  | rounds + 1, left => do
      match ← current? with
      | some ⟨.binary operator, _, _, location⟩ =>
          if operator.precedence ≤ floor then
            pure left
          else
            let _ ← next
            let right ← operand operator.precedence
            operators operand floor rounds (.binary operator.text left right location)
      | _ => pure left

/-- Read arguments divided by commas, up to and with the closing parenthesis.
A comma may stand behind the last argument. -/
def argumentList (argument : Reading Node) (owner : String) : Nat → Reading (List Node)
  | 0 => do
      let _ ← expect .rightParenthesis (.closingWanted owner)
      pure []
  | rounds + 1 => do
      match ← currentKind? with
      | none | some .rightParenthesis =>
          let _ ← expect .rightParenthesis (.closingWanted owner)
          pure []
      | some .endOfInput => fail (.closingWanted owner)
      | some _ =>
          let first ← argument
          if ← accept .comma then
            let others ← argumentList argument owner rounds
            pure (first :: others)
          else
            let _ ← expect .rightParenthesis (.separatorWanted owner)
            pure [first]

mutual

/-- Read an expression whose operators bind tighter than the floor. -/
def expression : (budget : Nat) → (floor : Nat) → Reading Node
  | 0, _ => fail .nestedTooDeeply
  | budget + 1, floor => do
      let left ← atom budget
      operators (expression budget) floor (← remaining) left

/-- Read an operand: a literal, a variable, a query, an expression in
parentheses, or a unary operator with its operand. -/
def atom : (budget : Nat) → Reading Node
  | 0 => fail .nestedTooDeeply
  | budget + 1 => do
      match ← current? with
      | none => fail .endOfInput
      | some ⟨.query _, _, _, _⟩ => call budget
      | some ⟨.number, _, value, location⟩ =>
          let _ ← next
          pure (.literal Kind.number.name value location)
      | some ⟨.boolean, _, value, location⟩ =>
          let _ ← next
          pure (.literal Kind.boolean.name value location)
      | some ⟨.string, _, value, location⟩ =>
          let _ ← next
          pure (.literal Kind.string.name value location)
      | some ⟨.identifier, _, value, location⟩ =>
          let _ ← next
          pure (.reference ⟨value⟩ location)
      | some ⟨.leftParenthesis, _, _, _⟩ =>
          let _ ← next
          let inner ← expression budget 0
          let _ ← expect .rightParenthesis .expressionClosingWanted
          pure inner
      | some ⟨.negation, _, _, location⟩ =>
          let _ ← next
          return .unary UnaryOperator.not.text (← atom budget) location
      | some ⟨.binary .subtract, _, _, location⟩ =>
          let _ ← next
          return .unary UnaryOperator.negate.text (← atom budget) location
      | some ⟨kind, _, _, _⟩ => fail (.unexpected kind)

/-- Read a query with its arguments.  Whatever the first token is, it is taken
for the query. -/
def call : (budget : Nat) → Reading Node
  | 0 => fail .nestedTooDeeply
  | budget + 1 => do
      let query? ← next?
      let _ ← expect .leftParenthesis .queryOpeningWanted
      match query? with
      | some query =>
          return .call query.kind.name (← arguments budget query.text) query.location
      | none => fail .tokenWanted

/-- Read arguments behind an opening parenthesis. -/
def arguments : (budget : Nat) → (owner : String) → Reading (List Node)
  | 0, _ => fail .nestedTooDeeply
  | budget + 1, owner => do
      argumentList (expression budget 0) owner (← remaining)

end

/-- Read a statement that starts with a name: a label or an assignment. -/
def namedStatement (budget : Nat) : Reading Node := do
  let name ← next
  if ← accept .colon then
    return .label ⟨name.value⟩ name.location
  else if ← accept .arrow then
    return .assignment ⟨name.value⟩ (← expression budget 0) name.location
  else
    failAt .statementWanted name.location

/-- Read a command with its arguments.  Whatever the first token is, it is
taken for the command. -/
def instruction (budget : Nat) : Reading Node := do
  let command ← next
  let _ ← expect .leftParenthesis (.openingWanted command.text)
  return .instruction command.kind.name (← arguments budget command.text) command.location

def conditionalJump (budget : Nat) : Reading Node := do
  let jump ← expect .jump .jumpWanted
  let _ ← expect .leftBracket .labelOpeningWanted
  let label ← expect .identifier .labelWanted
  let _ ← expect .rightBracket .labelClosingWanted
  let _ ← expect .leftParenthesis .conditionOpeningWanted
  let condition ← expression budget 0
  let _ ← expect .rightParenthesis .conditionClosingWanted
  return .jump ⟨label.value⟩ condition jump.location

def statement (budget : Nat) : Reading Node := do
  match ← currentKind? with
  | none => fail .tokenWanted
  | some .identifier => namedStatement budget
  | some (.command _) => instruction budget
  | some .jump => conditionalJump budget
  | some kind => fail (.unexpected kind)

/-- Whether a token of the given kind may stand between two statements. -/
def separates (kind : TokenKind) : Bool :=
  kind == .endOfLine || kind == .comment

/-- Pass the tokens that may stand between two statements. -/
def separators : Reading Unit :=
  fun tokens => .ok () (tokens.dropWhile fun token => separates token.kind)

/-- Read statements up to the end of the input, with separators after each. -/
def statements (budget : Nat) : Nat → Reading (List Node)
  | 0 => pure []
  | rounds + 1 => do
      match ← currentKind? with
      | none | some .endOfInput => pure []
      | some _ =>
          let first ← statement budget
          separators
          let others ← statements budget rounds
          pure (first :: others)

/-- Read the statements of a whole program. -/
def program (budget : Nat) : Reading (List Node) := do
  separators
  statements budget (← remaining)

end Parser

/-- The statements that tokens make up, unless reading them nests deeper than a
limit. -/
def parseWithin (limit : Nat) (tokens : List Token) : Except Complaint (List Node) :=
  match Parser.program limit tokens with
  | .ok statements _ => .ok statements
  | .error complaint _ => .error complaint

/-- The statements that tokens make up. -/
def parse (tokens : List Token) : Except Complaint (List Node) :=
  parseWithin Node.nestingLimit tokens

end PixelBrush
