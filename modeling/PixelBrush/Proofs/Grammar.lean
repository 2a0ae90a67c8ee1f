import PixelBrush.Node
import PixelBrush.Token

/-! # The grammar of programs

A derivation shows how a list of tokens is built up by the rules of the
language.  Every rule keeps its tokens, parentheses and commas included, so
that a derivation knows the tokens that it derives and the tree that it stands
for.  Expressions come in seven levels: at level six there are only atoms, and
at each level below, chains of operands of the next level, which associate to
the left.
-/

namespace PixelBrush
namespace Grammar

/-- A token of a given kind. -/
abbrev Terminal (kind : TokenKind) := { token : Token // token.kind = kind }

@[simp]
theorem Terminal.kind_val {kind : TokenKind} (token : Terminal kind) : token.val.kind = kind :=
  token.property

theorem Terminal.kind_eq {first second : TokenKind} {left : Terminal first}
    {right : Terminal second} (same : left.val = right.val) : first = second := by
  rw [← left.kind_val, same, right.kind_val]

/-- The kind of token that a literal of a kind is written as. -/
def literalToken : Kind → TokenKind
  | .number => .number
  | .boolean => .boolean
  | .string => .string

/-- The kind of token that stands before the operand of a unary operator. -/
def unaryToken : UnaryOperator → TokenKind
  | .negate => .binary .subtract
  | .not => .negation

/-- The operators that join expressions of a level, from the loosest level on. -/
def operatorsAt : (level : Nat) → List BinaryOperator
  | 0 => [.or]
  | 1 => [.and]
  | 2 => [.equal, .notEqual, .less, .lessEqual, .greater, .greaterEqual]
  | 3 => [.add, .subtract]
  | 4 => [.multiply, .divide, .remainder]
  | 5 => [.power]
  | _ => []

theorem mem_operatorsAt {operator : BinaryOperator} {level : Nat} :
    operator ∈ operatorsAt level ↔ operator.precedence = level + 1 := by
  constructor
  · intro member
    match level with
    | 0 | 1 | 2 | 3 | 4 | 5 => revert member; cases operator <;> decide
    | level + 6 => simp [operatorsAt] at member
  · intro precedence
    cases operator <;> simp only [BinaryOperator.precedence] at precedence <;>
      obtain rfl := Nat.succ.inj precedence <;> decide

/-- No operator that binds tighter than a floor comes next. -/
def Settled (floor : Nat) : List Token → Prop
  | [] => True
  | token :: _ => ∀ operator, token.kind = .binary operator → operator.precedence ≤ floor

theorem Settled.mono {floor higher : Nat} {rest : List Token} (settled : Settled floor rest)
    (above : floor ≤ higher) : Settled higher rest := by
  cases rest with
  | nil => trivial
  | cons token later => exact fun operator kind => Nat.le_trans (settled operator kind) above

theorem exists_of_not_settled {floor : Nat} {tokens : List Token}
    (unsettled : ¬ Settled floor tokens) :
    ∃ token later operator, tokens = token :: later ∧ token.kind = .binary operator ∧
      floor < operator.precedence := by
  cases tokens with
  | nil => exact (unsettled trivial).elim
  | cons token later =>
      simp only [Settled, Classical.not_forall, Nat.not_le] at unsettled
      obtain ⟨operator, kind, tighter⟩ := unsettled
      exact ⟨token, later, operator, rfl, kind, tighter⟩

theorem precedence_le_six (operator : BinaryOperator) : operator.precedence ≤ 6 := by
  cases operator <;> decide

theorem settled_six (tokens : List Token) : Settled 6 tokens := by
  cases tokens with
  | nil => trivial
  | cons token later => exact fun operator _ => precedence_le_six operator

mutual

/-- An operand that no operator can tear apart. -/
inductive Atom
  | literal (kind : Kind) (token : Terminal (literalToken kind))
  | reference (name : Terminal .identifier)
  | call (query : Query) (name : Terminal (.query query))
      (opening : Terminal .leftParenthesis) (arguments : Arguments)
      (closing : Terminal .rightParenthesis)
  | enclosed (opening : Terminal .leftParenthesis) (inner : Expression 0)
      (closing : Terminal .rightParenthesis)
  | unary (operator : UnaryOperator) (sign : Terminal (unaryToken operator)) (operand : Atom)

/-- An expression of a level. -/
inductive Expression : (level : Nat) → Type
  | atom (atom : Atom) : Expression 6
  | operand {level : Nat} (below : level < 6) (operand : Expression (level + 1)) :
      Expression level
  | binary {level : Nat} (left : Expression level) (operator : BinaryOperator)
      (member : operator ∈ operatorsAt level) (sign : Terminal (.binary operator))
      (right : Expression (level + 1)) : Expression level

/-- Arguments divided by commas.  As no arguments may follow a comma, there may
be one behind the last argument. -/
inductive Arguments
  | none
  | last (argument : Expression 0)
  | more (argument : Expression 0) (comma : Terminal .comma) (others : Arguments)

end

mutual

/-- The tokens of an atom. -/
def Atom.tokens : Atom → List Token
  | .literal _ token => [token.val]
  | .reference name => [name.val]
  | .call _ name opening arguments closing =>
      name.val :: opening.val :: (arguments.tokens ++ [closing.val])
  | .enclosed opening inner closing => opening.val :: (inner.tokens ++ [closing.val])
  | .unary _ sign operand => sign.val :: operand.tokens

/-- The tokens of an expression. -/
def Expression.tokens : {level : Nat} → Expression level → List Token
  | _, .atom atom => atom.tokens
  | _, .operand _ operand => operand.tokens
  | _, .binary left _ _ sign right => left.tokens ++ sign.val :: right.tokens

/-- The tokens of arguments, without the parentheses. -/
def Arguments.tokens : Arguments → List Token
  | .none => []
  | .last argument => argument.tokens
  | .more argument comma others => argument.tokens ++ comma.val :: others.tokens

end

mutual

/-- The tree of an atom.  Parentheses leave no node. -/
def Atom.tree : Atom → Node
  | .literal kind token => .literal kind.name token.val.value token.val.location
  | .reference name => .reference ⟨name.val.value⟩ name.val.location
  | .call query name _ arguments _ => .call query.code arguments.trees name.val.location
  | .enclosed _ inner _ => inner.tree
  | .unary operator sign operand => .unary operator.text operand.tree sign.val.location

/-- The tree of an expression. -/
def Expression.tree : {level : Nat} → Expression level → Node
  | _, .atom atom => atom.tree
  | _, .operand _ operand => operand.tree
  | _, .binary left operator _ sign right =>
      .binary operator.text left.tree right.tree sign.val.location

/-- The trees of arguments. -/
def Arguments.trees : Arguments → List Node
  | .none => []
  | .last argument => [argument.tree]
  | .more argument _ others => argument.tree :: others.trees

end

/-- Whether an atom can start with a token of a given kind. -/
def startsAtom : TokenKind → Bool
  | .number | .boolean | .string | .identifier | .query _ | .leftParenthesis | .negation
  | .binary .subtract => true
  | _ => false

theorem startsAtom_iff {kind : TokenKind} :
    startsAtom kind = true ↔
      (∃ literal, kind = literalToken literal) ∨ kind = .identifier ∨
        (∃ query, kind = .query query) ∨ kind = .leftParenthesis ∨
        ∃ operator, kind = unaryToken operator := by
  constructor
  · intro starts
    cases kind with
    | number => exact .inl ⟨.number, rfl⟩
    | boolean => exact .inl ⟨.boolean, rfl⟩
    | string => exact .inl ⟨.string, rfl⟩
    | identifier => exact .inr (.inl rfl)
    | query query => exact .inr (.inr (.inl ⟨query, rfl⟩))
    | leftParenthesis => exact .inr (.inr (.inr (.inl rfl)))
    | negation => exact .inr (.inr (.inr (.inr ⟨.not, rfl⟩)))
    | binary operator =>
        cases operator with
        | subtract => exact .inr (.inr (.inr (.inr ⟨.negate, rfl⟩)))
        | _ => cases starts
    | _ => cases starts
  · rintro (⟨literal, rfl⟩ | rfl | ⟨query, rfl⟩ | rfl | ⟨operator, rfl⟩)
    · cases literal <;> rfl
    · rfl
    · rfl
    · rfl
    · cases operator <;> rfl

/-- Whether a statement can start with a token of a given kind. -/
def startsStatement : TokenKind → Bool
  | .identifier | .command _ | .jump => true
  | _ => false

theorem startsStatement_iff {kind : TokenKind} :
    startsStatement kind = true ↔
      kind = .identifier ∨ (∃ command, kind = .command command) ∨ kind = .jump := by
  constructor
  · intro starts
    cases kind with
    | identifier => exact .inl rfl
    | command command => exact .inr (.inl ⟨command, rfl⟩)
    | jump => exact .inr (.inr rfl)
    | _ => cases starts
  · rintro (rfl | ⟨command, rfl⟩ | rfl) <;> rfl

/-- A statement. -/
inductive Statement
  | label (name : Terminal .identifier) (colon : Terminal .colon)
  | assignment (name : Terminal .identifier) (arrow : Terminal .arrow) (value : Expression 0)
  | instruction (command : Command) (name : Terminal (.command command))
      (opening : Terminal .leftParenthesis) (arguments : Arguments)
      (closing : Terminal .rightParenthesis)
  | jump (word : Terminal .jump) (openingBracket : Terminal .leftBracket)
      (target : Terminal .identifier) (closingBracket : Terminal .rightBracket)
      (opening : Terminal .leftParenthesis) (condition : Expression 0)
      (closing : Terminal .rightParenthesis)

namespace Statement

/-- The tokens of a statement. -/
def tokens : Statement → List Token
  | label name colon => [name.val, colon.val]
  | assignment name arrow value => name.val :: arrow.val :: value.tokens
  | instruction _ name opening arguments closing =>
      name.val :: opening.val :: (arguments.tokens ++ [closing.val])
  | jump word openingBracket target closingBracket opening condition closing =>
      word.val :: openingBracket.val :: target.val :: closingBracket.val :: opening.val ::
        (condition.tokens ++ [closing.val])

/-- The tree of a statement. -/
def tree : Statement → Node
  | label name _ => .label ⟨name.val.value⟩ name.val.location
  | assignment name _ value => .assignment ⟨name.val.value⟩ value.tree name.val.location
  | instruction command name _ arguments _ =>
      .instruction command.code arguments.trees name.val.location
  | jump word _ target _ _ condition _ =>
      .jump ⟨target.val.value⟩ condition.tree word.val.location

end Statement

/-- A token that may stand between two statements: a line end or a comment. -/
abbrev Separator := { token : Token // token.kind = .endOfLine ∨ token.kind = .comment }

/-- A program: statements with any number of separators before and after each. -/
structure Program where
  leading : List Separator
  statements : List (Statement × List Separator)

namespace Program

/-- The tokens of statements that are followed by separators. -/
def statementTokens : List (Statement × List Separator) → List Token
  | [] => []
  | (statement, separators) :: later =>
      statement.tokens ++ (separators.map Subtype.val ++ statementTokens later)

/-- The tokens of a program. -/
def tokens (program : Program) : List Token :=
  program.leading.map Subtype.val ++ statementTokens program.statements

/-- The trees of the statements of a program. -/
def trees (program : Program) : List Node :=
  program.statements.map fun part => part.1.tree

end Program

/-- The tokens before the first one that ends the input. -/
def beforeEnd (tokens : List Token) : List Token :=
  tokens.takeWhile fun token => decide (token.kind ≠ .endOfInput)

/-- A derivation of the tokens before the end of the input. -/
abbrev Derivation (tokens : List Token) :=
  { program : Program // program.tokens = beforeEnd tokens }

/-- There is no token, or the next one ends the input. -/
def Ended : List Token → Prop
  | [] => True
  | token :: _ => token.kind = .endOfInput

theorem exists_beforeEnd_append (tokens : List Token) :
    ∃ rest, beforeEnd tokens ++ rest = tokens ∧ Ended rest := by
  refine ⟨tokens.dropWhile fun token => decide (token.kind ≠ .endOfInput),
    List.takeWhile_append_dropWhile, ?_⟩
  induction tokens with
  | nil => trivial
  | cons token later induction =>
      by_cases isEnd : token.kind = .endOfInput
      · simp [List.dropWhile, isEnd, Ended]
      · simpa [List.dropWhile, isEnd] using induction

theorem beforeEnd_append {front rest : List Token}
    (notEnd : ∀ token ∈ front, token.kind ≠ .endOfInput) (ended : Ended rest) :
    beforeEnd (front ++ rest) = front := by
  rw [beforeEnd, List.takeWhile_append_of_pos (by simpa using notEnd)]
  cases rest with
  | nil => simp
  | cons token later => simp [List.takeWhile, show token.kind = .endOfInput from ended]

end Grammar
end PixelBrush
