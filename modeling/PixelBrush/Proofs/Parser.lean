import PixelBrush.Node.Parser
import PixelBrush.Proofs.Grammar
import PixelBrush.Proofs.Reading

/-! # What is read next

Each reading decides by the next token how to go on.  The equations say how, one
for each kind of token that makes a difference.
-/

namespace PixelBrush
namespace Parser

open Grammar Reading

variable {token : Token} {later : List Token}

section Operators

variable (operand : Nat → Reading Node) (floor rounds : Nat) (left : Node)

theorem operators_settled {tokens : List Token} (settled : Settled floor tokens) :
    operators operand floor rounds left tokens = .ok left tokens := by
  cases rounds with
  | zero => rfl
  | succ rounds =>
      cases tokens with
      | nil => rfl
      | cons token later =>
          obtain ⟨kind, text, value, location⟩ := token
          cases kind with
          | binary operator =>
              rw [operators, current?_bind]
              exact congrFun (if_pos (settled operator rfl)) _
          | _ => rfl

theorem operators_join {operator : BinaryOperator} (kind : token.kind = .binary operator)
    (tighter : floor < operator.precedence) :
    operators operand floor (rounds + 1) left (token :: later) =
      (operand operator.precedence >>= fun right =>
        operators operand floor rounds
          (.binary operator.text left right token.location)) later := by
  obtain ⟨_, text, value, location⟩ := token
  obtain rfl := kind
  rw [operators, current?_bind]
  exact (congrFun (if_neg (Nat.not_le.mpr tighter)) _).trans (next_bind _ _ _)

end Operators

section Arguments

variable (argument : Reading Node) (owner : String) (rounds : Nat)

theorem argumentList_closing (kind : token.kind = .rightParenthesis) :
    argumentList argument owner rounds (token :: later) = .ok [] later := by
  obtain ⟨_, text, value, location⟩ := token
  obtain rfl := kind
  cases rounds <;> rfl

theorem argumentList_end (isEnd : token.kind = .endOfInput) :
    argumentList argument owner (rounds + 1) (token :: later) =
      .error ⟨.closingWanted owner, token.location⟩ (token :: later) := by
  obtain ⟨_, text, value, location⟩ := token
  obtain rfl := isEnd
  rfl

theorem argumentList_item (notClosing : token.kind ≠ .rightParenthesis)
    (notEnd : token.kind ≠ .endOfInput) :
    argumentList argument owner (rounds + 1) (token :: later) =
      (argument >>= fun first => do
        if ← accept .comma then
          let others ← argumentList argument owner rounds
          pure (first :: others)
        else
          let _ ← expect .rightParenthesis (.separatorWanted owner)
          pure [first]) (token :: later) := by
  obtain ⟨kind, text, value, location⟩ := token
  cases kind <;> first | rfl | contradiction

end Arguments

section Atoms

variable (budget : Nat)

theorem atom_literal {kind : Kind} (isLiteral : token.kind = literalToken kind) :
    atom (budget + 1) (token :: later) =
      .ok (.literal kind.name token.value token.location) later := by
  obtain ⟨_, text, value, location⟩ := token
  obtain rfl := isLiteral
  cases kind <;> rfl

theorem atom_reference (isName : token.kind = .identifier) :
    atom (budget + 1) (token :: later) = .ok (.reference ⟨token.value⟩ token.location) later := by
  obtain ⟨_, text, value, location⟩ := token
  obtain rfl := isName
  rfl

theorem atom_call {query : Query} (isQuery : token.kind = .query query) :
    atom (budget + 1) (token :: later) = call budget (token :: later) := by
  obtain ⟨_, text, value, location⟩ := token
  obtain rfl := isQuery
  rfl

theorem atom_enclosed (isOpening : token.kind = .leftParenthesis) :
    atom (budget + 1) (token :: later) =
      (expression budget 0 >>= fun inner => do
        let _ ← expect .rightParenthesis .expressionClosingWanted
        pure inner) later := by
  obtain ⟨_, text, value, location⟩ := token
  obtain rfl := isOpening
  rfl

theorem atom_unary {operator : UnaryOperator} (isSign : token.kind = unaryToken operator) :
    atom (budget + 1) (token :: later) =
      (atom budget >>= fun operand =>
        pure (.unary operator.text operand token.location)) later := by
  obtain ⟨_, text, value, location⟩ := token
  obtain rfl := isSign
  cases operator <;> rfl

theorem atom_other (other : startsAtom token.kind = false) :
    atom (budget + 1) (token :: later) =
      .error ⟨.unexpected token.kind, token.location⟩ (token :: later) := by
  obtain ⟨kind, text, value, location⟩ := token
  cases kind with
  | binary operator => cases operator <;> first | rfl | cases other
  | _ => first | rfl | cases other

theorem call_cons :
    call (budget + 1) (token :: later) =
      (expect .leftParenthesis .queryOpeningWanted >>= fun _ => do
        return .call token.kind.name (← arguments budget token.text) token.location) later :=
  rfl

end Atoms

section Statements

variable (budget rounds : Nat)

theorem statement_named (isName : token.kind = .identifier) :
    statement budget (token :: later) =
      (accept .colon >>= fun isLabel => do
        if isLabel then
          return .label ⟨token.value⟩ token.location
        else if ← accept .arrow then
          return .assignment ⟨token.value⟩ (← expression budget 0) token.location
        else
          failAt .statementWanted token.location) later := by
  obtain ⟨_, text, value, location⟩ := token
  obtain rfl := isName
  rfl

theorem statement_instruction {command : Command} (isCommand : token.kind = .command command) :
    statement budget (token :: later) =
      (expect .leftParenthesis (.openingWanted token.text) >>= fun _ => do
        return .instruction command.code (← arguments budget token.text) token.location)
        later := by
  obtain ⟨_, text, value, location⟩ := token
  obtain rfl := isCommand
  rfl

theorem statement_jump (isJump : token.kind = .jump) :
    statement budget (token :: later) =
      (expect .leftBracket .labelOpeningWanted >>= fun _ => do
        let label ← expect .identifier .labelWanted
        let _ ← expect .rightBracket .labelClosingWanted
        let _ ← expect .leftParenthesis .conditionOpeningWanted
        let condition ← expression budget 0
        let _ ← expect .rightParenthesis .conditionClosingWanted
        return .jump ⟨label.value⟩ condition token.location) later := by
  obtain ⟨_, text, value, location⟩ := token
  obtain rfl := isJump
  rfl

theorem statement_other (other : startsStatement token.kind = false) :
    statement budget (token :: later) =
      .error ⟨.unexpected token.kind, token.location⟩ (token :: later) := by
  obtain ⟨kind, text, value, location⟩ := token
  cases kind <;> first | rfl | cases other

theorem statements_end (isEnd : token.kind = .endOfInput) :
    statements budget rounds (token :: later) = .ok [] (token :: later) := by
  obtain ⟨_, text, value, location⟩ := token
  obtain rfl := isEnd
  cases rounds <;> rfl

theorem statements_nil : statements budget rounds [] = .ok [] [] := by
  cases rounds <;> rfl

theorem statements_cons (notEnd : token.kind ≠ .endOfInput) :
    statements budget (rounds + 1) (token :: later) =
      (statement budget >>= fun first => do
        separators
        let others ← statements budget rounds
        pure (first :: others)) (token :: later) := by
  obtain ⟨kind, text, value, location⟩ := token
  cases kind <;> first | rfl | contradiction

end Statements

end Parser
end PixelBrush
