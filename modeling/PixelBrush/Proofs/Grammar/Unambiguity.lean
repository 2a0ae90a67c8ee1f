import PixelBrush.Proofs.Grammar

/-! # The grammar is unambiguous

A list of tokens has at most one derivation.  Two derivations from the front of
the same tokens agree on how much they take, provided that no operator follows
that would still belong to them.
-/

namespace PixelBrush
namespace Grammar

theorem settled_of_sign {operator : BinaryOperator} {level : Nat}
    (member : operator ∈ operatorsAt level) (sign : Terminal (.binary operator))
    (later : List Token) : Settled (level + 1) (sign.val :: later) := by
  intro other kind
  obtain rfl : operator = other := by simpa [sign.property] using kind
  exact Nat.le_of_eq (mem_operatorsAt.mp member)

theorem not_settled_of_sign {operator : BinaryOperator} {level : Nat}
    (member : operator ∈ operatorsAt level) (sign : Terminal (.binary operator))
    (later : List Token) : ¬ Settled level (sign.val :: later) := by
  intro settled
  have bound := settled operator sign.property
  rw [mem_operatorsAt.mp member] at bound
  omega

theorem settled_of_kind {kind : TokenKind} (token : Terminal kind) (level : Nat)
    (later : List Token) (noOperator : ∀ operator, kind ≠ .binary operator) :
    Settled level (token.val :: later) := by
  intro operator operatorKind
  rw [token.kind_val] at operatorKind
  exact (noOperator operator operatorKind).elim

theorem settled_of_closing {level : Nat} (closing : Terminal .rightParenthesis)
    (later : List Token) : Settled level (closing.val :: later) :=
  settled_of_kind closing level later (by simp)

theorem settled_of_comma {level : Nat} (comma : Terminal .comma) (later : List Token) :
    Settled level (comma.val :: later) :=
  settled_of_kind comma level later (by simp)

/-- One expression begins with another, and the given tokens follow it. -/
inductive Begins : {inner outer : Nat} → Expression inner → Expression outer → List Token → Prop
  | whole {level : Nat} (expression : Expression level) : Begins expression expression []
  | operand {level outer : Nat} {below : level < 6} {inner : Expression (level + 1)}
      {whole : Expression outer} {suffix : List Token} :
      Begins (.operand below inner) whole suffix → Begins inner whole suffix
  | binary {level outer : Nat} {left : Expression level} {operator : BinaryOperator}
      {member : operator ∈ operatorsAt level} {sign : Terminal (.binary operator)}
      {right : Expression (level + 1)} {whole : Expression outer} {suffix : List Token} :
      Begins (.binary left operator member sign right) whole suffix →
        Begins left whole (sign.val :: (right.tokens ++ suffix))

namespace Begins

variable {inner outer : Nat} {first : Expression inner} {whole : Expression outer}
  {suffix : List Token}

theorem level_le (begins : Begins first whole suffix) : outer ≤ inner := by
  induction begins with
  | whole => exact Nat.le_refl _
  | operand _ induction => omega
  | binary _ induction => exact induction

theorem tokens_eq (begins : Begins first whole suffix) :
    whole.tokens = first.tokens ++ suffix := by
  induction begins with
  | whole => simp
  | operand _ induction => simpa [Expression.tokens] using induction
  | binary _ induction => simpa [Expression.tokens] using induction

theorem trans {outermost : Nat} {outside : Expression outermost} {later : List Token}
    (begins : Begins first whole suffix) (continues : Begins whole outside later) :
    Begins first outside (suffix ++ later) := by
  induction begins with
  | whole => exact continues
  | operand _ induction => exact .operand (induction continues)
  | binary _ induction => simpa using Begins.binary (induction continues)

/-- What follows the first part of an expression joins it at the next level at
the tightest. -/
theorem settled {rest : List Token} (begins : Begins first whole suffix)
    (settledRest : Settled outer rest) : Settled (inner + 1) (suffix ++ rest) := by
  induction begins with
  | whole => exact settledRest.mono (Nat.le_succ _)
  | operand _ induction => exact (induction settledRest).mono (Nat.le_succ _)
  | @binary _ _ _ _ member sign _ _ _ _ _ => exact settled_of_sign member sign _

theorem eq_whole {level : Nat} {first whole : Expression level} {firstRest rest : List Token}
    (begins : ∃ suffix, Begins first whole suffix ∧ firstRest = suffix ++ rest)
    (settled : Settled level firstRest) : first = whole ∧ firstRest = rest := by
  rcases begins with ⟨suffix, begins, rfl⟩
  cases begins with
  | whole => exact ⟨rfl, rfl⟩
  | operand begins =>
      have := begins.level_le
      omega
  | @binary _ _ _ _ member sign _ _ _ _ =>
      exact (not_settled_of_sign member sign _ settled).elim

end Begins

/-- Every expression begins with an atom. -/
theorem Expression.exists_begins {level : Nat} :
    ∀ whole : Expression level, ∃ first suffix, Begins (.atom first) whole suffix
  | .atom first => ⟨first, [], .whole _⟩
  | .operand _ inner => by
      rcases inner.exists_begins with ⟨first, suffix, begins⟩
      exact ⟨first, _, begins.trans (.operand (.whole _))⟩
  | .binary left _ _ _ _ => by
      rcases left.exists_begins with ⟨first, suffix, begins⟩
      exact ⟨first, _, begins.trans (.binary (.whole _))⟩

namespace Atom

variable {first second : Atom}

/-- The kind of the first token of an atom, which tells by what rule it is made. -/
def headKind : Atom → TokenKind
  | .literal kind _ => literalToken kind
  | .reference _ => .identifier
  | .call query .. => .query query
  | .enclosed .. => .leftParenthesis
  | .unary operator .. => unaryToken operator

theorem exists_head (atom : Atom) :
    ∃ token later, atom.tokens = token :: later ∧ token.kind = atom.headKind := by
  cases atom with
  | literal kind token => exact ⟨token.val, [], rfl, token.kind_val⟩
  | reference name => exact ⟨name.val, [], rfl, name.kind_val⟩
  | call query name => exact ⟨name.val, _, rfl, name.kind_val⟩
  | enclosed opening => exact ⟨opening.val, _, rfl, opening.kind_val⟩
  | unary operator sign => exact ⟨sign.val, _, rfl, sign.kind_val⟩

theorem headKind_eq {firstRest secondRest : List Token}
    (same : first.tokens ++ firstRest = second.tokens ++ secondRest) :
    second.headKind = first.headKind := by
  rcases first.exists_head with ⟨token, later, tokens, kind⟩
  rcases second.exists_head with ⟨other, others, otherTokens, otherKind⟩
  rw [tokens, otherTokens, List.cons_append, List.cons_append] at same
  rw [← kind, ← otherKind, (List.cons.inj same).1]

theorem eq_literal {kind : Kind} (head : second.headKind = literalToken kind) :
    ∃ token, second = .literal kind token := by
  cases second with
  | literal other token =>
      obtain rfl : other = kind := by
        cases other <;> cases kind <;> first | rfl | cases head
      exact ⟨token, rfl⟩
  | unary operator => cases operator <;> cases kind <;> cases head
  | _ => cases kind <;> cases head

theorem eq_reference (head : second.headKind = .identifier) :
    ∃ name, second = .reference name := by
  cases second with
  | reference name => exact ⟨name, rfl⟩
  | literal kind => cases kind <;> cases head
  | unary operator => cases operator <;> cases head
  | _ => cases head

theorem eq_call {query : Query} (head : second.headKind = .query query) :
    ∃ name opening arguments closing, second = .call query name opening arguments closing := by
  cases second with
  | call other name opening arguments closing =>
      cases head
      exact ⟨name, opening, arguments, closing, rfl⟩
  | literal kind => cases kind <;> cases head
  | unary operator => cases operator <;> cases head
  | _ => cases head

theorem eq_enclosed (head : second.headKind = .leftParenthesis) :
    ∃ opening inner closing, second = .enclosed opening inner closing := by
  cases second with
  | enclosed opening inner closing => exact ⟨opening, inner, closing, rfl⟩
  | literal kind => cases kind <;> cases head
  | unary operator => cases operator <;> cases head
  | _ => cases head

theorem eq_unary {operator : UnaryOperator} (head : second.headKind = unaryToken operator) :
    ∃ sign operand, second = .unary operator sign operand := by
  cases second with
  | unary other sign operand =>
      obtain rfl : other = operator := by
        cases other <;> cases operator <;> first | rfl | cases head
      exact ⟨sign, operand, rfl⟩
  | literal kind => cases operator <;> cases kind <;> cases head
  | _ => cases operator <;> cases head

theorem startsAtom_headKind (atom : Atom) : startsAtom atom.headKind = true := by
  cases atom with
  | literal kind => cases kind <;> rfl
  | unary operator => cases operator <;> rfl
  | _ => rfl

end Atom

theorem Expression.exists_head {level : Nat} (expression : Expression level) :
    ∃ token later, expression.tokens = token :: later ∧ startsAtom token.kind = true := by
  rcases expression.exists_begins with ⟨first, suffix, begins⟩
  rcases first.exists_head with ⟨token, later, tokens, kind⟩
  refine ⟨token, later ++ suffix, ?_, kind ▸ first.startsAtom_headKind⟩
  rw [begins.tokens_eq, Expression.tokens, tokens, List.cons_append]

theorem Expression.tokens_ne_closing {level : Nat} (expression : Expression level)
    (closing : Terminal .rightParenthesis) {rest later : List Token} :
    expression.tokens ++ rest ≠ closing.val :: later := by
  intro same
  rcases expression.exists_head with ⟨token, others, tokens, starts⟩
  rw [tokens, List.cons_append] at same
  rw [(List.cons.inj same).1, closing.kind_val] at starts
  cases starts

mutual

theorem Atom.eq_of_tokens :
    ∀ (first second : Atom) {firstRest secondRest : List Token},
      first.tokens ++ firstRest = second.tokens ++ secondRest →
        first = second ∧ firstRest = secondRest
  | .literal kind token, second, firstRest, secondRest, same => by
      rcases Atom.eq_literal (Atom.headKind_eq same) with ⟨other, rfl⟩
      rcases List.cons.inj same with ⟨sameToken, sameRest⟩
      exact ⟨congrArg _ (Subtype.ext sameToken), sameRest⟩
  | .reference name, second, firstRest, secondRest, same => by
      rcases Atom.eq_reference (Atom.headKind_eq same) with ⟨other, rfl⟩
      rcases List.cons.inj same with ⟨sameName, sameRest⟩
      exact ⟨congrArg _ (Subtype.ext sameName), sameRest⟩
  | .call query name opening arguments closing, second, firstRest, secondRest, same => by
      obtain ⟨otherName, otherOpening, others, otherClosing, rfl⟩ :=
        Atom.eq_call (Atom.headKind_eq same)
      simp only [Atom.tokens, List.cons_append, List.append_assoc, List.nil_append,
        List.cons.injEq] at same
      rcases same with ⟨sameName, sameOpening, sameArguments⟩
      obtain ⟨rfl, rfl, sameRest⟩ := arguments.eq_of_tokens others closing otherClosing
        sameArguments
      obtain rfl := Subtype.ext sameName
      obtain rfl := Subtype.ext sameOpening
      exact ⟨rfl, sameRest⟩
  | .enclosed opening inner closing, second, firstRest, secondRest, same => by
      obtain ⟨otherOpening, other, otherClosing, rfl⟩ :=
        Atom.eq_enclosed (Atom.headKind_eq same)
      simp only [Atom.tokens, List.cons_append, List.append_assoc, List.nil_append,
        List.cons.injEq] at same
      rcases same with ⟨sameOpening, sameInner⟩
      obtain ⟨rfl, rest⟩ := Begins.eq_whole
        (inner.begins_of_tokens other (Nat.le_refl 0) (settled_of_closing closing _)
          (settled_of_closing otherClosing _) sameInner) (settled_of_closing closing _)
      rcases List.cons.inj rest with ⟨sameClosing, sameRest⟩
      obtain rfl := Subtype.ext sameOpening
      obtain rfl := Subtype.ext sameClosing
      exact ⟨rfl, sameRest⟩
  | .unary operator sign operand, second, firstRest, secondRest, same => by
      rcases Atom.eq_unary (Atom.headKind_eq same) with ⟨otherSign, other, rfl⟩
      rcases List.cons.inj same with ⟨sameSign, sameOperand⟩
      rcases operand.eq_of_tokens other sameOperand with ⟨rfl, sameRest⟩
      obtain rfl := Subtype.ext sameSign
      exact ⟨rfl, sameRest⟩

theorem Expression.begins_of_tokens :
    ∀ {inner outer : Nat} (first : Expression inner) (whole : Expression outer)
      {firstRest wholeRest : List Token}, outer ≤ inner → Settled (inner + 1) firstRest →
      Settled outer wholeRest → first.tokens ++ firstRest = whole.tokens ++ wholeRest →
        ∃ suffix, Begins first whole suffix ∧ firstRest = suffix ++ wholeRest
  | _, outer, .atom first, whole, firstRest, wholeRest, _, _, _, same => by
      rcases whole.exists_begins with ⟨head, suffix, begins⟩
      rw [begins.tokens_eq, List.append_assoc] at same
      rcases first.eq_of_tokens head same with ⟨rfl, rest⟩
      exact ⟨suffix, begins, rest⟩
  | level, outer, .operand below first, whole, firstRest, wholeRest, above, settledFirst,
      settledWhole, same => by
      obtain ⟨suffix, begins, rest⟩ := first.begins_of_tokens whole (Nat.le_succ_of_le above)
        (settledFirst.mono (Nat.le_succ _)) settledWhole same
      cases begins with
      | whole => omega
      | operand begins => exact ⟨suffix, begins, rest⟩
      | @binary _ _ _ _ member sign _ _ _ _ =>
          rw [rest] at settledFirst
          exact (not_settled_of_sign member sign _ settledFirst).elim
  | level, outer, .binary left operator member sign right, whole, firstRest, wholeRest, above,
      settledFirst, settledWhole, same => by
      have sameLeft : left.tokens ++ (sign.val :: (right.tokens ++ firstRest)) =
          whole.tokens ++ wholeRest := by
        simpa [Expression.tokens] using same
      obtain ⟨suffix, begins, rest⟩ := left.begins_of_tokens whole above
        (settled_of_sign member sign _) settledWhole sameLeft
      cases begins with
      | whole =>
          rw [← List.nil_append wholeRest, ← rest] at settledWhole
          exact (not_settled_of_sign member sign _ settledWhole).elim
      | operand begins =>
          have settledSuffix := begins.settled settledWhole
          rw [← rest] at settledSuffix
          exact (not_settled_of_sign member sign _ settledSuffix).elim
      | @binary _ _ _ otherOperator otherMember otherSign otherRight _ later begins =>
          rw [List.cons_append, List.append_assoc] at rest
          rcases List.cons.inj rest with ⟨sameSign, sameRight⟩
          obtain ⟨rfl, restRight⟩ := Begins.eq_whole
            (right.begins_of_tokens otherRight (Nat.le_refl _)
              (settledFirst.mono (Nat.le_succ _)) (begins.settled settledWhole) sameRight)
            settledFirst
          cases Terminal.kind_eq sameSign
          obtain rfl := Subtype.ext sameSign
          exact ⟨later, begins, restRight⟩

theorem Arguments.eq_of_tokens :
    ∀ (first second : Arguments) (firstClosing secondClosing : Terminal .rightParenthesis)
      {firstRest secondRest : List Token},
      first.tokens ++ firstClosing.val :: firstRest =
          second.tokens ++ secondClosing.val :: secondRest →
        first = second ∧ firstClosing = secondClosing ∧ firstRest = secondRest
  | .none, .none, firstClosing, secondClosing, firstRest, secondRest, same => by
      rcases List.cons.inj same with ⟨sameClosing, sameRest⟩
      exact ⟨rfl, Subtype.ext sameClosing, sameRest⟩
  | .none, .last argument, firstClosing, _, _, _, same
  | .none, .more argument _ _, firstClosing, _, _, _, same => by
      simp only [Arguments.tokens, List.append_assoc, List.nil_append] at same
      exact (argument.tokens_ne_closing firstClosing same.symm).elim
  | .last argument, .none, _, secondClosing, _, _, same
  | .more argument _ _, .none, _, secondClosing, _, _, same => by
      simp only [Arguments.tokens, List.append_assoc, List.nil_append] at same
      exact (argument.tokens_ne_closing secondClosing same).elim
  | .last argument, .last other, firstClosing, secondClosing, firstRest, secondRest, same => by
      obtain ⟨rfl, rest⟩ := Begins.eq_whole
        (argument.begins_of_tokens other (Nat.le_refl 0) (settled_of_closing firstClosing _)
          (settled_of_closing secondClosing _) same) (settled_of_closing firstClosing _)
      rcases List.cons.inj rest with ⟨sameClosing, sameRest⟩
      exact ⟨rfl, Subtype.ext sameClosing, sameRest⟩
  | .last argument, .more other comma _, firstClosing, secondClosing, _, _, same => by
      simp only [Arguments.tokens, List.append_assoc, List.cons_append] at same
      obtain ⟨_, rest⟩ := Begins.eq_whole
        (argument.begins_of_tokens other (Nat.le_refl 0) (settled_of_closing firstClosing _)
          (settled_of_comma comma _) same) (settled_of_closing firstClosing _)
      cases Terminal.kind_eq (List.cons.inj rest).1
  | .more argument comma _, .last other, firstClosing, secondClosing, _, _, same => by
      simp only [Arguments.tokens, List.append_assoc, List.cons_append] at same
      obtain ⟨_, rest⟩ := Begins.eq_whole
        (argument.begins_of_tokens other (Nat.le_refl 0) (settled_of_comma comma _)
          (settled_of_closing secondClosing _) same) (settled_of_comma comma _)
      cases Terminal.kind_eq (List.cons.inj rest).1
  | .more argument comma others, .more other otherComma moreOthers, firstClosing,
      secondClosing, firstRest, secondRest, same => by
      simp only [Arguments.tokens, List.append_assoc, List.cons_append] at same
      obtain ⟨rfl, rest⟩ := Begins.eq_whole
        (argument.begins_of_tokens other (Nat.le_refl 0) (settled_of_comma comma _)
          (settled_of_comma otherComma _) same) (settled_of_comma comma _)
      rcases List.cons.inj rest with ⟨sameComma, sameOthers⟩
      obtain ⟨rfl, sameRest⟩ := others.eq_of_tokens moreOthers firstClosing secondClosing
        sameOthers
      obtain rfl := Subtype.ext sameComma
      exact ⟨rfl, sameRest⟩

end

/-- Two expressions of a level at the front of the same tokens are the same. -/
theorem Expression.eq_of_tokens {level : Nat} {first second : Expression level}
    {firstRest secondRest : List Token} (settledFirst : Settled level firstRest)
    (settledSecond : Settled level secondRest)
    (same : first.tokens ++ firstRest = second.tokens ++ secondRest) :
    first = second ∧ firstRest = secondRest :=
  Begins.eq_whole
    (first.begins_of_tokens second (Nat.le_refl level) (settledFirst.mono (Nat.le_succ level))
      settledSecond same) settledFirst

namespace Statement

theorem exists_head (statement : Statement) :
    ∃ token later, statement.tokens = token :: later ∧ startsStatement token.kind = true := by
  cases statement with
  | label name colon => exact ⟨name.val, _, rfl, by rw [name.kind_val]; rfl⟩
  | assignment name arrow value => exact ⟨name.val, _, rfl, by rw [name.kind_val]; rfl⟩
  | instruction command name => exact ⟨name.val, _, rfl, by rw [name.kind_val]; rfl⟩
  | jump word => exact ⟨word.val, _, rfl, by rw [word.kind_val]; rfl⟩

theorem eq_of_tokens {first second : Statement} {firstRest secondRest : List Token}
    (settledFirst : Settled 0 firstRest) (settledSecond : Settled 0 secondRest)
    (same : first.tokens ++ firstRest = second.tokens ++ secondRest) :
    first = second ∧ firstRest = secondRest := by
  cases first with
  | label name colon =>
      cases second with
      | label otherName otherColon =>
          simp only [tokens, List.cons_append, List.nil_append, List.cons.injEq] at same
          rcases same with ⟨sameName, sameColon, sameRest⟩
          obtain rfl := Subtype.ext sameName
          obtain rfl := Subtype.ext sameColon
          exact ⟨rfl, sameRest⟩
      | assignment => cases Terminal.kind_eq (List.cons.inj (List.cons.inj same).2).1
      | instruction => cases Terminal.kind_eq (List.cons.inj same).1
      | jump => cases Terminal.kind_eq (List.cons.inj same).1
  | assignment name arrow value =>
      cases second with
      | label => cases Terminal.kind_eq (List.cons.inj (List.cons.inj same).2).1
      | assignment otherName otherArrow other =>
          simp only [tokens, List.cons_append, List.cons.injEq] at same
          rcases same with ⟨sameName, sameArrow, sameValue⟩
          rcases Expression.eq_of_tokens settledFirst settledSecond sameValue with ⟨rfl, sameRest⟩
          obtain rfl := Subtype.ext sameName
          obtain rfl := Subtype.ext sameArrow
          exact ⟨rfl, sameRest⟩
      | instruction => cases Terminal.kind_eq (List.cons.inj same).1
      | jump => cases Terminal.kind_eq (List.cons.inj same).1
  | instruction command name opening arguments closing =>
      cases second with
      | instruction other otherName otherOpening others otherClosing =>
          simp only [tokens, List.cons_append, List.append_assoc, List.nil_append,
            List.cons.injEq] at same
          rcases same with ⟨sameName, sameOpening, sameArguments⟩
          obtain ⟨rfl, rfl, sameRest⟩ := arguments.eq_of_tokens others closing otherClosing
            sameArguments
          cases Terminal.kind_eq sameName
          obtain rfl := Subtype.ext sameName
          obtain rfl := Subtype.ext sameOpening
          exact ⟨rfl, sameRest⟩
      | label => cases Terminal.kind_eq (List.cons.inj same).1
      | assignment => cases Terminal.kind_eq (List.cons.inj same).1
      | jump => cases Terminal.kind_eq (List.cons.inj same).1
  | jump word openingBracket target closingBracket opening condition closing =>
      cases second with
      | jump otherWord otherOpeningBracket otherTarget otherClosingBracket otherOpening other
          otherClosing =>
          simp only [tokens, List.cons_append, List.append_assoc, List.nil_append,
            List.cons.injEq] at same
          obtain ⟨sameWord, sameOpeningBracket, sameTarget, sameClosingBracket, sameOpening,
            sameCondition⟩ := same
          obtain ⟨rfl, rest⟩ := Expression.eq_of_tokens (settled_of_closing closing _)
            (settled_of_closing otherClosing _) sameCondition
          rcases List.cons.inj rest with ⟨sameClosing, sameRest⟩
          obtain rfl := Subtype.ext sameWord
          obtain rfl := Subtype.ext sameOpeningBracket
          obtain rfl := Subtype.ext sameTarget
          obtain rfl := Subtype.ext sameClosingBracket
          obtain rfl := Subtype.ext sameOpening
          obtain rfl := Subtype.ext sameClosing
          exact ⟨rfl, sameRest⟩
      | label => cases Terminal.kind_eq (List.cons.inj same).1
      | assignment => cases Terminal.kind_eq (List.cons.inj same).1
      | instruction => cases Terminal.kind_eq (List.cons.inj same).1

end Statement

/-- The input ends, or another statement begins. -/
def Boundary : List Token → Prop
  | [] => True
  | token :: _ => startsStatement token.kind = true ∨ token.kind = .endOfInput

theorem Separator.not_boundary (separator : Separator) (later : List Token) :
    ¬ Boundary (separator.val :: later) := by
  obtain ⟨token, kind | kind⟩ := separator <;> simp [Boundary, kind, startsStatement]

theorem separators_eq_of_tokens {first second : List Separator}
    {firstRest secondRest : List Token} (boundaryFirst : Boundary firstRest)
    (boundarySecond : Boundary secondRest)
    (same : first.map Subtype.val ++ firstRest = second.map Subtype.val ++ secondRest) :
    first = second ∧ firstRest = secondRest := by
  induction first generalizing second with
  | nil =>
      cases second with
      | nil => exact ⟨rfl, same⟩
      | cons separator later =>
          rw [List.map_nil, List.nil_append] at same
          rw [same] at boundaryFirst
          exact (separator.not_boundary _ boundaryFirst).elim
  | cons separator later induction =>
      cases second with
      | nil =>
          rw [List.map_nil, List.nil_append] at same
          rw [← same] at boundarySecond
          exact (separator.not_boundary _ boundarySecond).elim
      | cons other others =>
          rcases List.cons.inj same with ⟨sameSeparator, sameLater⟩
          rcases induction sameLater with ⟨rfl, sameRest⟩
          exact ⟨congrArg (· :: later) (Subtype.ext sameSeparator), sameRest⟩

theorem boundary_statementTokens (parts : List (Statement × List Separator)) {rest : List Token}
    (boundary : Boundary rest) : Boundary (Program.statementTokens parts ++ rest) := by
  cases parts with
  | nil => exact boundary
  | cons part later =>
      rcases part.1.exists_head with ⟨token, others, tokens, starts⟩
      rw [Program.statementTokens, tokens]
      exact .inl starts

theorem Program.boundary (parts : List (Statement × List Separator)) :
    Boundary (Program.statementTokens parts) := by
  rw [← List.append_nil (Program.statementTokens parts)]
  exact boundary_statementTokens parts trivial

theorem settled_of_separators (separators : List Separator) {rest : List Token}
    (boundary : Boundary rest) : Settled 0 (separators.map Subtype.val ++ rest) := by
  cases separators with
  | nil =>
      cases rest with
      | nil => trivial
      | cons token later =>
          intro operator kind
          simp [Boundary, kind, startsStatement] at boundary
  | cons separator later =>
      intro operator kind
      rcases separator with ⟨token, endOfLine | comment⟩
      · cases endOfLine.symm.trans kind
      · cases comment.symm.trans kind

theorem statementTokens_injective {first second : List (Statement × List Separator)}
    (same : Program.statementTokens first = Program.statementTokens second) :
    first = second := by
  induction first generalizing second with
  | nil =>
      cases second with
      | nil => rfl
      | cons part later =>
          rcases part.1.exists_head with ⟨token, others, tokens, -⟩
          simp [Program.statementTokens, tokens] at same
  | cons part later induction =>
      cases second with
      | nil =>
          rcases part.1.exists_head with ⟨token, others, tokens, -⟩
          simp [Program.statementTokens, tokens] at same
      | cons other others =>
          obtain ⟨sameStatement, sameSeparators⟩ := Statement.eq_of_tokens
            (settled_of_separators _ (Program.boundary later))
            (settled_of_separators _ (Program.boundary others)) same
          obtain ⟨separatorsEq, sameLater⟩ :=
            separators_eq_of_tokens (Program.boundary later) (Program.boundary others)
              sameSeparators
          rw [Prod.ext sameStatement separatorsEq, induction sameLater]

/-- The grammar is unambiguous: tokens have at most one derivation. -/
theorem Program.eq_of_tokens {first second : Program} (same : first.tokens = second.tokens) :
    first = second := by
  rcases first with ⟨leading, statements⟩
  rcases second with ⟨otherLeading, otherStatements⟩
  obtain ⟨rfl, sameStatements⟩ :=
    separators_eq_of_tokens (Program.boundary statements) (Program.boundary otherStatements) same
  rw [statementTokens_injective sameStatements]

end Grammar
end PixelBrush
