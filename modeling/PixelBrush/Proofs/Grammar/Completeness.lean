import PixelBrush.Proofs.Grammar.Unambiguity
import PixelBrush.Proofs.Parser

/-! # Derivations are read

Given budget enough, whatever has a derivation is read, and gives the tree that
the derivation stands for.
-/

namespace PixelBrush
namespace Grammar

open Reading

/-- With a large enough budget, an atom is read from the front of any tokens. -/
def Atom.Complete (atom : Atom) : Prop :=
  ∃ enough, ∀ budget, enough ≤ budget → ∀ rest,
    Parser.atom budget (atom.tokens ++ rest) = .ok atom.tree rest

/-- With a large enough budget, reading an expression arrives behind it with its
tree as the left operand of what may follow.  The floor can be that of any looser
level, since the operators that follow bind no tighter than those within. -/
def Expression.Complete {level : Nat} (expression : Expression level) : Prop :=
  ∃ enough, ∀ budget, enough ≤ budget → ∀ floor, floor ≤ level → ∀ rest,
    Settled (level + 1) rest → ∃ rounds, rest.length ≤ rounds ∧
      Parser.expression (budget + 1) floor (expression.tokens ++ rest) =
        Parser.operators (Parser.expression budget) floor rounds expression.tree rest

/-- With a large enough budget, arguments are read up to the closing
parenthesis. -/
def Arguments.Complete (arguments : Arguments) : Prop :=
  ∃ enough, ∀ budget, enough ≤ budget → ∀ owner rounds, arguments.tokens.length ≤ rounds →
    ∀ (closing : Terminal .rightParenthesis) rest,
      Parser.argumentList (Parser.expression budget 0) owner rounds
          (arguments.tokens ++ closing.val :: rest) = .ok arguments.trees rest

theorem Expression.Complete.read {level : Nat} {expression : Expression level}
    (complete : expression.Complete) :
    ∃ enough, ∀ budget, enough ≤ budget → ∀ rest, Settled level rest →
      Parser.expression budget level (expression.tokens ++ rest) = .ok expression.tree rest := by
  obtain ⟨enough, reads⟩ := complete
  refine ⟨enough + 1, fun budget large rest settled => ?_⟩
  obtain ⟨fewer, rfl⟩ : ∃ fewer, budget = fewer + 1 := ⟨budget - 1, by omega⟩
  obtain ⟨rounds, -, read⟩ := reads fewer (by omega) level (Nat.le_refl level) rest
    (settled.mono (Nat.le_succ level))
  rw [read, Parser.operators_settled _ _ _ _ settled]

/-- An argument is read, and what comes behind it decides what follows. -/
theorem Expression.Complete.readArgument {argument : Expression 0}
    (complete : argument.Complete) :
    ∃ enough, ∀ budget, enough ≤ budget → ∀ owner rounds, argument.tokens.length ≤ rounds →
      ∀ rest, Settled 0 rest → ∃ fewer, rounds = fewer + 1 ∧
        Parser.argumentList (Parser.expression budget 0) owner rounds (argument.tokens ++ rest) =
          (accept .comma >>= fun accepted => do
            if accepted then
              let others ← Parser.argumentList (Parser.expression budget 0) owner fewer
              pure (argument.tree :: others)
            else
              let _ ← expect .rightParenthesis (.separatorWanted owner)
              pure [argument.tree]) rest := by
  obtain ⟨enough, reads⟩ := complete.read
  refine ⟨enough, fun budget large owner rounds many rest settled => ?_⟩
  have read := reads budget large rest settled
  obtain ⟨token, later, tokens, starts⟩ := argument.exists_head
  rw [tokens] at many read ⊢
  obtain ⟨fewer, rfl⟩ : ∃ fewer, rounds = fewer + 1 := ⟨rounds - 1, by simp at many; omega⟩
  refine ⟨fewer, rfl, ?_⟩
  have notClosing : token.kind ≠ .rightParenthesis := fun kind => by
    rw [kind] at starts
    cases starts
  have notEnd : token.kind ≠ .endOfInput := fun kind => by
    rw [kind] at starts
    cases starts
  rw [List.cons_append] at read ⊢
  rw [Parser.argumentList_item _ _ _ notClosing notEnd, bind_of_ok read]

theorem Arguments.Complete.read {arguments : Arguments} (complete : arguments.Complete) :
    ∃ enough, ∀ budget, enough ≤ budget → ∀ owner (closing : Terminal .rightParenthesis) rest,
      Parser.arguments budget owner (arguments.tokens ++ closing.val :: rest) =
        .ok arguments.trees rest := by
  obtain ⟨enough, reads⟩ := complete
  refine ⟨enough + 1, fun budget large owner closing rest => ?_⟩
  obtain ⟨fewer, rfl⟩ : ∃ fewer, budget = fewer + 1 := ⟨budget - 1, by omega⟩
  rw [Parser.arguments, remaining_bind]
  exact reads fewer (by omega) owner _ (by simp) closing rest

mutual

theorem Atom.complete : ∀ atom : Atom, atom.Complete
  | .literal kind token =>
      ⟨1, fun budget large rest => by
        obtain ⟨fewer, rfl⟩ : ∃ fewer, budget = fewer + 1 := ⟨budget - 1, by omega⟩
        exact Parser.atom_literal fewer token.kind_val⟩
  | .reference name =>
      ⟨1, fun budget large rest => by
        obtain ⟨fewer, rfl⟩ : ∃ fewer, budget = fewer + 1 := ⟨budget - 1, by omega⟩
        exact Parser.atom_reference fewer name.kind_val⟩
  | .call query name opening arguments closing => by
      obtain ⟨enough, reads⟩ := arguments.complete.read
      refine ⟨enough + 2, fun budget large rest => ?_⟩
      obtain ⟨fewer, rfl⟩ : ∃ fewer, budget = fewer + 2 := ⟨budget - 2, by omega⟩
      have read := reads fewer (by omega) name.val.text closing rest
      rw [Atom.tokens, List.cons_append, List.cons_append, List.append_assoc, List.cons_append,
        List.nil_append, Parser.atom_call _ name.kind_val, Parser.call_cons,
        bind_of_ok (expect_of_kind opening.kind_val _), bind_of_ok read, name.kind_val, Atom.tree]
      rfl
  | .enclosed opening inner closing => by
      obtain ⟨enough, reads⟩ := inner.complete.read
      refine ⟨enough + 1, fun budget large rest => ?_⟩
      obtain ⟨fewer, rfl⟩ : ∃ fewer, budget = fewer + 1 := ⟨budget - 1, by omega⟩
      have read := reads fewer (by omega) (closing.val :: rest) (settled_of_closing closing rest)
      rw [Atom.tokens, List.cons_append, List.append_assoc, List.cons_append, List.nil_append,
        Parser.atom_enclosed _ opening.kind_val, bind_of_ok read,
        bind_of_ok (expect_of_kind closing.kind_val rest), Atom.tree]
      rfl
  | .unary operator sign operand => by
      obtain ⟨enough, reads⟩ := operand.complete
      refine ⟨enough + 1, fun budget large rest => ?_⟩
      obtain ⟨fewer, rfl⟩ : ∃ fewer, budget = fewer + 1 := ⟨budget - 1, by omega⟩
      rw [Atom.tokens, List.cons_append, Parser.atom_unary _ sign.kind_val,
        bind_of_ok (reads fewer (by omega) rest), Atom.tree]
      rfl

theorem Expression.complete : ∀ {level : Nat} (expression : Expression level), expression.Complete
  | _, .atom atom => by
      obtain ⟨enough, reads⟩ := atom.complete
      refine ⟨enough, fun budget large floor below rest settled => ?_⟩
      refine ⟨rest.length, Nat.le_refl _, ?_⟩
      rw [Expression.tokens, Expression.tree, Parser.expression,
        bind_of_ok (reads budget large rest), remaining_bind]
  | _, .operand _ inner => by
      obtain ⟨enough, reads⟩ := inner.complete
      refine ⟨enough, fun budget large floor below rest settled => ?_⟩
      rw [Expression.tokens, Expression.tree]
      exact reads budget large floor (Nat.le_succ_of_le below) rest (settled.mono (Nat.le_succ _))
  | level, .binary left operator member sign right => by
      obtain ⟨enoughLeft, readsLeft⟩ := left.complete
      obtain ⟨enoughRight, readsRight⟩ := right.complete.read
      refine ⟨max enoughLeft enoughRight, fun budget large floor below rest settled => ?_⟩
      have precedence := mem_operatorsAt.mp member
      obtain ⟨rounds, many, readLeft⟩ := readsLeft budget (by omega) floor below
        (sign.val :: (right.tokens ++ rest)) (settled_of_sign member sign _)
      obtain ⟨fewer, rfl⟩ : ∃ fewer, rounds = fewer + 1 := ⟨rounds - 1, by simp at many; omega⟩
      refine ⟨fewer, by simp at many; omega, ?_⟩
      have readRight := readsRight budget (by omega) rest settled
      rw [Expression.tokens, Expression.tree, List.append_assoc, List.cons_append, readLeft,
        Parser.operators_join _ _ _ _ sign.kind_val (by omega), precedence, bind_of_ok readRight]

theorem Arguments.complete : ∀ arguments : Arguments, arguments.Complete
  | .none =>
      ⟨0, fun budget _ owner rounds _ closing rest =>
        Parser.argumentList_closing _ owner rounds closing.kind_val⟩
  | .last argument => by
      obtain ⟨enough, reads⟩ := argument.complete.readArgument
      refine ⟨enough, fun budget large owner rounds many closing rest => ?_⟩
      obtain ⟨fewer, -, read⟩ := reads budget large owner rounds
        (by simpa [Arguments.tokens] using many) (closing.val :: rest)
        (settled_of_closing closing rest)
      have notComma : closing.val.kind ≠ .comma := by simp
      rw [Arguments.tokens, read, bind_of_ok (accept_of_other notComma rest), if_neg (by simp),
        bind_of_ok (expect_of_kind closing.kind_val rest), Arguments.trees]
      rfl
  | .more argument comma others => by
      obtain ⟨enoughFirst, reads⟩ := argument.complete.readArgument
      obtain ⟨enoughOthers, readsOthers⟩ := others.complete
      refine ⟨max enoughFirst enoughOthers, fun budget large owner rounds many closing rest => ?_⟩
      simp only [Arguments.tokens, List.length_append, List.length_cons] at many
      obtain ⟨fewer, rfl, read⟩ := reads budget (by omega) owner rounds (by omega)
        (comma.val :: (others.tokens ++ closing.val :: rest)) (settled_of_comma comma _)
      have readOthers := readsOthers budget (by omega) owner fewer (by omega) closing rest
      rw [Arguments.tokens, List.append_assoc, List.cons_append, read,
        bind_of_ok (accept_of_kind comma.kind_val _), if_pos rfl, bind_of_ok readOthers,
        Arguments.trees]
      rfl

end

theorem Statement.complete (statement : Statement) :
    ∃ enough, ∀ budget, enough ≤ budget → ∀ rest, Settled 0 rest →
      Parser.statement budget (statement.tokens ++ rest) = .ok statement.tree rest := by
  cases statement with
  | label name colon =>
      refine ⟨0, fun budget _ rest _ => ?_⟩
      rw [Statement.tokens, List.cons_append, Parser.statement_named _ name.kind_val,
        List.cons_append, bind_of_ok (accept_of_kind colon.kind_val _), if_pos rfl]
      rfl
  | assignment name arrow value =>
      obtain ⟨enough, reads⟩ := value.complete.read
      refine ⟨enough, fun budget large rest settled => ?_⟩
      have notColon : arrow.val.kind ≠ .colon := by simp
      rw [Statement.tokens, List.cons_append, Parser.statement_named _ name.kind_val,
        List.cons_append, bind_of_ok (accept_of_other notColon _), if_neg (by simp),
        bind_of_ok (accept_of_kind arrow.kind_val _), if_pos rfl,
        bind_of_ok (reads budget large rest settled)]
      rfl
  | instruction command name opening arguments closing =>
      obtain ⟨enough, reads⟩ := arguments.complete.read
      refine ⟨enough, fun budget large rest _ => ?_⟩
      have read := reads budget large name.val.text closing rest
      rw [Statement.tokens, List.cons_append, Parser.statement_instruction _ name.kind_val,
        List.cons_append, bind_of_ok (expect_of_kind opening.kind_val _), List.append_assoc,
        List.cons_append, List.nil_append, bind_of_ok read]
      rfl
  | jump word openingBracket target closingBracket opening condition closing =>
      obtain ⟨enough, reads⟩ := condition.complete.read
      refine ⟨enough, fun budget large rest _ => ?_⟩
      have read := reads budget large (closing.val :: rest) (settled_of_closing closing rest)
      rw [Statement.tokens, List.cons_append, Parser.statement_jump _ word.kind_val]
      simp only [List.cons_append, List.append_assoc, List.nil_append]
      rw [bind_of_ok (expect_of_kind openingBracket.kind_val _),
        bind_of_ok (expect_of_kind target.kind_val _),
        bind_of_ok (expect_of_kind closingBracket.kind_val _),
        bind_of_ok (expect_of_kind opening.kind_val _), bind_of_ok read,
        bind_of_ok (expect_of_kind closing.kind_val _)]
      rfl

theorem Boundary.not_separates {token : Token} {later : List Token}
    (boundary : Boundary (token :: later)) : Parser.separates token.kind = false := by
  rcases boundary with starts | isEnd
  · rcases startsStatement_iff.mp starts with kind | ⟨command, kind⟩ | kind <;> rw [kind] <;> rfl
  · rw [isEnd]
    rfl

theorem separators_complete (separators : List Separator) {rest : List Token}
    (boundary : Boundary rest) :
    Parser.separators (separators.map Subtype.val ++ rest) = .ok () rest := by
  have separates : ∀ token ∈ separators.map Subtype.val,
      Parser.separates token.kind = true := by
    intro token member
    obtain ⟨separator, -, rfl⟩ := List.mem_map.mp member
    simpa [Parser.separates] using separator.property
  rw [Parser.separators, List.dropWhile_append_of_pos separates]
  cases rest with
  | nil => rfl
  | cons token later => rw [List.dropWhile_cons_of_neg (by simp [boundary.not_separates])]

theorem Ended.boundary {rest : List Token} (ended : Ended rest) : Boundary rest := by
  cases rest with
  | nil => trivial
  | cons token later => exact .inr ended

theorem statements_complete (parts : List (Statement × List Separator)) :
    ∃ enough, ∀ budget, enough ≤ budget → ∀ rounds,
      (Program.statementTokens parts).length ≤ rounds → ∀ rest, Ended rest →
        Parser.statements budget rounds (Program.statementTokens parts ++ rest) =
          .ok (parts.map fun part => part.1.tree) rest := by
  induction parts with
  | nil =>
      refine ⟨0, fun budget _ rounds _ rest ended => ?_⟩
      cases rest with
      | nil => exact Parser.statements_nil budget rounds
      | cons token later => exact Parser.statements_end budget rounds ended
  | cons part later induction =>
      obtain ⟨statement, separators⟩ := part
      obtain ⟨enoughFirst, readsFirst⟩ := statement.complete
      obtain ⟨enoughLater, readsLater⟩ := induction
      refine ⟨max enoughFirst enoughLater, fun budget large rounds many rest ended => ?_⟩
      have boundary := boundary_statementTokens later ended.boundary
      have readFirst := readsFirst budget (by omega) _ (settled_of_separators separators boundary)
      obtain ⟨token, others, tokens, starts⟩ := statement.exists_head
      have notEnd : token.kind ≠ .endOfInput := fun kind => by
        rw [kind] at starts
        cases starts
      simp only [Program.statementTokens, tokens, List.length_append, List.length_cons] at many
      obtain ⟨fewer, rfl⟩ : ∃ fewer, rounds = fewer + 1 := ⟨rounds - 1, by omega⟩
      have readLater := readsLater budget (by omega) fewer (by omega) rest ended
      rw [tokens, List.cons_append] at readFirst
      rw [Program.statementTokens, tokens, List.append_assoc, List.append_assoc, List.cons_append,
        Parser.statements_cons _ _ notEnd, bind_of_ok readFirst,
        bind_of_ok (separators_complete separators boundary), bind_of_ok readLater]
      rfl

/-- With a large enough budget, a program is read up to the end of the input. -/
theorem Program.complete (program : Program) :
    ∃ enough, ∀ budget, enough ≤ budget → ∀ rest, Ended rest →
      Parser.program budget (program.tokens ++ rest) = .ok program.trees rest := by
  obtain ⟨enough, reads⟩ := statements_complete program.statements
  refine ⟨enough, fun budget large rest ended => ?_⟩
  have boundary := boundary_statementTokens program.statements ended.boundary
  rw [Program.tokens, List.append_assoc, Parser.program,
    bind_of_ok (separators_complete program.leading boundary), remaining_bind]
  exact reads budget large _ (by simp) rest ended

end Grammar
end PixelBrush
