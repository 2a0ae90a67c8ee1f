import PixelBrush.Proofs.Parser

/-! # The nesting limit of reading

A smaller budget can only cut a reading off.  Unless it finds the program nested
too deeply, it gives what any larger budget gives.
-/

namespace PixelBrush
namespace Parser

open Grammar Reading

variable {α β : Type}

/-- A reading has failed because of nesting. -/
def TooDeep (result : EStateM.Result Complaint (List Token) α) : Prop :=
  ∃ location rest, result = .error ⟨.nestedTooDeeply, location⟩ rest

/-- The first reading finds nesting too deep or gives what the second one gives. -/
def CutsOff (shallow deep : Reading α) : Prop :=
  ∀ tokens, TooDeep (shallow tokens) ∨ deep tokens = shallow tokens

namespace CutsOff

theorem refl (reading : Reading α) : CutsOff reading reading :=
  fun _ => .inr rfl

theorem nestedTooDeeply (deep : Reading α) : CutsOff (fail .nestedTooDeeply) deep :=
  fun _ => .inl ⟨_, _, rfl⟩

theorem bind {shallow deep : Reading α} {shallowNext deepNext : α → Reading β}
    (cuts : CutsOff shallow deep)
    (cutsNext : ∀ result, CutsOff (shallowNext result) (deepNext result)) :
    CutsOff (shallow >>= shallowNext) (deep >>= deepNext) := by
  intro tokens
  rcases cuts tokens with ⟨location, rest, failed⟩ | same
  · exact .inl ⟨location, rest, bind_of_error failed⟩
  · rw [bind_eq, bind_eq, same]
    cases shallow tokens with
    | ok result rest => exact cutsNext result rest
    | error complaint rest => exact .inr rfl

theorem bind_same {reading : Reading α} {shallowNext deepNext : α → Reading β}
    (cutsNext : ∀ result, CutsOff (shallowNext result) (deepNext result)) :
    CutsOff (reading >>= shallowNext) (reading >>= deepNext) :=
  (refl reading).bind cutsNext

theorem operators {shallow deep : Nat → Reading Node}
    (cuts : ∀ floor, CutsOff (shallow floor) (deep floor)) (floor rounds : Nat) (left : Node) :
    CutsOff (operators shallow floor rounds left) (operators deep floor rounds left) := by
  induction rounds generalizing left with
  | zero => exact refl _
  | succ rounds induction =>
      intro tokens
      by_cases settled : Settled floor tokens
      · rw [operators_settled _ _ _ _ settled, operators_settled _ _ _ _ settled]
        exact .inr rfl
      · obtain ⟨token, later, operator, rfl, kind, tighter⟩ := exists_of_not_settled settled
        rw [operators_join _ _ _ _ kind tighter, operators_join _ _ _ _ kind tighter]
        exact (cuts _).bind (fun right => induction _) later

theorem argumentList {shallow deep : Reading Node} (cuts : CutsOff shallow deep) (owner : String)
    (rounds : Nat) :
    CutsOff (argumentList shallow owner rounds) (argumentList deep owner rounds) := by
  induction rounds with
  | zero => exact refl _
  | succ rounds induction =>
      intro tokens
      cases tokens with
      | nil => exact .inr rfl
      | cons token later =>
          by_cases isClosing : token.kind = .rightParenthesis
          · rw [argumentList_closing _ _ _ isClosing, argumentList_closing _ _ _ isClosing]
            exact .inr rfl
          · by_cases isEnd : token.kind = .endOfInput
            · rw [argumentList_end _ _ _ isEnd, argumentList_end _ _ _ isEnd]
              exact .inr rfl
            · rw [argumentList_item _ _ _ isClosing isEnd, argumentList_item _ _ _ isClosing isEnd]
              refine cuts.bind (fun first => bind_same fun accepted => ?_) _
              cases accepted with
              | true => exact induction.bind fun others => refl _
              | false => exact refl _

end CutsOff

/-- Every reading that takes from a budget is cut off by it at most. -/
structure Monotone (budget more : Nat) : Prop where
  expression : ∀ floor, CutsOff (expression budget floor) (expression more floor)
  atom : CutsOff (atom budget) (atom more)
  call : CutsOff (call budget) (call more)
  arguments : ∀ owner, CutsOff (arguments budget owner) (arguments more owner)

theorem Monotone.succ {budget more : Nat} (monotone : Monotone budget more) :
    Monotone (budget + 1) (more + 1) where
  expression floor :=
    monotone.atom.bind fun left => CutsOff.bind_same fun rounds =>
      CutsOff.operators monotone.expression floor rounds left
  atom := by
    intro tokens
    cases tokens with
    | nil => exact .inr rfl
    | cons token later =>
        by_cases starts : startsAtom token.kind = true
        · rcases startsAtom_iff.mp starts with
            ⟨kind, isLiteral⟩ | isName | ⟨query, isQuery⟩ | isOpening | ⟨operator, isSign⟩
          · rw [atom_literal _ isLiteral, atom_literal _ isLiteral]
            exact .inr rfl
          · rw [atom_reference _ isName, atom_reference _ isName]
            exact .inr rfl
          · rw [atom_call _ isQuery, atom_call _ isQuery]
            exact monotone.call _
          · rw [atom_enclosed _ isOpening, atom_enclosed _ isOpening]
            exact (monotone.expression 0).bind (fun inner => CutsOff.refl _) later
          · rw [atom_unary _ isSign, atom_unary _ isSign]
            exact monotone.atom.bind (fun operand => CutsOff.refl _) later
        · rw [atom_other _ (Bool.eq_false_iff.mpr starts),
            atom_other _ (Bool.eq_false_iff.mpr starts)]
          exact .inr rfl
  call := by
    refine CutsOff.bind_same fun query? => CutsOff.bind_same fun _ => ?_
    cases query? with
    | none => exact CutsOff.refl _
    | some query => exact (monotone.arguments query.text).bind fun _ => CutsOff.refl _
  arguments owner :=
    CutsOff.bind_same fun rounds => (monotone.expression 0).argumentList owner rounds

theorem monotone {budget more : Nat} (atMost : budget ≤ more) : Monotone budget more := by
  induction budget generalizing more with
  | zero =>
      exact ⟨fun _ => .nestedTooDeeply _, .nestedTooDeeply _, .nestedTooDeeply _,
        fun _ => .nestedTooDeeply _⟩
  | succ budget induction =>
      obtain ⟨fewer, rfl⟩ : ∃ fewer, more = fewer + 1 := ⟨more - 1, by omega⟩
      exact (induction (by omega)).succ

theorem statement_cutsOff {budget more : Nat} (atMost : budget ≤ more) :
    CutsOff (statement budget) (statement more) := by
  have cuts := monotone atMost
  intro tokens
  cases tokens with
  | nil => exact .inr rfl
  | cons token later =>
      by_cases starts : startsStatement token.kind = true
      · rcases startsStatement_iff.mp starts with isName | ⟨command, isCommand⟩ | isJump
        · rw [statement_named _ isName, statement_named _ isName]
          refine CutsOff.bind_same (fun isLabel => ?_) later
          cases isLabel with
          | true => exact CutsOff.refl _
          | false =>
              refine CutsOff.bind_same fun isAssignment => ?_
              cases isAssignment with
              | true => exact (cuts.expression 0).bind fun value => CutsOff.refl _
              | false => exact CutsOff.refl _
        · rw [statement_instruction _ isCommand, statement_instruction _ isCommand]
          exact CutsOff.bind_same (fun _ => (cuts.arguments _).bind fun _ => CutsOff.refl _) later
        · rw [statement_jump _ isJump, statement_jump _ isJump]
          refine CutsOff.bind_same (fun _ => CutsOff.bind_same fun _ => CutsOff.bind_same fun _ =>
            CutsOff.bind_same fun _ => ?_) later
          exact (cuts.expression 0).bind fun condition => CutsOff.refl _
      · rw [statement_other _ (Bool.eq_false_iff.mpr starts),
          statement_other _ (Bool.eq_false_iff.mpr starts)]
        exact .inr rfl

theorem statements_cutsOff {budget more : Nat} (atMost : budget ≤ more) (rounds : Nat) :
    CutsOff (statements budget rounds) (statements more rounds) := by
  induction rounds with
  | zero => exact CutsOff.refl _
  | succ rounds induction =>
      intro tokens
      cases tokens with
      | nil => exact .inr rfl
      | cons token later =>
          by_cases isEnd : token.kind = .endOfInput
          · rw [statements_end _ _ isEnd, statements_end _ _ isEnd]
            exact .inr rfl
          · rw [statements_cons _ _ isEnd, statements_cons _ _ isEnd]
            exact (statement_cutsOff atMost).bind (fun first => CutsOff.bind_same fun _ =>
              induction.bind fun others => CutsOff.refl _) _

theorem program_cutsOff {budget more : Nat} (atMost : budget ≤ more) :
    CutsOff (program budget) (program more) :=
  CutsOff.bind_same fun _ => CutsOff.bind_same fun rounds => statements_cutsOff atMost rounds

end Parser
end PixelBrush
