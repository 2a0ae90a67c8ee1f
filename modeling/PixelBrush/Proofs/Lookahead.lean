import PixelBrush.Proofs.Grammar.Soundness

/-! # How far readings look ahead

A reading sees no more than the tokens that it takes and the one behind them.
Whatever else may follow, it comes to the same and stops at the same place.
-/

namespace PixelBrush
namespace Reading

variable {α β : Type}

/-- The tokens that are left when a reading has succeeded or failed. -/
def left : EStateM.Result Complaint (List Token) α → List Token
  | .ok _ rest | .error _ rest => rest

/-- A result with other tokens left. -/
def leaving (rest : List Token) :
    EStateM.Result Complaint (List Token) α → EStateM.Result Complaint (List Token) α
  | .ok value _ => .ok value rest
  | .error complaint _ => .error complaint rest

/-- Whether a reading takes tokens from the front and sees only one token more. -/
structure Local (reading : Reading α) : Prop where
  suffix : ∀ tokens, left (reading tokens) <:+ tokens
  lookahead : ∀ (taken : List Token) {token : Token} {rest : List Token},
    left (reading (taken ++ token :: rest)) = token :: rest → ∀ other,
      reading (taken ++ token :: other) =
        leaving (token :: other) (reading (taken ++ token :: rest))

namespace Local

variable {rest : List Token} {token : Token}

theorem nil_of_append_eq (taken : List Token) (stays : taken ++ token :: rest = token :: rest) :
    taken = [] := by
  simpa using stays

/-- Readings that take nothing. -/
theorem of_stays {reading : Reading α} (stays : ∀ tokens, left (reading tokens) = tokens)
    (sees : ∀ token rest other,
      reading (token :: other) = leaving (token :: other) (reading (token :: rest))) :
    Local reading where
  suffix tokens := by simp [stays]
  lookahead taken token rest stops other := by
    rw [stays] at stops
    obtain rfl := nil_of_append_eq _ stops
    exact sees token rest other

/-- Readings that look at one token, and perhaps take it. -/
theorem of_head {reading : Reading α} (none : left (reading []) = [])
    (head : ∀ token, (∀ rest, left (reading (token :: rest)) = token :: rest ∧ ∀ other,
        reading (token :: other) = leaving (token :: other) (reading (token :: rest))) ∨
      ∃ value, ∀ rest, reading (token :: rest) = .ok value rest) :
    Local reading where
  suffix tokens := by
    cases tokens with
    | nil => simp [none]
    | cons token rest =>
        rcases head token with stays | ⟨value, takes⟩
        · simp [(stays rest).1]
        · rw [takes]
          exact List.suffix_cons token rest
  lookahead taken token rest stops other := by
    cases taken with
    | nil =>
        rcases head token with stays | ⟨value, takes⟩
        · exact (stays rest).2 other
        · rw [List.nil_append, takes] at stops
          exact absurd stops.symm (List.cons_ne_self token rest)
    | cons first later =>
        rcases head first with stays | ⟨value, takes⟩
        · rw [List.cons_append, (stays _).1] at stops
          exact absurd (nil_of_append_eq (first :: later) stops) (List.cons_ne_nil _ _)
        · rw [List.cons_append, takes] at stops
          obtain rfl := nil_of_append_eq _ stops
          rw [List.cons_append, takes, List.cons_append, takes]
          rfl

theorem bind {reading : Reading α} {next : α → Reading β} (first : Local reading)
    (later : ∀ value, Local (next value)) : Local (reading >>= next) where
  suffix tokens := by
    have taken := first.suffix tokens
    rw [bind_eq]
    cases found : reading tokens with
    | error complaint middle =>
        rw [found] at taken
        exact taken
    | ok value middle =>
        rw [found] at taken
        exact ((later value).suffix middle).trans taken
  lookahead taken token rest stops other := by
    have suffix := first.suffix (taken ++ token :: rest)
    rw [bind_eq] at stops ⊢
    rw [bind_eq]
    cases found : reading (taken ++ token :: rest) with
    | error complaint middle =>
        rw [found] at stops
        have same := first.lookahead taken (by rw [found]; exact stops) other
        rw [same, found]
        rfl
    | ok value middle =>
        rw [found] at stops suffix
        dsimp only at stops ⊢
        -- The second reading goes on from where the first has stopped: at the token, or before.
        obtain ⟨before, split⟩ := suffix
        obtain ⟨between, reached⟩ := (later value).suffix middle
        rw [stops] at reached
        subst reached
        have takenSplit : taken = before ++ between := by
          rw [left, ← List.append_assoc] at split
          exact (List.append_cancel_right split).symm
        subst takenSplit
        cases between with
        | nil =>
            rw [List.append_nil] at found ⊢
            have same := first.lookahead before (by rw [found]; rfl) other
            rw [same, found]
            exact (later value).lookahead [] stops other
        | cons next between =>
            rw [List.append_assoc, List.cons_append] at found ⊢
            have same := first.lookahead before (by rw [found]; rfl)
              (between ++ token :: other)
            rw [same, found]
            exact (later value).lookahead (next :: between) stops other

theorem pure (value : α) : Local (pure value : Reading α) :=
  of_stays (fun _ => rfl) fun _ _ _ => rfl

theorem failAt (reason : Reason) (location : Location) :
    Local (Reading.failAt reason location : Reading α) :=
  of_stays (fun _ => rfl) fun _ _ _ => rfl

theorem fail (reason : Reason) : Local (Reading.fail reason : Reading α) :=
  of_stays (fun _ => rfl) fun _ _ _ => rfl

theorem current? : Local Reading.current? :=
  of_stays (fun _ => rfl) fun _ _ _ => rfl

theorem currentKind? : Local Reading.currentKind? :=
  of_stays (fun _ => rfl) fun _ _ _ => rfl

theorem next : Local Reading.next :=
  of_head rfl fun token => .inr ⟨token, fun _ => rfl⟩

theorem next? : Local Reading.next? :=
  of_head rfl fun token => .inr ⟨some token, fun _ => rfl⟩

theorem accept (kind : TokenKind) : Local (Reading.accept kind) := by
  refine of_head rfl fun token => ?_
  by_cases fits : token.kind = kind
  · exact .inr ⟨true, accept_of_kind fits⟩
  · refine .inl fun rest => ?_
    rw [accept_of_other fits]
    exact ⟨rfl, fun other => accept_of_other fits other⟩

theorem expect (kind : TokenKind) (reason : Reason) : Local (Reading.expect kind reason) := by
  refine of_head rfl fun token => ?_
  by_cases fits : token.kind = kind
  · exact .inr ⟨token, expect_of_kind fits⟩
  · refine .inl fun rest => ?_
    simp [Reading.expect, fits, left, leaving]

/-- A loop that may go round at least as often as tokens are left goes as far as it can. -/
theorem of_rounds {loop : Nat → Reading α} (each : ∀ rounds, Local (loop rounds))
    (enough : ∀ {rounds more tokens}, tokens.length ≤ rounds → rounds ≤ more →
      loop more tokens = loop rounds tokens) : Local (remaining >>= loop) where
  suffix tokens := by
    rw [remaining_bind]
    exact (each _).suffix tokens
  lookahead taken token rest stops other := by
    rw [remaining_bind] at stops ⊢
    rw [remaining_bind]
    have shared := Nat.le_max_left (taken ++ token :: rest).length (taken ++ token :: other).length
    rw [← enough (Nat.le_refl _) shared] at stops ⊢
    rw [← enough (Nat.le_refl _) (Nat.le_max_right (taken ++ token :: rest).length _)]
    exact (each _).lookahead taken stops other

end Local
end Reading

namespace Parser

open Grammar Reading

variable {tokens : List Token}

theorem local_separators : Local separators where
  suffix tokens := List.dropWhile_suffix _
  lookahead taken token rest stops other := by
    induction taken with
    | nil =>
        cases separates : separates token.kind with
        | true =>
            have shorter := (List.dropWhile_suffix (l := rest)
              fun token => Parser.separates token.kind).length_le
            simp only [separators, left, List.nil_append, List.dropWhile_cons, separates,
              if_true] at stops
            rw [stops, List.length_cons] at shorter
            omega
        | false =>
            simp [separators, leaving, separates]
    | cons first later induction =>
        cases separates : separates first.kind with
        | true =>
            simp only [separators, left, leaving, List.cons_append, List.dropWhile_cons, separates,
              if_true] at stops induction ⊢
            exact induction stops
        | false =>
            -- Nothing is passed, so that more is left than the token and what is behind it.
            have longer := congrArg List.length stops
            simp [separators, left, separates] at longer
            omega

section Operators

variable {operand : Nat → Reading Node} (locals : ∀ level, Local (operand level))

include locals

theorem local_operators (floor rounds : Nat) (left : Node) :
    Local (operators operand floor rounds left) := by
  induction rounds generalizing left with
  | zero => exact .pure left
  | succ rounds induction =>
      refine Local.current?.bind fun token? => ?_
      split
      · split
        · exact .pure left
        · exact Local.next.bind fun _ => (locals _).bind fun right => induction _
      · exact .pure left

theorem operators_of_enough (floor : Nat) {rounds more : Nat} (enough : tokens.length ≤ rounds)
    (order : rounds ≤ more) (left : Node) :
    operators operand floor more left tokens = operators operand floor rounds left tokens := by
  induction rounds generalizing more left tokens with
  | zero =>
      obtain rfl := List.eq_nil_of_length_eq_zero (Nat.le_zero.mp enough)
      have settled : Settled floor [] := trivial
      rw [operators_settled _ _ _ _ settled, operators_settled _ _ _ _ settled]
  | succ rounds induction =>
      obtain ⟨more, rfl⟩ : ∃ fewer, more = fewer + 1 := ⟨more - 1, by omega⟩
      by_cases settled : Settled floor tokens
      · rw [operators_settled _ _ _ _ settled, operators_settled _ _ _ _ settled]
      · obtain ⟨token, later, operator, rfl, kind, tighter⟩ := exists_of_not_settled settled
        rw [operators_join _ _ _ _ kind tighter, operators_join _ _ _ _ kind tighter, bind_eq,
          bind_eq]
        have shorter := ((locals operator.precedence).suffix later).length_le
        cases found : operand operator.precedence later with
        | error complaint middle => rfl
        | ok right middle =>
            rw [found, Reading.left] at shorter
            rw [List.length_cons] at enough
            exact induction (by omega) (by omega) _

end Operators

section Arguments

variable {argument : Reading Node} (isLocal : Local argument) (owner : String)

include isLocal

theorem local_argumentList (rounds : Nat) : Local (argumentList argument owner rounds) := by
  induction rounds with
  | zero => exact (Local.expect _ _).bind fun _ => .pure []
  | succ rounds induction =>
      refine Local.currentKind?.bind fun kind? => ?_
      split
      · exact (Local.expect _ _).bind fun _ => .pure []
      · exact (Local.expect _ _).bind fun _ => .pure []
      · exact .fail _
      · refine isLocal.bind fun first => (Local.accept _).bind fun more => ?_
        split
        · exact induction.bind fun others => .pure _
        · exact (Local.expect _ _).bind fun _ => .pure _

theorem argumentList_of_enough {rounds more : Nat} (enough : tokens.length ≤ rounds)
    (order : rounds ≤ more) :
    argumentList argument owner more tokens = argumentList argument owner rounds tokens := by
  induction rounds generalizing more tokens with
  | zero =>
      obtain rfl := List.eq_nil_of_length_eq_zero (Nat.le_zero.mp enough)
      cases more <;> rfl
  | succ rounds induction =>
      obtain ⟨more, rfl⟩ : ∃ fewer, more = fewer + 1 := ⟨more - 1, by omega⟩
      cases tokens with
      | nil => rfl
      | cons token later =>
          by_cases isClosing : token.kind = .rightParenthesis
          · rw [argumentList_closing _ _ _ isClosing, argumentList_closing _ _ _ isClosing]
          · by_cases isEnd : token.kind = .endOfInput
            · rw [argumentList_end _ _ _ isEnd, argumentList_end _ _ _ isEnd]
            · rw [argumentList_item _ _ _ isClosing isEnd, argumentList_item _ _ _ isClosing isEnd,
                bind_eq, bind_eq]
              have shorter := (isLocal.suffix (token :: later)).length_le
              cases found : argument (token :: later) with
              | error complaint middle => rfl
              | ok first middle =>
                  rw [found, Reading.left, List.length_cons] at shorter
                  rw [List.length_cons] at enough
                  dsimp only
                  rw [bind_eq, bind_eq]
                  cases accepted : accept .comma middle with
                  | error complaint afterComma => rfl
                  | ok isComma afterComma =>
                      cases isComma with
                      | false => rfl
                      | true =>
                          obtain ⟨comma, kind, rfl⟩ := accept_ok_true accepted
                          rw [List.length_cons] at shorter
                          have same : argumentList argument owner more afterComma =
                              argumentList argument owner rounds afterComma :=
                            induction (by omega) (by omega)
                          simp only [if_true]
                          rw [bind_eq, bind_eq, same]

end Arguments

/-- Each of the readings that call each other sees only one token more than it takes. -/
structure LocalWithin (budget : Nat) : Prop where
  expression : ∀ floor, Local (expression budget floor)
  atom : Local (atom budget)
  call : Local (call budget)
  arguments : ∀ owner, Local (arguments budget owner)

theorem localWithin (budget : Nat) : LocalWithin budget := by
  induction budget with
  | zero => exact ⟨fun _ => .fail _, .fail _, .fail _, fun _ => .fail _⟩
  | succ budget locals =>
      refine ⟨fun floor => ?_, ?_, ?_, fun owner => ?_⟩
      · refine locals.atom.bind fun left => Local.of_rounds
          (fun rounds => local_operators locals.expression floor rounds left) fun enough order => ?_
        exact operators_of_enough locals.expression floor enough order left
      · refine Local.current?.bind fun token? => ?_
        split
        · exact .fail _
        · exact locals.call
        · exact Local.next.bind fun _ => .pure _
        · exact Local.next.bind fun _ => .pure _
        · exact Local.next.bind fun _ => .pure _
        · exact Local.next.bind fun _ => .pure _
        · exact Local.next.bind fun _ => (locals.expression 0).bind fun inner =>
            (Local.expect _ _).bind fun _ => .pure inner
        · exact Local.next.bind fun _ => locals.atom.bind fun operand => .pure _
        · exact Local.next.bind fun _ => locals.atom.bind fun operand => .pure _
        · exact .fail _
      · refine Local.next?.bind fun query? => (Local.expect _ _).bind fun _ => ?_
        split
        · exact (locals.arguments _).bind fun _ => .pure _
        · exact .fail _
      · exact Local.of_rounds (local_argumentList (locals.expression 0) owner)
          (argumentList_of_enough (locals.expression 0) owner)

section Statements

variable (budget : Nat)

theorem local_namedStatement : Local (namedStatement budget) := by
  refine Local.next.bind fun name => (Local.accept _).bind fun isLabel => ?_
  split
  · exact .pure _
  · refine (Local.accept _).bind fun isAssignment => ?_
    split
    · exact ((localWithin budget).expression 0).bind fun value => .pure _
    · exact .failAt _ _

theorem local_instruction : Local (instruction budget) :=
  Local.next.bind fun _ => (Local.expect _ _).bind fun _ =>
    ((localWithin budget).arguments _).bind fun _ => .pure _

theorem local_conditionalJump : Local (conditionalJump budget) :=
  (Local.expect _ _).bind fun _ => (Local.expect _ _).bind fun _ => (Local.expect _ _).bind fun _ =>
    (Local.expect _ _).bind fun _ => (Local.expect _ _).bind fun _ =>
    ((localWithin budget).expression 0).bind fun _ => (Local.expect _ _).bind fun _ => .pure _

theorem local_statement : Local (statement budget) := by
  refine Local.currentKind?.bind fun kind? => ?_
  split
  · exact .fail _
  · exact local_namedStatement budget
  · exact local_instruction budget
  · exact local_conditionalJump budget
  · exact .fail _

theorem local_statements (rounds : Nat) : Local (statements budget rounds) := by
  induction rounds with
  | zero => exact .pure []
  | succ rounds induction =>
      refine Local.currentKind?.bind fun kind? => ?_
      split
      · exact .pure []
      · exact .pure []
      · exact (local_statement budget).bind fun first => local_separators.bind fun _ =>
          induction.bind fun others => .pure _

/-- A statement takes at least one token. -/
theorem length_lt_of_statement {rest : List Token} {node : Node}
    (read : statement budget tokens = .ok node rest) : rest.length < tokens.length := by
  obtain ⟨derivation, -, rfl⟩ := statement_sound read
  obtain ⟨head, others, headEq, -⟩ := derivation.exists_head
  simp only [headEq, List.length_append, List.length_cons]
  omega

theorem statements_of_enough {rounds more : Nat} (enough : tokens.length ≤ rounds)
    (order : rounds ≤ more) :
    statements budget more tokens = statements budget rounds tokens := by
  induction rounds generalizing more tokens with
  | zero =>
      obtain rfl := List.eq_nil_of_length_eq_zero (Nat.le_zero.mp enough)
      rw [statements_nil, statements_nil]
  | succ rounds induction =>
      obtain ⟨more, rfl⟩ : ∃ fewer, more = fewer + 1 := ⟨more - 1, by omega⟩
      cases tokens with
      | nil => rfl
      | cons token later =>
          by_cases isEnd : token.kind = .endOfInput
          · rw [statements_end _ _ isEnd, statements_end _ _ isEnd]
          · rw [statements_cons _ _ isEnd, statements_cons _ _ isEnd, bind_eq, bind_eq]
            cases found : statement budget (token :: later) with
            | error complaint middle => rfl
            | ok first middle =>
                have shorter := length_lt_of_statement budget found
                have fewer := (List.dropWhile_suffix (l := middle)
                  fun token => separates token.kind).length_le
                rw [List.length_cons] at shorter enough
                dsimp only
                rw [bind_eq, bind_eq]
                simp only [separators]
                rw [bind_eq, bind_eq, induction (by omega) (by omega)]

/-- Whether tokens are a program is seen no later than at the token behind the last one
that has been taken. -/
theorem local_program : Local (program budget) :=
  local_separators.bind fun _ =>
    Local.of_rounds (local_statements budget) (statements_of_enough budget)

end Statements

end Parser
end PixelBrush
