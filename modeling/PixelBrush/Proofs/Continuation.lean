import PixelBrush.Proofs.Grammar.Correctness
import PixelBrush.Proofs.Grammar.Restyling
import PixelBrush.Proofs.Lookahead

/-! # Tokens with others behind them

What has been read from some tokens is read again, within the same limit, when other
tokens stand behind, if none of these goes on what has been read.  So the tokens of one
program may follow those of another one.  The tokens may move on the way.
-/

namespace PixelBrush

open Grammar

variable {move : Location → Location}

/-- Whether a token of a kind can go on a statement that could end in front of it. -/
def continues : TokenKind → Bool
  | .binary _ | .comma | .colon | .arrow => true
  | _ => false

/-- Whether some tokens do not go on what stands in front of them. -/
def StandsApart (tokens : List Token) : Prop :=
  ∀ token ∈ tokens.head?, continues token.kind = false

theorem standsApart_cons {token : Token} {later : List Token}
    (apart : continues token.kind = false) : StandsApart (token :: later) := by
  intro first member
  rwa [← Option.mem_some.mp member]

theorem not_continues_of_startsStatement {kind : TokenKind} (starts : startsStatement kind = true) :
    continues kind = false := by
  obtain rfl | ⟨command, rfl⟩ | rfl := startsStatement_iff.mp starts <;> rfl

theorem not_continues_of_separates {kind : TokenKind} (separates : Parser.separates kind = true) :
    continues kind = false := by
  have margin : kind = .endOfLine ∨ kind = .comment := by
    simpa [Parser.separates] using separates
  obtain rfl | rfl := margin <;> rfl

namespace StandsApart

variable {tokens : List Token} (apart : StandsApart tokens)

include apart

theorem settled (floor : Nat) : Settled floor tokens := by
  cases tokens with
  | nil => trivial
  | cons token later =>
      intro operator kind
      have free := apart token rfl
      rw [kind] at free
      cases free

theorem accept {kind : TokenKind} (goesOn : continues kind = true) :
    Reading.accept kind tokens = .ok false tokens := by
  cases tokens with
  | nil => rfl
  | cons token later =>
      apply Reading.accept_of_other
      rintro rfl
      rw [apart token rfl] at goesOn
      cases goesOn

end StandsApart

namespace Grammar

theorem ended_or_exists_cons (tokens : List Token) :
    Ended tokens ∨ ∃ token later, tokens = token :: later ∧ token.kind ≠ .endOfInput := by
  cases tokens with
  | nil => exact .inl trivial
  | cons token later =>
      by_cases isEnd : token.kind = .endOfInput
      · exact .inl isEnd
      · exact .inr ⟨token, later, rfl, isEnd⟩

namespace Restyling

variable (restyling : Restyling move) {behind tokens front later : List Token} {token : Token}

/-- Restyled tokens with others in the place of their end. -/
def followedBy (behind tokens : List Token) : List Token :=
  (beforeEnd tokens).map restyling.apply ++ behind

theorem followedBy_of_ended (ended : Ended tokens) :
    restyling.followedBy behind tokens = behind := by
  cases tokens with
  | nil => rfl
  | cons token later =>
      have isEnd : token.kind = .endOfInput := ended
      simp [followedBy, beforeEnd, isEnd]

theorem followedBy_append (more : ∀ token ∈ front, token.kind ≠ .endOfInput) :
    restyling.followedBy behind (front ++ tokens) =
      front.map restyling.apply ++ restyling.followedBy behind tokens := by
  rw [followedBy, followedBy, beforeEnd, List.takeWhile_append_of_pos (by simpa using more),
    List.map_append, List.append_assoc, beforeEnd]

theorem followedBy_cons (more : token.kind ≠ .endOfInput) :
    restyling.followedBy behind (token :: later) =
      restyling.apply token :: restyling.followedBy behind later :=
  restyling.followedBy_append (List.forall_mem_singleton.mpr more)

end Restyling
end Grammar

namespace Reading

variable {α β γ δ : Type} (restyling : Restyling move) (rest other : List Token)

/-- Whether a reading that goes no further than to some rest is carried over to restyled
tokens with another rest. -/
structure Carries (change : α → β) (reading : Reading α) (carried : Reading β) : Prop
    extends Local reading where
  carry : ∀ taken value ahead, reading (taken ++ rest) = .ok value (ahead ++ rest) →
    carried (taken.map restyling.apply ++ other) =
      .ok (change value) (ahead.map restyling.apply ++ other)

namespace Carries

variable {restyling rest other}

theorem bind {change : α → β} {changeNext : γ → δ} {reading : Reading α} {carried : Reading β}
    {next : α → Reading γ} {carriedNext : β → Reading δ}
    (first : Carries restyling rest other change reading carried)
    (later : ∀ value, Carries restyling rest other changeNext (next value)
      (carriedNext (change value))) :
    Carries restyling rest other changeNext (reading >>= next) (carried >>= carriedNext) where
  toLocal := first.toLocal.bind fun value => (later value).toLocal
  carry taken value ahead read := by
    obtain ⟨result, middle, readFirst, readLater⟩ := bind_ok read
    -- The second reading has not gone further than to the rest, so the first one has not, either.
    have suffix := (later result).suffix middle
    rw [readLater] at suffix
    obtain ⟨between, rfl⟩ := suffix
    rw [left, ← List.append_assoc] at readFirst readLater
    rw [bind_of_ok (first.carry _ _ _ readFirst)]
    exact (later result).carry _ _ _ readLater

theorem pure {change : α → β} {value : α} {carried : β} (same : carried = change value) :
    Carries restyling rest other change (Pure.pure value : Reading α) (Pure.pure carried) where
  toLocal := .pure value
  carry taken result ahead read := by
    obtain ⟨rfl, stays⟩ := pure_ok read
    rw [same, List.append_cancel_right stays]
    rfl

theorem expect (kind : TokenKind) (reason otherReason : Reason) :
    Carries restyling rest other restyling.apply (expect kind reason)
      (expect kind otherReason) where
  toLocal := .expect kind reason
  carry taken token ahead read := by
    obtain ⟨fits, same⟩ := expect_ok read
    rw [← List.cons_append] at same
    rw [List.append_cancel_right same]
    exact expect_of_kind (by rw [restyling.kind, fits]) _

theorem accept (apart : StandsApart other) {kind : TokenKind} (goesOn : continues kind = true) :
    Carries restyling rest other id (accept kind) (accept kind) where
  toLocal := .accept kind
  carry taken found ahead read := by
    cases found with
    | true =>
        obtain ⟨token, fits, same⟩ := accept_ok_true read
        rw [← List.cons_append] at same
        rw [List.append_cancel_right same]
        exact accept_of_kind (by rw [restyling.kind, fits]) _
    | false =>
        obtain rfl := List.append_cancel_right (accept_ok_false read)
        cases taken with
        | nil => exact apart.accept goesOn
        | cons token later =>
            refine accept_of_other (fun fits => ?_) _
            rw [restyling.kind] at fits
            rw [List.cons_append, accept_of_kind fits] at read
            cases read

theorem fail {change : α → β} {carried : Reading β} (reason : Reason) :
    Carries restyling rest other change (Reading.fail reason : Reading α) carried where
  toLocal := .fail reason
  carry _ _ _ read := absurd read fail_not_ok

/-- A loop that may go round at least as often as tokens are left is carried over if it is
for any count of rounds. -/
theorem of_rounds {change : α → β} {loop : Nat → Reading α} {carried : Nat → Reading β}
    (each : ∀ rounds, Carries restyling rest other change (loop rounds) (carried rounds))
    (enough : ∀ {rounds more tokens}, tokens.length ≤ rounds → rounds ≤ more →
      loop more tokens = loop rounds tokens)
    (enoughCarried : ∀ {rounds more tokens}, tokens.length ≤ rounds → rounds ≤ more →
      carried more tokens = carried rounds tokens) :
    Carries restyling rest other change (remaining >>= loop) (remaining >>= carried) where
  toLocal := .of_rounds (fun rounds => (each rounds).toLocal) enough
  carry taken value ahead read := by
    rw [remaining_bind] at read ⊢
    -- Both loops are let go round as often as the longer list of tokens allows.
    have shared := Nat.le_max_left (taken ++ rest).length
      (taken.map restyling.apply ++ other).length
    rw [← enough (Nat.le_refl _) shared] at read
    rw [← enoughCarried (Nat.le_refl _) (Nat.le_max_right (taken ++ rest).length _)]
    exact (each _).carry _ _ _ read

end Carries
end Reading

namespace Parser

open Reading

variable {restyling : Restyling move} {rest other : List Token} (apart : StandsApart other)

section Taking

variable {budget : Nat} {tokens rest : List Token}

theorem length_lt_of_argumentList {owner : String} {rounds : Nat} {nodes : List Node}
    (read : argumentList (expression budget 0) owner rounds tokens = .ok nodes rest) :
    rest.length < tokens.length := by
  obtain ⟨derivation, closing, -, rfl⟩ := argumentList_sound (sound budget).expression rounds read
  rw [List.length_append, List.length_cons]
  omega

theorem length_lt_of_atom {node : Node} (read : atom budget tokens = .ok node rest) :
    rest.length < tokens.length := by
  obtain ⟨derivation, -, rfl⟩ := (sound budget).atom read
  obtain ⟨head, others, headEq, -⟩ := derivation.exists_head
  rw [headEq, List.length_append, List.length_cons]
  omega

end Taking

include apart

theorem carries_operators {operand : Nat → Reading Node}
    (carries : ∀ level,
      Carries restyling rest other (Node.relocate move) (operand level) (operand level))
    (floor rounds : Nat) (left : Node) :
    Carries restyling rest other (Node.relocate move) (operators operand floor rounds left)
      (operators operand floor rounds (left.relocate move)) := by
  have locals (level : Nat) : Local (operand level) := (carries level).toLocal
  induction rounds generalizing left with
  | zero => exact .pure rfl
  | succ rounds induction =>
      refine ⟨local_operators locals floor _ left, fun taken node ahead read => ?_⟩
      by_cases settled : Settled floor (taken ++ rest)
      · rw [operators_settled _ _ _ _ settled] at read
        injection read with same stays
        rw [← same, ← List.append_cancel_right stays]
        refine operators_settled _ _ _ _ ?_
        cases taken with
        | nil => exact apart.settled floor
        | cons token later =>
            exact fun operator kind => settled operator (by rw [← kind, restyling.kind])
      · obtain ⟨token, later, operator, split, kind, tighter⟩ := exists_of_not_settled settled
        rw [split, operators_join _ _ _ _ kind tighter] at read
        cases taken with
        | nil =>
            -- The operator stands behind the rest already.
            obtain rfl : rest = token :: later := split
            have suffix := ((locals operator.precedence).bind fun right =>
              local_operators locals floor rounds (.binary operator.text left right
                token.location)).suffix later
            rw [read] at suffix
            have longer := suffix.length_le
            simp only [Reading.left, List.length_append, List.length_cons] at longer
            omega
        | cons first others =>
            obtain ⟨rfl, rfl⟩ := List.cons.inj split
            rw [List.map_cons, List.cons_append,
              operators_join _ _ _ _ (by rw [restyling.kind, kind]) tighter, restyling.location]
            refine ((carries _).bind fun right => ?_).carry _ _ _ read
            have joined := induction (.binary operator.text left right first.location)
            rw [Node.relocate] at joined
            exact joined

theorem carries_argumentList {budget : Nat}
    (carries : Carries restyling rest other (Node.relocate move) (expression budget 0)
      (expression budget 0)) (owner otherOwner : String) (rounds : Nat) :
    Carries restyling rest other (Node.relocateAll move)
      (argumentList (expression budget 0) owner rounds)
      (argumentList (expression budget 0) otherOwner rounds) := by
  induction rounds with
  | zero => exact (Carries.expect _ _ _).bind fun _ => .pure rfl
  | succ rounds induction =>
      refine ⟨local_argumentList carries.toLocal owner _, fun taken nodes ahead read => ?_⟩
      cases taken with
      | nil => exact absurd (length_lt_of_argumentList read) (by simp)
      | cons token later =>
          rw [List.map_cons, List.cons_append]
          by_cases isClosing : token.kind = .rightParenthesis
          · rw [List.cons_append, argumentList_closing _ _ _ isClosing] at read
            injection read with same stays
            rw [← same, ← List.append_cancel_right stays]
            exact argumentList_closing _ _ _ (by rw [restyling.kind, isClosing])
          · by_cases isEnd : token.kind = .endOfInput
            · rw [List.cons_append, argumentList_end _ _ _ isEnd] at read
              cases read
            · rw [List.cons_append, argumentList_item _ _ _ isClosing isEnd,
                ← List.cons_append] at read
              rw [argumentList_item _ _ _ (by rwa [restyling.kind]) (by rwa [restyling.kind]),
                ← List.cons_append, ← List.map_cons]
              refine (carries.bind fun first => (Carries.accept apart rfl).bind fun accepted =>
                ?_).carry _ _ _ read
              cases accepted with
              | true => exact induction.bind fun others => .pure rfl
              | false => exact (Carries.expect _ _ _).bind fun _ => .pure rfl

omit apart in
/-- Each of the readings that call each other is carried over within the same budget.
A call takes the first token whatever it is, so that it must not be one of the rest. -/
structure CarriesWithin (restyling : Restyling move) (rest other : List Token) (budget : Nat) :
    Prop where
  expression : ∀ floor, Carries restyling rest other (Node.relocate move)
    (expression budget floor) (expression budget floor)
  atom : Carries restyling rest other (Node.relocate move) (atom budget) (atom budget)
  call : ∀ token taken node ahead,
    call budget (token :: (taken ++ rest)) = .ok node (ahead ++ rest) →
      call budget (restyling.apply token :: (taken.map restyling.apply ++ other)) =
        .ok (node.relocate move) (ahead.map restyling.apply ++ other)
  arguments : ∀ owner otherOwner, Carries restyling rest other (Node.relocateAll move)
    (arguments budget owner) (arguments budget otherOwner)

section Succ

variable {budget : Nat}

omit apart in
theorem carries_atom (carries : CarriesWithin restyling rest other budget) :
    Carries restyling rest other (Node.relocate move) (atom (budget + 1)) (atom (budget + 1)) := by
  refine ⟨(localWithin _).atom, fun taken node ahead read => ?_⟩
  cases taken with
  | nil => exact absurd (length_lt_of_atom read) (by simp)
  | cons token later =>
      rw [List.cons_append] at read
      rw [List.map_cons, List.cons_append]
      by_cases starts : startsAtom token.kind = true
      · have kind := restyling.kind token
        rcases startsAtom_iff.mp starts with
          ⟨literal, isLiteral⟩ | isName | ⟨query, isQuery⟩ | isOpening | ⟨operator, isSign⟩
        · rw [atom_literal _ isLiteral] at read
          injection read with same stays
          rw [← same, ← List.append_cancel_right stays, atom_literal _ (kind.trans isLiteral),
            restyling.value, restyling.location, Node.relocate]
        · rw [atom_reference _ isName] at read
          injection read with same stays
          rw [← same, ← List.append_cancel_right stays, atom_reference _ (kind.trans isName),
            restyling.value, restyling.location, Node.relocate]
        · rw [atom_call _ isQuery] at read
          rw [atom_call _ (kind.trans isQuery)]
          exact carries.call _ _ _ _ read
        · rw [atom_enclosed _ isOpening] at read
          rw [atom_enclosed _ (kind.trans isOpening)]
          refine ((carries.expression 0).bind fun inner => ?_).carry _ _ _ read
          exact (Carries.expect _ _ _).bind fun _ => .pure rfl
        · rw [atom_unary _ isSign] at read
          rw [atom_unary _ (kind.trans isSign), restyling.location]
          refine (carries.atom.bind fun operand => ?_).carry _ _ _ read
          exact .pure (by rw [Node.relocate])
      · rw [atom_other _ (Bool.eq_false_iff.mpr starts)] at read
        cases read

theorem CarriesWithin.succ (carries : CarriesWithin restyling rest other budget) :
    CarriesWithin restyling rest other (budget + 1) where
  expression floor := by
    have locals := localWithin budget
    exact carries.atom.bind fun left => Carries.of_rounds
      (fun rounds => carries_operators apart carries.expression floor rounds left)
      (fun enough order => operators_of_enough locals.expression floor enough order left)
      (fun enough order => operators_of_enough locals.expression floor enough order _)
  atom := carries_atom carries
  call := by
    intro token taken node ahead read
    rw [call_cons] at read ⊢
    rw [restyling.kind, restyling.location]
    refine ((Carries.expect _ _ _).bind fun _ => ?_).carry _ _ _ read
    exact (carries.arguments _ _).bind fun arguments => .pure (by rw [Node.relocate])
  arguments owner otherOwner := by
    have locals := localWithin budget
    exact Carries.of_rounds
      (fun rounds => carries_argumentList apart (carries.expression 0) owner otherOwner rounds)
      (argumentList_of_enough (locals.expression 0) owner)
      (argumentList_of_enough (locals.expression 0) otherOwner)

end Succ

theorem carriesWithin (budget : Nat) : CarriesWithin restyling rest other budget := by
  induction budget with
  | zero =>
      refine ⟨fun _ => .fail _, .fail _, ?_, fun _ _ => .fail _⟩
      intro token taken node ahead read
      cases read
  | succ budget carries => exact carries.succ apart

section Statements

variable {budget : Nat}

theorem carries_statement :
    Carries restyling rest other (Node.relocate move) (statement budget) (statement budget) := by
  have carries : CarriesWithin restyling rest other budget := carriesWithin apart budget
  refine ⟨local_statement budget, fun taken node ahead read => ?_⟩
  cases taken with
  | nil => exact absurd (length_lt_of_statement budget read) (by simp)
  | cons token later =>
      rw [List.cons_append] at read
      rw [List.map_cons, List.cons_append]
      by_cases starts : startsStatement token.kind = true
      · have kind := restyling.kind token
        rcases startsStatement_iff.mp starts with isName | ⟨command, isCommand⟩ | isJump
        · rw [statement_named _ isName] at read
          rw [statement_named _ (kind.trans isName), restyling.value, restyling.location]
          refine ((Carries.accept apart rfl).bind fun isLabel => ?_).carry _ _ _ read
          cases isLabel with
          | true => exact .pure (by rw [Node.relocate])
          | false =>
              refine (Carries.accept apart rfl).bind fun isAssignment => ?_
              cases isAssignment with
              | true => exact (carries.expression 0).bind fun value => .pure (by rw [Node.relocate])
              | false => exact ⟨.failAt _ _, fun _ _ _ failed => by cases failed⟩
        · rw [statement_instruction _ isCommand] at read
          rw [statement_instruction _ (kind.trans isCommand), restyling.location]
          refine ((Carries.expect _ _ _).bind fun _ => ?_).carry _ _ _ read
          exact (carries.arguments _ _).bind fun arguments => .pure (by rw [Node.relocate])
        · rw [statement_jump _ isJump] at read
          rw [statement_jump _ (kind.trans isJump), restyling.location]
          refine ((Carries.expect _ _ _).bind fun _ => ?_).carry _ _ _ read
          refine (Carries.expect _ _ _).bind fun label => ?_
          refine (Carries.expect _ _ _).bind fun _ => (Carries.expect _ _ _).bind fun _ => ?_
          refine (carries.expression 0).bind fun condition => ?_
          refine (Carries.expect _ _ _).bind fun _ => .pure ?_
          rw [Node.relocate, restyling.value]
      · rw [statement_other _ (Bool.eq_false_iff.mpr starts)] at read
        cases read

end Statements

section Programs

variable {budget : Nat} {token : Token} {tokens behind later rest : List Token}
  {nodes others : List Node}

omit apart

theorem program_eq (tokens : List Token) :
    program budget tokens =
      statements budget (tokens.dropWhile fun token => separates token.kind).length
        (tokens.dropWhile fun token => separates token.kind) :=
  rfl

theorem program_of_ended (ended : Ended tokens) : program budget tokens = .ok [] tokens := by
  cases tokens with
  | nil => rfl
  | cons token later =>
      have isEnd : token.kind = .endOfInput := ended
      have stays : separates token.kind = false := by
        rw [isEnd]
        rfl
      rw [program_eq, List.dropWhile_cons, stays, if_neg Bool.false_ne_true,
        statements_end _ _ isEnd]

theorem program_of_separates (separates : Parser.separates token.kind = true) :
    program budget (token :: later) = program budget later := by
  rw [program_eq, program_eq, List.dropWhile_cons, if_pos separates]

/-- A program that starts with a statement is read as that statement and the program
behind it. -/
theorem program_cons (stays : separates token.kind = false) (notEnd : token.kind ≠ .endOfInput) :
    program budget (token :: later) =
      (statement budget >>= fun first => program budget >>= fun others =>
        pure (first :: others)) (token :: later) := by
  rw [program_eq, List.dropWhile_cons, stays, if_neg Bool.false_ne_true, List.length_cons,
    statements_cons _ _ notEnd, bind_eq, bind_eq]
  cases found : statement budget (token :: later) with
  | error complaint middle => rfl
  | ok first middle =>
      have shorter := length_lt_of_statement budget found
      have fewer := (List.dropWhile_suffix (l := middle)
        fun token => separates token.kind).length_le
      rw [List.length_cons] at shorter
      dsimp only
      have passed : separators middle =
          .ok () (middle.dropWhile fun token => separates token.kind) := rfl
      rw [bind_of_ok passed, bind_eq, bind_eq (program budget), program_eq,
        ← statements_of_enough budget (Nat.le_refl _) (by omega : _ ≤ later.length)]

/-- A program does not go on what stands in front of it. -/
theorem standsApart_of_program (read : program budget tokens = .ok nodes rest) :
    StandsApart tokens := by
  obtain ended | ⟨token, later, rfl, notEnd⟩ := ended_or_exists_cons tokens
  · cases tokens with
    | nil => exact fun token member => absurd member (by simp)
    | cons token later =>
        have isEnd : token.kind = .endOfInput := ended
        exact standsApart_cons (by rw [isEnd]; rfl)
  · refine standsApart_cons ?_
    cases separates : Parser.separates token.kind with
    | true => exact not_continues_of_separates separates
    | false =>
        rw [program_cons separates notEnd] at read
        obtain ⟨first, middle, readFirst, -⟩ := bind_ok read
        by_cases starts : startsStatement token.kind = true
        · exact not_continues_of_startsStatement starts
        · rw [statement_other _ (Bool.eq_false_iff.mpr starts)] at readFirst
          cases readFirst

/-- Whether some tokens, restyled, are read as a statement in front of every program. -/
def Leads (budget : Nat) (taken : List Token) (first : Node) : Prop :=
  ∀ {move : Location → Location} (restyling : Restyling move) {behind final : List Token}
    {others : List Node}, program budget behind = .ok others final →
      program budget (taken.map restyling.apply ++ behind) =
        .ok (first.relocate move :: others) final

/-- The tokens of a statement lead every program, whatever has stood behind them before. -/
theorem exists_leads_of_statement {first : Node} (read : statement budget tokens = .ok first rest) :
    ∃ taken, tokens = taken ++ rest ∧ (∀ token ∈ taken, isMargin token.kind = false) ∧
      Leads budget taken first := by
  obtain ⟨derivation, -, rfl⟩ := statement_sound read
  refine ⟨derivation.tokens, rfl, derivation.not_isMargin, ?_⟩
  intro move restyling behind final others readBehind
  have carries : Carries restyling rest behind (Node.relocate move) (statement budget)
      (statement budget) := carries_statement (standsApart_of_program readBehind)
  have carried := carries.carry derivation.tokens first [] read
  obtain ⟨head, later, headEq, -⟩ := derivation.exists_head
  have inside : isMargin (restyling.apply head).kind = false := by
    rw [restyling.kind]
    exact derivation.not_isMargin head (by simp [headEq])
  rw [headEq, List.map_cons, List.cons_append] at carried ⊢
  rw [program_cons (separates_of_not_isMargin inside) (ne_endOfInput_of_not_isMargin inside),
    bind_of_ok carried]
  exact bind_of_ok readBehind

/-- What holds of a program at its end, and stays when a separator or a statement is put in
front of it, holds of every program that can be read. -/
@[elab_as_elim]
theorem program_induction {motive : List Token → List Node → Prop}
    (ended : ∀ tokens, Ended tokens → motive tokens [])
    (separator : ∀ token later nodes, separates token.kind = true → motive later nodes →
      motive (token :: later) nodes)
    (statement : ∀ taken later first others, (∀ token ∈ taken, isMargin token.kind = false) →
      Leads budget taken first → motive later others → motive (taken ++ later) (first :: others))
    (read : program budget tokens = .ok nodes rest) : motive tokens nodes := by
  induction count : tokens.length using Nat.strong_induction_on generalizing tokens nodes with
  | _ count induction =>
      subst count
      obtain isEnd | ⟨token, later, rfl, notEnd⟩ := ended_or_exists_cons tokens
      · rw [program_of_ended isEnd] at read
        cases read
        exact ended _ isEnd
      · cases separates : Parser.separates token.kind with
        | true =>
            rw [program_of_separates separates] at read
            exact separator token later nodes separates
              (induction later.length (Nat.lt_succ_self _) read rfl)
        | false =>
            rw [program_cons separates notEnd] at read
            obtain ⟨first, middle, readFirst, readMore⟩ := bind_ok read
            obtain ⟨others, _, readOthers, readAll⟩ := bind_ok readMore
            obtain ⟨rfl, rfl⟩ := pure_ok readAll
            have goesOn :=
              induction middle.length (length_lt_of_statement budget readFirst) readOthers rfl
            obtain ⟨taken, split, inside, leads⟩ := exists_leads_of_statement readFirst
            rw [split]
            exact statement taken middle first others inside leads goesOn

/-- Where the tokens of a program end, another program may follow: the statements are those
of the first program, moved with its tokens, and those of the second one. -/
theorem program_followedBy (restyling : Restyling move) {final : List Token}
    (read : program budget tokens = .ok nodes rest)
    (readBehind : program budget behind = .ok others final) :
    program budget (restyling.followedBy behind tokens) =
      .ok (nodes.map (Node.relocate move) ++ others) final := by
  refine program_induction (motive := fun tokens nodes =>
    program budget (restyling.followedBy behind tokens) =
      .ok (nodes.map (Node.relocate move) ++ others) final) ?_ ?_ ?_ read
  · intro tokens ended
    rw [restyling.followedBy_of_ended ended]
    exact readBehind
  · intro token later nodes separates goesOn
    have notEnd : token.kind ≠ .endOfInput := by
      intro isEnd
      rw [isEnd] at separates
      cases separates
    rw [restyling.followedBy_cons notEnd,
      program_of_separates (by rw [restyling.kind, separates])]
    exact goesOn
  · intro taken later first nodes inside leads goesOn
    rw [restyling.followedBy_append fun token member =>
      ne_endOfInput_of_not_isMargin (inside token member)]
    exact leads restyling goesOn

end Programs

end Parser

variable {limit : Nat} {tokens behind : List Token} {statements others : List Node}

theorem parseWithin_of_ended (ended : Ended tokens) : parseWithin limit tokens = .ok [] := by
  rw [parseWithin, Parser.program_of_ended ended]

theorem parseWithin_of_separates {token : Token} (separates : Parser.separates token.kind = true) :
    parseWithin limit (token :: tokens) = parseWithin limit tokens := by
  rw [parseWithin, parseWithin, Parser.program_of_separates separates]

/-- Whatever the limit on nesting, programs that can be read by themselves can be read
behind one another. -/
theorem parseWithin_followedBy (restyling : Restyling move)
    (read : parseWithin limit tokens = .ok statements)
    (readBehind : parseWithin limit behind = .ok others) :
    parseWithin limit (restyling.followedBy behind tokens) =
      .ok (statements.map (Node.relocate move) ++ others) := by
  obtain ⟨rest, program⟩ := exists_program_of_parseWithin read
  obtain ⟨final, programBehind⟩ := exists_program_of_parseWithin readBehind
  rw [parseWithin, Parser.program_followedBy restyling program programBehind]

end PixelBrush
