import PixelBrush.Proofs.Grammar.Correctness
import PixelBrush.Proofs.Lookahead
import PixelBrush.Token.Stream

/-! # Errors are found as early as possible

A reading that fails, but not because of nesting, has taken tokens that could
go on to be a program, and has stopped in front of the first token that they
cannot go on with.  It complains about that token, or, where a statement starts
with a name and does not go on, about the name.
-/

namespace PixelBrush

/-- Whether a reason is about the next token.  Only for a name that starts no statement
it is about the token before. -/
def Reason.isAboutNext : Reason → Bool
  | statementWanted | stated _ => false
  | _ => true

theorem append_ne_of_not_isPrefixOf {start text : String}
    (apart : start.toList.isPrefixOf text.toList = false) (later : String) :
    start ++ later ≠ text := by
  rintro rfl
  rw [String.toList_append, List.isPrefixOf_iff_prefix.mpr (List.prefix_append ..)] at apart
  cases apart

theorem Reason.message_ne_of_isAboutNext {reason : Reason} (next : reason.isAboutNext = true) :
    reason.message ≠ statementWanted.message := by
  cases reason with
  | statementWanted | stated _ => cases next
  | unexpected kind =>
      change "Unexpected token: " ++ kind.name ≠ "Expected assignment or label"
      exact append_ne_of_not_isPrefixOf (by decide) _
  | openingWanted owner =>
      change "Expected '(' after " ++ owner ≠ "Expected assignment or label"
      exact append_ne_of_not_isPrefixOf (by decide) _
  | separatorWanted owner =>
      change "Expected ',' or ')' in " ++ owner ++ " arguments" ≠ "Expected assignment or label"
      rw [String.append_assoc]
      exact append_ne_of_not_isPrefixOf (by decide) _
  | closingWanted owner =>
      change "Expected ')' after " ++ owner ++ " arguments" ≠ "Expected assignment or label"
      rw [String.append_assoc]
      exact append_ne_of_not_isPrefixOf (by decide) _
  | _ => decide

namespace Grammar

open Reading

/-- Some token of a kind. -/
def Terminal.some (kind : TokenKind) : Terminal kind :=
  ⟨⟨kind, "", none, .nowhere⟩, rfl⟩

def IsExpression (level : Nat) (tokens : List Token) : Prop :=
  ∃ expression : Expression level, expression.tokens = tokens

def IsAtom (tokens : List Token) : Prop :=
  ∃ atom : Atom, atom.tokens = tokens

/-- Whether tokens are arguments together with the closing parenthesis. -/
def IsArguments (tokens : List Token) : Prop :=
  ∃ (arguments : Arguments) (closing : Terminal .rightParenthesis),
    arguments.tokens ++ [closing.val] = tokens

def IsStatement (tokens : List Token) : Prop :=
  ∃ statement : Statement, statement.tokens = tokens

def IsProgram (tokens : List Token) : Prop :=
  ∃ program : Program, program.tokens = tokens

/-- Where a complaint is located: at the next token, or at the name that has just been
taken. -/
inductive Blames (taken rest : List Token) : Complaint → Prop
  | next {reason : Reason} (about : reason.isAboutNext = true) :
      Blames taken rest ⟨reason, here rest⟩
  | name {before : List Token} {name : Token} (last : taken = before ++ [name]) :
      Blames taken rest ⟨.statementWanted, name.location⟩

theorem Blames.prepend {taken rest : List Token} {complaint : Complaint}
    (blames : Blames taken rest complaint) (front : List Token) :
    Blames (front ++ taken) rest complaint := by
  cases blames with
  | next about => exact .next about
  | @name before name last => exact .name (by rw [last, ← List.append_assoc])

/-- Whether tokens break off inside a phrase: those that have been taken can be
completed, and the complaint is about where they end. -/
def BreaksOff (phrase : List Token → Prop) (tokens rest : List Token) (complaint : Complaint) :
    Prop :=
  ∃ taken missing, taken ++ rest = tokens ∧ phrase (taken ++ missing) ∧
    Blames taken rest complaint

namespace BreaksOff

variable {inner outer phrase : List Token → Prop} {tokens rest : List Token}
  {complaint : Complaint}

/-- Nothing has been taken behind some tokens that start a phrase. -/
theorem behind (front : List Token) {missing : List Token} (completed : phrase (front ++ missing))
    {reason : Reason} (about : reason.isAboutNext = true) (rest : List Token) :
    BreaksOff phrase (front ++ rest) rest ⟨reason, here rest⟩ :=
  ⟨front, missing, rfl, completed, .next about⟩

theorem of_expect (front : List Token) {missing : List Token} {kind : TokenKind} {reason : Reason}
    (failed : expect kind reason tokens = .error complaint rest)
    (completed : phrase (front ++ missing)) (about : reason.isAboutNext = true) :
    BreaksOff phrase (front ++ tokens) rest complaint := by
  obtain ⟨rfl, rfl⟩ := expect_error failed
  exact behind front completed about _

/-- A phrase that breaks off breaks off every phrase around it. -/
theorem inside (breaks : BreaksOff inner tokens rest complaint) (front back : List Token)
    (around : ∀ inside, inner inside → outer (front ++ (inside ++ back))) :
    BreaksOff outer (front ++ tokens) rest complaint := by
  obtain ⟨taken, missing, rfl, completed, blames⟩ := breaks
  refine ⟨front ++ taken, missing ++ back, List.append_assoc .., ?_, blames.prepend front⟩
  have built := around _ completed
  rwa [List.append_assoc, ← List.append_assoc front] at built

end BreaksOff

variable {tokens rest : List Token} {complaint : Complaint}

theorem exists_isExpression {level : Nat} (highest : level ≤ 6) :
    ∃ missing, IsExpression level missing := by
  obtain ⟨lowered, same, -⟩ :=
    (Expression.atom (.literal .number (Terminal.some _))).exists_lower highest
  exact ⟨_, lowered, rfl⟩

theorem isAtom_number : IsAtom [(Terminal.some (literalToken .number)).val] :=
  ⟨.literal .number (Terminal.some _), rfl⟩

/-- Whether the readings of operands break off inside expressions when they fail. -/
def BreakOffExpressions (operand : Nat → Reading Node) : Prop :=
  ∀ {level tokens rest complaint}, level ≤ 6 → operand level tokens = .error complaint rest →
    complaint.reason ≠ .nestedTooDeeply → BreaksOff (IsExpression level) tokens rest complaint

theorem operators_breakOff {operand : Nat → Reading Node} (sound : ReadsExpressions operand)
    (breaks : BreakOffExpressions operand) {floor : Nat} (rounds : Nat) {level : Nat}
    (left : Expression level) (below : floor ≤ level) (enough : tokens.length ≤ rounds)
    (settled : Settled (level + 1) tokens)
    (failed : Parser.operators operand floor rounds left.tree tokens = .error complaint rest)
    (shallow : complaint.reason ≠ .nestedTooDeeply) :
    BreaksOff (IsExpression floor) (left.tokens ++ tokens) rest complaint := by
  induction rounds generalizing level tokens with
  | zero => cases failed
  | succ rounds induction =>
      by_cases settledFloor : Settled floor tokens
      · rw [Parser.operators_settled _ _ _ _ settledFloor] at failed
        cases failed
      · obtain ⟨token, later, operator, rfl, kind, tighter⟩ :=
          exists_of_not_settled settledFloor
        rcases exists_precedence_eq operator with ⟨joint, precedence⟩
        have loose : operator.precedence ≤ level + 1 := settled operator kind
        have highest : joint + 1 ≤ 6 := precedence ▸ precedence_le_six operator
        rw [Parser.operators_join _ _ _ _ kind tighter, precedence] at failed
        rcases bind_error failed with failedRight | ⟨_, middle, readRight, failedLater⟩
        · rw [List.append_cons]
          refine (breaks highest failedRight shallow).inside (left.tokens ++ [token]) [] ?_
          rintro _ ⟨right, rfl⟩
          obtain ⟨joined, joinedTokens, -⟩ :=
            left.exists_join precedence (by omega) ⟨token, kind⟩ right
          obtain ⟨lowered, same, -⟩ := joined.exists_lower (by omega : floor ≤ joint)
          exact ⟨lowered, by simp [same, joinedTokens]⟩
        · obtain ⟨right, rfl, rfl, settledRight⟩ := sound highest readRight
          obtain ⟨joined, joinedTokens, joinedTree⟩ :=
            left.exists_join precedence (by omega) ⟨token, kind⟩ right
          rw [← joinedTree] at failedLater
          have later := induction joined (by omega) (by simp at enough; omega) settledRight
            failedLater
          rw [joinedTokens] at later
          simpa using later

theorem argumentList_breakOff {operand : Nat → Reading Node} (sound : ReadsExpressions operand)
    (breaks : BreakOffExpressions operand) {owner : String} (rounds : Nat)
    (failed : Parser.argumentList (operand 0) owner rounds tokens = .error complaint rest)
    (shallow : complaint.reason ≠ .nestedTooDeeply) :
    BreaksOff IsArguments tokens rest complaint := by
  have none : IsArguments ([] ++ [(Terminal.some .rightParenthesis).val]) :=
    ⟨.none, Terminal.some _, rfl⟩
  induction rounds generalizing tokens with
  | zero =>
      rcases bind_error failed with failedClosing | ⟨_, _, _, failedNone⟩
      · exact .of_expect [] failedClosing none rfl
      · cases failedNone
  | succ rounds induction =>
      cases tokens with
      | nil =>
          cases failed
          exact .behind [] none rfl []
      | cons token later =>
          by_cases isClosing : token.kind = .rightParenthesis
          · rw [Parser.argumentList_closing _ _ _ isClosing] at failed
            cases failed
          · by_cases isEnd : token.kind = .endOfInput
            · rw [Parser.argumentList_end _ _ _ isEnd] at failed
              cases failed
              exact .behind [] none rfl (token :: later)
            · rw [Parser.argumentList_item _ _ _ isClosing isEnd] at failed
              rcases bind_error failed with failedFirst | ⟨_, middle, readFirst, failedMore⟩
              · refine (breaks (Nat.zero_le 6) failedFirst shallow).inside []
                  [(Terminal.some .rightParenthesis).val] ?_
                rintro _ ⟨first, rfl⟩
                exact ⟨.last first, Terminal.some _, by rw [Arguments.tokens, List.nil_append]⟩
              · rcases sound (Nat.zero_le 6) readFirst with ⟨first, rfl, derived, -⟩
                rw [← derived]
                rcases bind_error failedMore with
                  failedComma | ⟨accepted, after, readComma, failedTail⟩
                · exact (accept_not_error failedComma).elim
                · cases accepted with
                  | true =>
                      rcases accept_ok_true readComma with ⟨comma, commaKind, rfl⟩
                      rcases bind_error failedTail with failedOthers | ⟨_, _, _, failedAll⟩
                      · rw [List.append_cons]
                        refine (induction failedOthers).inside (first.tokens ++ [comma]) [] ?_
                        rintro _ ⟨others, closing, rfl⟩
                        exact ⟨.more first ⟨comma, commaKind⟩ others, closing,
                          by simp [Arguments.tokens]⟩
                      · cases failedAll
                  | false =>
                      obtain rfl := accept_ok_false readComma
                      rcases bind_error failedTail with failedClosing | ⟨_, _, _, failedAll⟩
                      · exact .of_expect first.tokens failedClosing
                          ⟨.last first, Terminal.some _, by rw [Arguments.tokens]⟩ rfl
                      · cases failedAll

/-- Within a budget, each of the readings that call each other breaks off inside a phrase
when it fails. -/
structure BreaksOffWithin (budget : Nat) : Prop where
  expression : BreakOffExpressions (Parser.expression budget)
  atom : ∀ {tokens rest complaint}, Parser.atom budget tokens = .error complaint rest →
    complaint.reason ≠ .nestedTooDeeply → BreaksOff IsAtom tokens rest complaint
  call : ∀ {query : Query} (name : Terminal (.query query)) {tokens rest complaint},
    Parser.call budget (name.val :: tokens) = .error complaint rest →
      complaint.reason ≠ .nestedTooDeeply → BreaksOff IsAtom (name.val :: tokens) rest complaint
  arguments : ∀ {owner tokens rest complaint},
    Parser.arguments budget owner tokens = .error complaint rest →
      complaint.reason ≠ .nestedTooDeeply → BreaksOff IsArguments tokens rest complaint

namespace BreaksOffWithin

variable {budget : Nat}

theorem zero : BreaksOffWithin 0 where
  expression _ failed shallow := by
    cases failed
    exact absurd rfl shallow
  atom failed shallow := by
    cases failed
    exact absurd rfl shallow
  call _ _ _ _ failed shallow := by
    cases failed
    exact absurd rfl shallow
  arguments failed shallow := by
    cases failed
    exact absurd rfl shallow

theorem expression_succ (breaks : BreaksOffWithin budget) :
    BreakOffExpressions (Parser.expression (budget + 1)) := by
  intro level tokens rest complaint highest failed shallow
  rcases bind_error failed with failedAtom | ⟨_, middle, readAtom, failedOperators⟩
  · refine (breaks.atom failedAtom shallow).inside [] [] ?_
    rintro _ ⟨atom, rfl⟩
    obtain ⟨lowered, same, -⟩ := (Expression.atom atom).exists_lower highest
    exact ⟨lowered, by simp [same, Expression.tokens]⟩
  · rcases (sound budget).atom readAtom with ⟨atom, rfl, rfl⟩
    rw [remaining_bind] at failedOperators
    exact operators_breakOff (sound budget).expression breaks.expression middle.length (.atom atom)
      highest (Nat.le_refl _) ((settled_six middle).mono (by omega)) failedOperators shallow

theorem atom_succ (breaks : BreaksOffWithin budget)
    (failed : Parser.atom (budget + 1) tokens = .error complaint rest)
    (shallow : complaint.reason ≠ .nestedTooDeeply) :
    BreaksOff IsAtom tokens rest complaint := by
  cases tokens with
  | nil =>
      cases failed
      exact .behind [] isAtom_number rfl []
  | cons token later =>
      by_cases starts : startsAtom token.kind = true
      · rcases startsAtom_iff.mp starts with
          ⟨kind, isLiteral⟩ | isName | ⟨query, isQuery⟩ | isOpening | ⟨operator, isSign⟩
        · rw [Parser.atom_literal _ isLiteral] at failed
          cases failed
        · rw [Parser.atom_reference _ isName] at failed
          cases failed
        · rw [Parser.atom_call _ isQuery] at failed
          exact breaks.call ⟨token, isQuery⟩ failed shallow
        · rw [Parser.atom_enclosed _ isOpening] at failed
          rcases bind_error failed with failedInner | ⟨_, _, readInner, failedClosing⟩
          · refine (breaks.expression (Nat.zero_le 6) failedInner shallow).inside [token]
              [(Terminal.some .rightParenthesis).val] ?_
            rintro _ ⟨inner, rfl⟩
            exact ⟨.enclosed ⟨token, isOpening⟩ inner (Terminal.some _), by simp [Atom.tokens]⟩
          · rcases (sound budget).expression (Nat.zero_le 6) readInner with ⟨inner, rfl, rfl, -⟩
            rcases bind_error failedClosing with failedClosing | ⟨_, _, _, failedAll⟩
            · exact .of_expect (token :: inner.tokens) failedClosing
                ⟨.enclosed ⟨token, isOpening⟩ inner (Terminal.some _), by
                  rw [Atom.tokens]
                  rfl⟩ rfl
            · cases failedAll
        · rw [Parser.atom_unary _ isSign] at failed
          rcases bind_error failed with failedOperand | ⟨_, _, _, failedAll⟩
          · refine (breaks.atom failedOperand shallow).inside [token] [] ?_
            rintro _ ⟨operand, rfl⟩
            exact ⟨.unary operator ⟨token, isSign⟩ operand, by simp [Atom.tokens]⟩
          · cases failedAll
      · rw [Parser.atom_other _ (Bool.eq_false_iff.mpr starts)] at failed
        cases failed
        exact .behind [] isAtom_number rfl (token :: later)

theorem call_succ (breaks : BreaksOffWithin budget) {query : Query}
    (name : Terminal (.query query))
    (failed : Parser.call (budget + 1) (name.val :: tokens) = .error complaint rest)
    (shallow : complaint.reason ≠ .nestedTooDeeply) :
    BreaksOff IsAtom (name.val :: tokens) rest complaint := by
  rw [Parser.call_cons] at failed
  rcases bind_error failed with failedOpening | ⟨opening, _, readOpening, failedArguments⟩
  · exact .of_expect [name.val] failedOpening
      ⟨.call query name (Terminal.some _) .none (Terminal.some _), rfl⟩ rfl
  · rcases expect_ok readOpening with ⟨openingKind, rfl⟩
    rcases bind_error failedArguments with failedArguments | ⟨_, _, _, failedAll⟩
    · refine (breaks.arguments failedArguments shallow).inside [name.val, opening] [] ?_
      rintro _ ⟨arguments, closing, rfl⟩
      exact ⟨.call query name ⟨opening, openingKind⟩ arguments closing, by simp [Atom.tokens]⟩
    · cases failedAll

theorem arguments_succ (breaks : BreaksOffWithin budget) {owner : String}
    (failed : Parser.arguments (budget + 1) owner tokens = .error complaint rest)
    (shallow : complaint.reason ≠ .nestedTooDeeply) :
    BreaksOff IsArguments tokens rest complaint := by
  rw [Parser.arguments, remaining_bind] at failed
  exact argumentList_breakOff (sound budget).expression breaks.expression _ failed shallow

end BreaksOffWithin

theorem breaksOffWithin (budget : Nat) : BreaksOffWithin budget := by
  induction budget with
  | zero => exact .zero
  | succ budget induction =>
      exact ⟨induction.expression_succ, induction.atom_succ, fun name => induction.call_succ name,
        induction.arguments_succ⟩

section Statements

variable {budget : Nat}

theorem named_breakOff (name : Terminal .identifier)
    (failed : Parser.statement budget (name.val :: tokens) = .error complaint rest)
    (shallow : complaint.reason ≠ .nestedTooDeeply) :
    BreaksOff IsStatement (name.val :: tokens) rest complaint := by
  rw [Parser.statement_named _ name.kind_val] at failed
  rcases bind_error failed with failedColon | ⟨isLabel, _, readColon, failedBody⟩
  · exact (accept_not_error failedColon).elim
  · cases isLabel with
    | true => cases failedBody
    | false =>
        obtain rfl := accept_ok_false readColon
        rcases bind_error failedBody with failedArrow | ⟨isAssignment, _, readArrow, failedValue⟩
        · exact (accept_not_error failedArrow).elim
        · cases isAssignment with
          | true =>
              rcases accept_ok_true readArrow with ⟨arrow, arrowKind, rfl⟩
              rcases bind_error failedValue with failedValue | ⟨_, _, _, failedAll⟩
              · refine ((breaksOffWithin budget).expression (Nat.zero_le 6) failedValue
                  shallow).inside [name.val, arrow] [] ?_
                rintro _ ⟨value, rfl⟩
                exact ⟨.assignment name ⟨arrow, arrowKind⟩ value, by simp [Statement.tokens]⟩
              · cases failedAll
          | false =>
              -- The name has been taken by then, and is what the complaint is about.
              obtain rfl := accept_ok_false readArrow
              cases failedValue
              exact ⟨[name.val], [(Terminal.some .colon).val], rfl,
                ⟨.label name (Terminal.some _), rfl⟩, .name (List.nil_append _).symm⟩

theorem instruction_breakOff {command : Command} (name : Terminal (.command command))
    (failed : Parser.statement budget (name.val :: tokens) = .error complaint rest)
    (shallow : complaint.reason ≠ .nestedTooDeeply) :
    BreaksOff IsStatement (name.val :: tokens) rest complaint := by
  rw [Parser.statement_instruction _ name.kind_val] at failed
  rcases bind_error failed with failedOpening | ⟨opening, _, readOpening, failedArguments⟩
  · exact .of_expect [name.val] failedOpening
      ⟨.instruction command name (Terminal.some _) .none (Terminal.some _), rfl⟩ rfl
  · rcases expect_ok readOpening with ⟨openingKind, rfl⟩
    rcases bind_error failedArguments with failedArguments | ⟨_, _, _, failedAll⟩
    · refine ((breaksOffWithin budget).arguments failedArguments shallow).inside
        [name.val, opening] [] ?_
      rintro _ ⟨arguments, closing, rfl⟩
      exact ⟨.instruction command name ⟨opening, openingKind⟩ arguments closing,
        by simp [Statement.tokens]⟩
    · cases failedAll

/-- A jump that is completed from any place on. -/
theorem isStatement_jump (word : Terminal .jump) (openingBracket : Terminal .leftBracket)
    (target : Terminal .identifier) (closingBracket : Terminal .rightBracket)
    (opening : Terminal .leftParenthesis) {condition : List Token}
    (isCondition : IsExpression 0 condition) (closing : Terminal .rightParenthesis) :
    IsStatement (word.val :: openingBracket.val :: target.val :: closingBracket.val ::
      opening.val :: (condition ++ [closing.val])) := by
  obtain ⟨expression, rfl⟩ := isCondition
  exact ⟨.jump word openingBracket target closingBracket opening expression closing, rfl⟩

theorem jump_breakOff (word : Terminal .jump)
    (failed : Parser.statement budget (word.val :: tokens) = .error complaint rest)
    (shallow : complaint.reason ≠ .nestedTooDeeply) :
    BreaksOff IsStatement (word.val :: tokens) rest complaint := by
  obtain ⟨missing, isCondition⟩ := exists_isExpression (Nat.zero_le 6)
  rw [Parser.statement_jump _ word.kind_val] at failed
  rcases bind_error failed with fails | ⟨openingBracket, _, readOpeningBracket, afterOpeningBracket⟩
  · exact .of_expect [word.val] fails
      (isStatement_jump word (.some _) (.some _) (.some _) (.some _) isCondition (.some _)) rfl
  rcases expect_ok readOpeningBracket with ⟨openingBracketKind, rfl⟩
  rcases bind_error afterOpeningBracket with fails | ⟨target, _, readTarget, afterTarget⟩
  · exact .of_expect [word.val, openingBracket] fails
      (isStatement_jump word ⟨openingBracket, openingBracketKind⟩ (.some _) (.some _) (.some _)
        isCondition (.some _)) rfl
  rcases expect_ok readTarget with ⟨targetKind, rfl⟩
  rcases bind_error afterTarget with
    fails | ⟨closingBracket, _, readClosingBracket, afterClosingBracket⟩
  · exact .of_expect [word.val, openingBracket, target] fails
      (isStatement_jump word ⟨openingBracket, openingBracketKind⟩ ⟨target, targetKind⟩ (.some _)
        (.some _) isCondition (.some _)) rfl
  rcases expect_ok readClosingBracket with ⟨closingBracketKind, rfl⟩
  rcases bind_error afterClosingBracket with fails | ⟨opening, _, readOpening, afterOpening⟩
  · exact .of_expect [word.val, openingBracket, target, closingBracket] fails
      (isStatement_jump word ⟨openingBracket, openingBracketKind⟩ ⟨target, targetKind⟩
        ⟨closingBracket, closingBracketKind⟩ (.some _) isCondition (.some _)) rfl
  rcases expect_ok readOpening with ⟨openingKind, rfl⟩
  have completed {condition : List Token} (isCondition : IsExpression 0 condition) :=
    isStatement_jump word ⟨openingBracket, openingBracketKind⟩ ⟨target, targetKind⟩
      ⟨closingBracket, closingBracketKind⟩ ⟨opening, openingKind⟩ isCondition (.some _)
  rcases bind_error afterOpening with fails | ⟨_, _, readCondition, afterCondition⟩
  · exact ((breaksOffWithin budget).expression (Nat.zero_le 6) fails shallow).inside
      [word.val, openingBracket, target, closingBracket, opening] _ fun _ => completed
  rcases (sound budget).expression (Nat.zero_le 6) readCondition with ⟨condition, rfl, rfl, -⟩
  rcases bind_error afterCondition with fails | ⟨_, _, _, failedAll⟩
  · exact .of_expect
      (word.val :: openingBracket :: target :: closingBracket :: opening :: condition.tokens) fails
      (completed ⟨condition, rfl⟩) rfl
  · cases failedAll

theorem statement_breakOff (failed : Parser.statement budget tokens = .error complaint rest)
    (nonempty : tokens ≠ []) (shallow : complaint.reason ≠ .nestedTooDeeply) :
    BreaksOff IsStatement tokens rest complaint := by
  obtain ⟨token, later, rfl⟩ := List.exists_cons_of_ne_nil nonempty
  by_cases starts : startsStatement token.kind = true
  · rcases startsStatement_iff.mp starts with isName | ⟨command, isCommand⟩ | isJump
    · exact named_breakOff ⟨token, isName⟩ failed shallow
    · exact instruction_breakOff ⟨token, isCommand⟩ failed shallow
    · exact jump_breakOff ⟨token, isJump⟩ failed shallow
  · rw [Parser.statement_other _ (Bool.eq_false_iff.mpr starts)] at failed
    cases failed
    exact .behind [] ⟨.label (Terminal.some _) (Terminal.some _), rfl⟩ rfl (token :: later)

theorem separators_not_error : Parser.separators tokens ≠ .error complaint rest := by
  intro failed
  cases failed

theorem statements_breakOff (rounds : Nat)
    (failed : Parser.statements budget rounds tokens = .error complaint rest)
    (shallow : complaint.reason ≠ .nestedTooDeeply) :
    BreaksOff (fun tokens => ∃ parts, Program.statementTokens parts = tokens) tokens rest
      complaint := by
  induction rounds generalizing tokens with
  | zero => cases failed
  | succ rounds induction =>
      cases tokens with
      | nil => cases failed
      | cons token later =>
          by_cases isEnd : token.kind = .endOfInput
          · rw [Parser.statements_end _ _ isEnd] at failed
            cases failed
          · rw [Parser.statements_cons _ _ isEnd] at failed
            rcases bind_error failed with failedFirst | ⟨_, _, readFirst, failedMore⟩
            · refine (statement_breakOff failedFirst (List.cons_ne_nil _ _) shallow).inside
                [] [] ?_
              rintro _ ⟨first, rfl⟩
              exact ⟨[(first, [])], by simp [Program.statementTokens]⟩
            · rcases statement_sound readFirst with ⟨first, rfl, derived⟩
              rw [← derived]
              rcases bind_error failedMore with failed | ⟨⟨⟩, _, readSeparators, failedRest⟩
              · exact (separators_not_error failed).elim
              · rcases separators_sound readSeparators with ⟨separators, rfl⟩
                rcases bind_error failedRest with failedLater | ⟨_, _, _, failedAll⟩
                · rw [← List.append_assoc]
                  refine (induction failedLater).inside
                    (first.tokens ++ separators.map Subtype.val) [] ?_
                  rintro _ ⟨parts, rfl⟩
                  exact ⟨(first, separators) :: parts, by simp [Program.statementTokens]⟩
                · cases failedAll

theorem program_breakOff (failed : Parser.program budget tokens = .error complaint rest)
    (shallow : complaint.reason ≠ .nestedTooDeeply) :
    BreaksOff IsProgram tokens rest complaint := by
  rcases bind_error failed with failed | ⟨⟨⟩, middle, readSeparators, failedStatements⟩
  · exact (separators_not_error failed).elim
  · rcases separators_sound readSeparators with ⟨leading, rfl⟩
    rw [remaining_bind] at failedStatements
    refine (statements_breakOff middle.length failedStatements shallow).inside
      (leading.map Subtype.val) [] ?_
    rintro _ ⟨parts, rfl⟩
    exact ⟨⟨leading, parts⟩, by simp [Program.tokens]⟩

end Statements

/-- Tokens of a program can be parsed if the nesting limit is large enough. -/
theorem IsProgram.exists_parseWithin {tokens : List Token} (isProgram : IsProgram tokens) :
    ∃ enough, ∀ limit, enough ≤ limit →
      ∃ statements, parseWithin limit tokens = .ok statements := by
  obtain ⟨program, rfl⟩ := isProgram
  have derived : program.tokens = beforeEnd program.tokens := by
    have ended : Ended [] := trivial
    simpa using (beforeEnd_append program.ne_end ended).symm
  obtain ⟨enough, reads⟩ := parseWithin_of_derivation ⟨program, derived⟩
  exact ⟨enough, fun limit large => ⟨_, reads limit large⟩⟩

theorem Blames.location_eq {taken rest : List Token} {complaint : Complaint}
    (blames : Blames taken rest complaint) :
    if complaint.message = "Expected assignment or label" then
      ∃ before name, taken = before ++ [name] ∧ complaint.location = name.location
    else complaint.location = here rest := by
  cases blames with
  | @next reason about =>
      have differs : Complaint.message ⟨reason, here rest⟩ ≠ "Expected assignment or label" :=
        Reason.message_ne_of_isAboutNext about
      rw [if_neg differs]
  | @name before name last =>
      have same : Complaint.message ⟨.statementWanted, name.location⟩ =
          "Expected assignment or label" := rfl
      rw [if_pos same]
      exact ⟨before, name, last, rfl⟩

theorem here_eq_getElem? (taken rest : List Token) :
    here rest = ((taken ++ rest)[taken.length]?.map Token.location).getD .nowhere := by
  rw [List.getElem?_append_right (Nat.le_refl _), Nat.sub_self]
  cases rest <;> rfl

/-- Reading from the first token on, the index is the number of tokens taken. -/
theorem read_start {α : Type} (tokens : List Token) (reading : Reading α) :
    TokenStream.read ⟨tokens, 0⟩ reading = match reading tokens with
      | .ok result rest => (.ok result, ⟨tokens, tokens.length - rest.length⟩)
      | .error complaint rest => (.error complaint, ⟨tokens, tokens.length - rest.length⟩) := by
  change (match reading tokens with
    | .ok result rest =>
        (Except.ok result, TokenStream.mk tokens (0 + (tokens.length - rest.length)))
    | .error complaint rest =>
        (Except.error complaint, TokenStream.mk tokens (0 + (tokens.length - rest.length)))) = _
  cases reading tokens <;> dsimp only <;> rw [Nat.zero_add]

theorem read_of_error {limit : Nat} {taken rest : List Token} {complaint : Complaint}
    (failed : Parser.program limit (taken ++ rest) = .error complaint rest) :
    TokenStream.read ⟨taken ++ rest, 0⟩ (Parser.program limit) =
      (.error complaint, ⟨taken ++ rest, taken.length⟩) := by
  rw [read_start, failed]
  simp

/-- What has been read of a program by the time that it fails. -/
theorem exists_breakOff_of_read {limit : Nat} {tokens : List Token} {complaint : Complaint}
    {stopped : TokenStream}
    (failed : TokenStream.read ⟨tokens, 0⟩ (Parser.program limit) = (.error complaint, stopped))
    (shallow : complaint.reason ≠ .nestedTooDeeply) :
    ∃ taken rest missing, tokens = taken ++ rest ∧ stopped = ⟨tokens, taken.length⟩ ∧
      Parser.program limit tokens = .error complaint rest ∧ IsProgram (taken ++ missing) ∧
      Blames taken rest complaint := by
  rw [read_start] at failed
  cases found : Parser.program limit tokens with
  | ok statements rest =>
      rw [found] at failed
      cases failed
  | error reported rest =>
      rw [found] at failed
      cases failed
      obtain ⟨taken, missing, rfl, completed, blames⟩ := program_breakOff found shallow
      exact ⟨taken, rest, missing, rfl, by simp, rfl, completed, blames⟩

/-- Parsing stops at the first token that cannot be part of any program.  The tokens
before it can be completed, whatever follows it changes nothing, and the complaint is
located at it, or at the name before it that starts no statement. -/
theorem viablePrefix_of_error {limit : Nat} {tokens : List Token} {complaint : Complaint}
    {stopped : TokenStream}
    (failed : TokenStream.read ⟨tokens, 0⟩ (Parser.program limit) = (.error complaint, stopped))
    (shallow : complaint.reason ≠ .nestedTooDeeply) :
    (∃ missing enough, ∀ more, enough ≤ more → ∃ statements,
      parseWithin more (tokens.take stopped.index ++ missing) = .ok statements) ∧
    (stopped.index < tokens.length → ∀ other, tokens.take (stopped.index + 1) <+: other →
      TokenStream.read ⟨other, 0⟩ (Parser.program limit) =
        (.error complaint, ⟨other, stopped.index⟩)) ∧
    if complaint.message = "Expected assignment or label" then
      ∃ name, 0 < stopped.index ∧ tokens[stopped.index - 1]? = some name ∧
        complaint.location = name.location
    else complaint.location = (tokens[stopped.index]?.map Token.location).getD .nowhere := by
  obtain ⟨taken, rest, missing, rfl, rfl, read, completed, blames⟩ :=
    exists_breakOff_of_read failed shallow
  dsimp only
  refine ⟨⟨missing, ?_⟩, fun within other begins => ?_, ?_⟩
  · rw [List.take_left]
    exact completed.exists_parseWithin
  · cases rest with
    | nil =>
        rw [List.append_nil] at within
        exact absurd within (Nat.lt_irrefl _)
    | cons token later =>
        obtain ⟨further, rfl⟩ := begins
        have same := (Parser.local_program limit).lookahead taken (by rw [read]; rfl)
          further
        rw [read, leaving] at same
        rw [List.append_cons, List.take_left' (by simp), List.append_assoc]
        exact read_of_error same
  · have located := blames.location_eq
    split at located
    · obtain ⟨before, name, rfl, same⟩ := located
      rw [if_pos ‹_›]
      exact ⟨name, by simp, by simp, same⟩
    · rw [if_neg ‹_›, located]
      exact here_eq_getElem? taken rest

/-- The tokens of `goto[7`. -/
def jumpToNumber : List Token :=
  [⟨.jump, "goto", none, ⟨1, 1⟩⟩, ⟨.leftBracket, "[", none, ⟨1, 5⟩⟩,
    ⟨.number, "7", some (.number 7), ⟨1, 6⟩⟩]

/-- A jump can start like this up to the number, but never with it. -/
theorem viablePrefix_jumpToNumber :
    TokenStream.read ⟨jumpToNumber, 0⟩ (Parser.program Node.nestingLimit) =
      (.error ⟨.labelWanted, ⟨1, 6⟩⟩, ⟨jumpToNumber, 2⟩) ∧
    (∃ missing enough, ∀ more, enough ≤ more → ∃ statements,
      parseWithin more (jumpToNumber.take 2 ++ missing) = .ok statements) ∧
    ∀ other, jumpToNumber <+: other →
      TokenStream.read ⟨other, 0⟩ (Parser.program Node.nestingLimit) =
        (.error ⟨.labelWanted, ⟨1, 6⟩⟩, ⟨other, 2⟩) := by
  have failed : TokenStream.read ⟨jumpToNumber, 0⟩ (Parser.program Node.nestingLimit) =
      (.error ⟨.labelWanted, ⟨1, 6⟩⟩, ⟨jumpToNumber, 2⟩) := rfl
  obtain ⟨completed, same, -⟩ := viablePrefix_of_error failed (by decide)
  exact ⟨failed, completed, same (by decide)⟩

end Grammar
end PixelBrush
