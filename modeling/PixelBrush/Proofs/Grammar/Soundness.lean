import Mathlib.Data.Nat.Init
import PixelBrush.Proofs.Grammar.Unambiguity
import PixelBrush.Proofs.Parser

/-! # Reading yields derivations

Whatever is read within some budget has a derivation from the tokens that were
taken, and its tree is the one that the derivation stands for.
-/

namespace PixelBrush
namespace Grammar

open Reading

theorem Expression.level_le {level : Nat} (expression : Expression level) : level ≤ 6 := by
  cases expression with
  | atom => exact Nat.le_refl 6
  | operand below => exact Nat.le_of_lt below
  | binary _ operator member =>
      have bound := precedence_le_six operator
      rw [mem_operatorsAt.mp member] at bound
      omega

/-- An expression of a level is one of every looser level, too. -/
theorem Expression.exists_lower {floor level : Nat} (expression : Expression level)
    (below : floor ≤ level) :
    ∃ lowered : Expression floor,
      lowered.tokens = expression.tokens ∧ lowered.tree = expression.tree := by
  have bound := expression.level_le
  induction below using Nat.decreasingInduction with
  | self => exact ⟨expression, rfl, rfl⟩
  | of_succ lower lowerThan induction =>
      rcases induction with ⟨lowered, sameTokens, sameTree⟩
      refine ⟨.operand (by omega) lowered, ?_⟩
      rw [Expression.tokens, Expression.tree]
      exact ⟨sameTokens, sameTree⟩

/-- An operator with a right operand joins an expression at its own level. -/
theorem Expression.exists_join {joint level : Nat} (left : Expression level)
    {operator : BinaryOperator} (precedence : operator.precedence = joint + 1)
    (below : joint ≤ level) (sign : Terminal (.binary operator))
    (right : Expression (joint + 1)) :
    ∃ joined : Expression joint, joined.tokens = left.tokens ++ sign.val :: right.tokens ∧
      joined.tree = .binary operator.text left.tree right.tree sign.val.location := by
  rcases left.exists_lower below with ⟨lowered, sameTokens, sameTree⟩
  refine ⟨.binary lowered operator (mem_operatorsAt.mpr precedence) sign right, ?_⟩
  rw [Expression.tokens, Expression.tree, sameTokens, sameTree]
  exact ⟨rfl, rfl⟩

theorem exists_precedence_eq (operator : BinaryOperator) :
    ∃ level, operator.precedence = level + 1 := by
  cases operator <;> exact ⟨_, rfl⟩

variable {tokens rest : List Token} {node : Node}

/-- If no operator is to join an expression, it is read as one of a looser
level. -/
theorem Expression.exists_settled {operand : Nat → Reading Node} {rounds floor level : Nat}
    (expression : Expression level) (below : floor ≤ level) (settled : Settled floor tokens)
    (read : Parser.operators operand floor rounds expression.tree tokens = .ok node rest) :
    ∃ derivation : Expression floor, derivation.tree = node ∧
      derivation.tokens ++ rest = expression.tokens ++ tokens ∧ Settled floor rest := by
  rw [Parser.operators_settled _ _ _ _ settled] at read
  cases read
  rcases expression.exists_lower below with ⟨lowered, sameTokens, sameTree⟩
  exact ⟨lowered, sameTree, by rw [sameTokens], settled⟩

/-- Reading operands at every level yields derivations. -/
def ReadsExpressions (operand : Nat → Reading Node) : Prop :=
  ∀ {level tokens node rest}, level ≤ 6 → operand level tokens = .ok node rest →
    ∃ derivation : Expression level, derivation.tree = node ∧
      derivation.tokens ++ rest = tokens ∧ Settled level rest

/-- The operators that follow an expression join it one after the other, so that
the tree grows to the left. -/
theorem operators_sound {operand : Nat → Reading Node} (sound : ReadsExpressions operand)
    {floor : Nat} (rounds : Nat) {level : Nat} (left : Expression level)
    (below : floor ≤ level) (enough : tokens.length ≤ rounds)
    (settled : Settled (level + 1) tokens)
    (read : Parser.operators operand floor rounds left.tree tokens = .ok node rest) :
    ∃ derivation : Expression floor, derivation.tree = node ∧
      derivation.tokens ++ rest = left.tokens ++ tokens ∧ Settled floor rest := by
  -- The next operator joins the expression at its level or below, which keeps
  -- the tokens behind the right operand settled for the joined expression.
  induction rounds generalizing level tokens with
  | zero =>
      obtain rfl := List.eq_nil_of_length_eq_zero (Nat.le_zero.mp enough)
      exact left.exists_settled below trivial read
  | succ rounds induction =>
      by_cases settledFloor : Settled floor tokens
      · exact left.exists_settled below settledFloor read
      · obtain ⟨token, later, operator, rfl, kind, tighter⟩ :=
          exists_of_not_settled settledFloor
        rcases exists_precedence_eq operator with ⟨joint, precedence⟩
        have loose : operator.precedence ≤ level + 1 := settled operator kind
        rw [Parser.operators_join _ _ _ _ kind tighter] at read
        rcases bind_ok read with ⟨_, middle, readRight, readLater⟩
        rw [precedence] at readRight
        obtain ⟨right, rfl, rfl, settledRight⟩ :=
          sound (precedence ▸ precedence_le_six operator) readRight
        obtain ⟨joined, joinedTokens, joinedTree⟩ :=
          left.exists_join precedence (by omega) ⟨token, kind⟩ right
        rw [← joinedTree] at readLater
        obtain ⟨derivation, tree, derived, settledRest⟩ :=
          induction joined (by omega) (by simp at enough; omega) settledRight readLater
        exact ⟨derivation, tree, by simp [derived, joinedTokens], settledRest⟩

theorem argumentList_sound {operand : Nat → Reading Node} (sound : ReadsExpressions operand)
    {owner : String} (rounds : Nat) {nodes : List Node}
    (read : Parser.argumentList (operand 0) owner rounds tokens = .ok nodes rest) :
    ∃ (derivation : Arguments) (closing : Terminal .rightParenthesis),
      derivation.trees = nodes ∧ derivation.tokens ++ closing.val :: rest = tokens := by
  induction rounds generalizing tokens nodes rest with
  | zero =>
      rcases bind_ok read with ⟨closing, _, readClosing, readNone⟩
      rcases expect_ok readClosing with ⟨kind, rfl⟩
      rcases pure_ok readNone with ⟨rfl, rfl⟩
      exact ⟨.none, ⟨closing, kind⟩, rfl, rfl⟩
  | succ rounds induction =>
      cases tokens with
      | nil => cases read
      | cons token later =>
          by_cases isClosing : token.kind = .rightParenthesis
          · rw [Parser.argumentList_closing _ _ _ isClosing] at read
            cases read
            exact ⟨.none, ⟨token, isClosing⟩, rfl, rfl⟩
          · by_cases isEnd : token.kind = .endOfInput
            · rw [Parser.argumentList_end _ _ _ isEnd] at read
              cases read
            · rw [Parser.argumentList_item _ _ _ isClosing isEnd] at read
              rcases bind_ok read with ⟨_, middle, readFirst, readMore⟩
              rcases sound (Nat.zero_le 6) readFirst with ⟨first, rfl, derived, -⟩
              rw [← derived]
              rcases bind_ok readMore with ⟨accepted, afterComma, readComma, readOthers⟩
              cases accepted with
              | true =>
                  rcases accept_ok_true readComma with ⟨comma, commaKind, rfl⟩
                  rcases bind_ok readOthers with ⟨_, _, readOthers, readAll⟩
                  rcases induction readOthers with ⟨others, closing, rfl, rfl⟩
                  rcases pure_ok readAll with ⟨rfl, rfl⟩
                  exact ⟨.more first ⟨comma, commaKind⟩ others, closing, by
                    rw [Arguments.trees], by simp [Arguments.tokens]⟩
              | false =>
                  obtain rfl := accept_ok_false readComma
                  rcases bind_ok readOthers with ⟨closing, _, readClosing, readAll⟩
                  rcases expect_ok readClosing with ⟨kind, rfl⟩
                  rcases pure_ok readAll with ⟨rfl, rfl⟩
                  exact ⟨.last first, ⟨closing, kind⟩, by rw [Arguments.trees],
                    by simp [Arguments.tokens]⟩

/-- Within a budget, each of the readings that call each other yields
derivations. -/
structure Sound (budget : Nat) : Prop where
  expression : ReadsExpressions (Parser.expression budget)
  atom : ∀ {tokens node rest}, Parser.atom budget tokens = .ok node rest →
    ∃ derivation : Atom, derivation.tree = node ∧ derivation.tokens ++ rest = tokens
  call : ∀ {query : Query} (name : Terminal (.query query)) {tokens node rest},
    Parser.call budget (name.val :: tokens) = .ok node rest →
      ∃ derivation : Atom, derivation.tree = node ∧
        derivation.tokens ++ rest = name.val :: tokens
  arguments : ∀ {owner tokens nodes rest},
    Parser.arguments budget owner tokens = .ok nodes rest →
      ∃ (derivation : Arguments) (closing : Terminal .rightParenthesis),
        derivation.trees = nodes ∧ derivation.tokens ++ closing.val :: rest = tokens

namespace Sound

variable {budget : Nat}

theorem expression_succ (sound : Sound budget) :
    ReadsExpressions (Parser.expression (budget + 1)) := by
  intro level tokens node rest highest read
  rcases bind_ok read with ⟨_, middle, readAtom, readOperators⟩
  rcases sound.atom readAtom with ⟨atom, rfl, rfl⟩
  rw [remaining_bind] at readOperators
  exact operators_sound sound.expression middle.length (.atom atom) highest (Nat.le_refl _)
    ((settled_six middle).mono (by omega)) readOperators

theorem atom_succ (sound : Sound budget) (read : Parser.atom (budget + 1) tokens = .ok node rest) :
    ∃ derivation : Atom, derivation.tree = node ∧ derivation.tokens ++ rest = tokens := by
  cases tokens with
  | nil => cases read
  | cons token later =>
      by_cases starts : startsAtom token.kind = true
      · rcases startsAtom_iff.mp starts with
          ⟨kind, isLiteral⟩ | isName | ⟨query, isQuery⟩ | isOpening | ⟨operator, isSign⟩
        · rw [Parser.atom_literal _ isLiteral] at read
          cases read
          exact ⟨.literal kind ⟨token, isLiteral⟩, rfl, rfl⟩
        · rw [Parser.atom_reference _ isName] at read
          cases read
          exact ⟨.reference ⟨token, isName⟩, rfl, rfl⟩
        · rw [Parser.atom_call _ isQuery] at read
          exact sound.call ⟨token, isQuery⟩ read
        · rw [Parser.atom_enclosed _ isOpening] at read
          rcases bind_ok read with ⟨_, middle, readInner, readClosing⟩
          rcases sound.expression (Nat.zero_le 6) readInner with ⟨inner, rfl, rfl, -⟩
          rcases bind_ok readClosing with ⟨closing, _, readClosing, readAll⟩
          rcases expect_ok readClosing with ⟨kind, rfl⟩
          rcases pure_ok readAll with ⟨rfl, rfl⟩
          exact ⟨.enclosed ⟨token, isOpening⟩ inner ⟨closing, kind⟩, by rw [Atom.tree],
            by simp [Atom.tokens]⟩
        · rw [Parser.atom_unary _ isSign] at read
          rcases bind_ok read with ⟨_, middle, readOperand, readAll⟩
          rcases sound.atom readOperand with ⟨operand, rfl, rfl⟩
          rcases pure_ok readAll with ⟨rfl, rfl⟩
          exact ⟨.unary operator ⟨token, isSign⟩ operand, by rw [Atom.tree],
            by simp [Atom.tokens]⟩
      · rw [Parser.atom_other _ (Bool.eq_false_iff.mpr starts)] at read
        cases read

theorem call_succ (sound : Sound budget) {query : Query} (name : Terminal (.query query))
    (read : Parser.call (budget + 1) (name.val :: tokens) = .ok node rest) :
    ∃ derivation : Atom, derivation.tree = node ∧
      derivation.tokens ++ rest = name.val :: tokens := by
  rw [Parser.call_cons] at read
  rcases bind_ok read with ⟨opening, middle, readOpening, readArguments⟩
  rcases expect_ok readOpening with ⟨openingKind, rfl⟩
  rcases bind_ok readArguments with ⟨_, _, readArguments, readAll⟩
  rcases sound.arguments readArguments with ⟨arguments, closing, rfl, rfl⟩
  rcases pure_ok readAll with ⟨rfl, rfl⟩
  refine ⟨.call query name ⟨opening, openingKind⟩ arguments closing, ?_, ?_⟩
  · rw [Atom.tree, name.kind_val, TokenKind.name]
  · simp [Atom.tokens]

theorem arguments_succ (sound : Sound budget) {owner : String} {nodes : List Node}
    (read : Parser.arguments (budget + 1) owner tokens = .ok nodes rest) :
    ∃ (derivation : Arguments) (closing : Terminal .rightParenthesis),
      derivation.trees = nodes ∧ derivation.tokens ++ closing.val :: rest = tokens := by
  rw [Parser.arguments, remaining_bind] at read
  exact argumentList_sound sound.expression _ read

end Sound

theorem sound (budget : Nat) : Sound budget := by
  induction budget with
  | zero =>
      exact ⟨fun _ read => (fail_not_ok read).elim, fun read => (fail_not_ok read).elim,
        fun _ _ _ _ read => (fail_not_ok read).elim, fun read => (fail_not_ok read).elim⟩
  | succ budget induction =>
      exact ⟨induction.expression_succ, induction.atom_succ, fun name => induction.call_succ name,
        induction.arguments_succ⟩

variable {budget : Nat}

theorem named_sound (name : Terminal .identifier)
    (read : Parser.statement budget (name.val :: tokens) = .ok node rest) :
    ∃ derivation : Statement, derivation.tree = node ∧
      derivation.tokens ++ rest = name.val :: tokens := by
  rw [Parser.statement_named _ name.kind_val] at read
  rcases bind_ok read with ⟨isLabel, _, readColon, readBody⟩
  cases isLabel with
  | true =>
      rcases accept_ok_true readColon with ⟨colon, colonKind, rfl⟩
      rcases pure_ok readBody with ⟨rfl, rfl⟩
      exact ⟨.label name ⟨colon, colonKind⟩, rfl, rfl⟩
  | false =>
      obtain rfl := accept_ok_false readColon
      rcases bind_ok readBody with ⟨isAssignment, _, readArrow, readValue⟩
      cases isAssignment with
      | true =>
          rcases accept_ok_true readArrow with ⟨arrow, arrowKind, rfl⟩
          rcases bind_ok readValue with ⟨_, _, readValue, readAll⟩
          rcases (sound budget).expression (Nat.zero_le 6) readValue with ⟨value, rfl, rfl, -⟩
          rcases pure_ok readAll with ⟨rfl, rfl⟩
          exact ⟨.assignment name ⟨arrow, arrowKind⟩ value, rfl, rfl⟩
      | false => cases readValue

theorem instruction_sound {command : Command} (name : Terminal (.command command))
    (read : Parser.statement budget (name.val :: tokens) = .ok node rest) :
    ∃ derivation : Statement, derivation.tree = node ∧
      derivation.tokens ++ rest = name.val :: tokens := by
  rw [Parser.statement_instruction _ name.kind_val] at read
  rcases bind_ok read with ⟨opening, _, readOpening, readArguments⟩
  rcases expect_ok readOpening with ⟨openingKind, rfl⟩
  rcases bind_ok readArguments with ⟨_, _, readArguments, readAll⟩
  rcases (sound budget).arguments readArguments with ⟨arguments, closing, rfl, rfl⟩
  rcases pure_ok readAll with ⟨rfl, rfl⟩
  exact ⟨.instruction command name ⟨opening, openingKind⟩ arguments closing, rfl,
    by simp [Statement.tokens]⟩

theorem jump_sound (word : Terminal .jump)
    (read : Parser.statement budget (word.val :: tokens) = .ok node rest) :
    ∃ derivation : Statement, derivation.tree = node ∧
      derivation.tokens ++ rest = word.val :: tokens := by
  rw [Parser.statement_jump _ word.kind_val] at read
  rcases bind_ok read with ⟨openingBracket, _, readOpeningBracket, afterOpeningBracket⟩
  rcases expect_ok readOpeningBracket with ⟨openingBracketKind, rfl⟩
  rcases bind_ok afterOpeningBracket with ⟨target, _, readTarget, afterTarget⟩
  rcases expect_ok readTarget with ⟨targetKind, rfl⟩
  rcases bind_ok afterTarget with ⟨closingBracket, _, readClosingBracket, afterClosingBracket⟩
  rcases expect_ok readClosingBracket with ⟨closingBracketKind, rfl⟩
  rcases bind_ok afterClosingBracket with ⟨opening, _, readOpening, afterOpening⟩
  rcases expect_ok readOpening with ⟨openingKind, rfl⟩
  rcases bind_ok afterOpening with ⟨_, _, readCondition, afterCondition⟩
  rcases (sound budget).expression (Nat.zero_le 6) readCondition with ⟨condition, rfl, rfl, -⟩
  rcases bind_ok afterCondition with ⟨closing, _, readClosing, readAll⟩
  rcases expect_ok readClosing with ⟨closingKind, rfl⟩
  rcases pure_ok readAll with ⟨rfl, rfl⟩
  exact ⟨.jump word ⟨openingBracket, openingBracketKind⟩ ⟨target, targetKind⟩
    ⟨closingBracket, closingBracketKind⟩ ⟨opening, openingKind⟩ condition
    ⟨closing, closingKind⟩, rfl, by simp [Statement.tokens]⟩

theorem statement_sound (read : Parser.statement budget tokens = .ok node rest) :
    ∃ derivation : Statement, derivation.tree = node ∧ derivation.tokens ++ rest = tokens := by
  cases tokens with
  | nil => cases read
  | cons token later =>
      by_cases starts : startsStatement token.kind = true
      · rcases startsStatement_iff.mp starts with isName | ⟨command, isCommand⟩ | isJump
        · exact named_sound ⟨token, isName⟩ read
        · exact instruction_sound ⟨token, isCommand⟩ read
        · exact jump_sound ⟨token, isJump⟩ read
      · rw [Parser.statement_other _ (Bool.eq_false_iff.mpr starts)] at read
        cases read

theorem separators_sound (read : Parser.separators tokens = .ok () rest) :
    ∃ separators : List Separator, separators.map Subtype.val ++ rest = tokens := by
  cases read
  refine ⟨(tokens.takeWhile fun token => Parser.separates token.kind).attachWith _ ?_, ?_⟩
  · intro token member
    simpa [Parser.separates] using List.all_eq_true.mp List.all_takeWhile token member
  · simp

theorem statements_sound (rounds : Nat) {nodes : List Node} (enough : tokens.length ≤ rounds)
    (read : Parser.statements budget rounds tokens = .ok nodes rest) :
    ∃ parts : List (Statement × List Separator), (parts.map fun part => part.1.tree) = nodes ∧
      Program.statementTokens parts ++ rest = tokens ∧ Ended rest := by
  induction rounds generalizing tokens nodes rest with
  | zero =>
      obtain rfl := List.eq_nil_of_length_eq_zero (Nat.le_zero.mp enough)
      cases read
      exact ⟨[], rfl, rfl, trivial⟩
  | succ rounds induction =>
      cases tokens with
      | nil =>
          cases read
          exact ⟨[], rfl, rfl, trivial⟩
      | cons token later =>
          by_cases isEnd : token.kind = .endOfInput
          · rw [Parser.statements_end _ _ isEnd] at read
            cases read
            exact ⟨[], rfl, rfl, isEnd⟩
          · rw [Parser.statements_cons _ _ isEnd] at read
            rcases bind_ok read with ⟨_, _, readFirst, readMore⟩
            rcases statement_sound readFirst with ⟨first, rfl, derived⟩
            rcases bind_ok readMore with ⟨⟨⟩, _, readSeparators, readRest⟩
            rcases separators_sound readSeparators with ⟨separators, rfl⟩
            rcases bind_ok readRest with ⟨_, _, readLater, readAll⟩
            rcases first.exists_head with ⟨head, others, headEq, -⟩
            have shorter := congrArg List.length derived
            simp [headEq] at shorter enough
            rcases induction (by omega) readLater with ⟨parts, rfl, rfl, ended⟩
            rcases pure_ok readAll with ⟨rfl, rfl⟩
            exact ⟨(first, separators) :: parts, rfl, by simp [Program.statementTokens, ← derived],
              ended⟩

theorem program_sound {nodes : List Node} (read : Parser.program budget tokens = .ok nodes rest) :
    ∃ program : Program, program.trees = nodes ∧ program.tokens ++ rest = tokens ∧ Ended rest := by
  rcases bind_ok read with ⟨⟨⟩, middle, readSeparators, readStatements⟩
  rcases separators_sound readSeparators with ⟨leading, rfl⟩
  rw [remaining_bind] at readStatements
  obtain ⟨parts, rfl, rfl, ended⟩ :=
    statements_sound middle.length (Nat.le_refl _) readStatements
  exact ⟨⟨leading, parts⟩, rfl, by simp [Program.tokens], ended⟩

end Grammar
end PixelBrush
