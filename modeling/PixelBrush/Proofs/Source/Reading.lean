import PixelBrush.Proofs.Grammar.Correctness
import PixelBrush.Proofs.Segmentation.Correctness
import PixelBrush.Proofs.Source

/-! # What is read from program texts is well formed

The value of every token of a text suits its kind: names are words that are no
keywords, and literals hold values that can be written down.  So the statements
that are read from a text are among those that can be written.
-/

namespace PixelBrush

open Segmentation

/-- Whether a text is that of a program: it is divided into some tokens, and these
make up some statements. -/
structure ReadsAs (source : String) (tokens : List Token) (statements : List Node) : Prop where
  tokenized : tokenize source = .ok tokens
  parsed : parse tokens = .ok statements

/-- Whether a value suits a kind of token. -/
structure SuitsKind (kind : TokenKind) (value : Payload) : Prop where
  identifier : kind = .identifier → ∃ name, value = some (.string name) ∧ IsIdentifier name
  literal : ∀ {of : Kind}, kind = Grammar.literalToken of →
    ∃ found : Value, value = some found ∧ found.kind = of ∧ found.Writable

section Lexemes

variable {kind : TokenKind} {value : Payload} {lexeme : Lexeme} {rest : List Char}

/-- Kinds of tokens that are neither names nor literals go with any value. -/
theorem SuitsKind.of_other (noName : kind ≠ .identifier)
    (noLiteral : ∀ literal, kind ≠ Grammar.literalToken literal) : SuitsKind kind value where
  identifier isName := absurd isName noName
  literal isLiteral := absurd isLiteral (noLiteral _)

theorem SuitsKind.of_literal (value : Value) (writable : value.Writable) :
    SuitsKind (Grammar.literalToken value.kind) (some value) where
  identifier isName := by cases value <;> cases isName
  literal {of} same := by
    refine ⟨value, rfl, ?_, writable⟩
    cases value <;> cases of <;> first | rfl | cases same

theorem suitsKind_keyword {word : String} (known : Cursor.keyword? word = some (kind, value)) :
    SuitsKind kind value := by
  unfold Cursor.keyword? at known
  split at known
  case h_21 => cases known
  case h_16 | h_17 =>
    obtain ⟨rfl, rfl⟩ := Prod.mk.inj (Option.some.inj known)
    exact .of_literal (.boolean _) trivial
  all_goals
    obtain ⟨rfl, rfl⟩ := Prod.mk.inj (Option.some.inj known)
    exact .of_other (by decide) (fun literal => by cases literal <;> decide)

theorem suitsKind_longOperator {first second : Char}
    (known : Cursor.longOperator? first second = some kind) : SuitsKind kind value := by
  unfold Cursor.longOperator? at known
  split at known
  case h_8 => cases known
  all_goals
    obtain rfl := Option.some.inj known
    exact .of_other (by decide) (fun literal => by cases literal <;> decide)

theorem suitsKind_shortOperator {character : Char}
    (known : Cursor.shortOperator? character = some kind) : SuitsKind kind value := by
  unfold Cursor.shortOperator? at known
  split at known
  case h_15 => cases known
  all_goals
    obtain rfl := Option.some.inj known
    exact .of_other (by decide) (fun literal => by cases literal <;> decide)

theorem digitValue?_lt {character : Char} {digit : Nat}
    (found : Text.digitValue? character = some digit) : digit < 10 := by
  obtain ⟨first, member, rfl⟩ := Option.map_eq_some_iff.mp found
  have within := List.find?_some member
  simp only [Bool.and_eq_true, decide_eq_true_eq] at within
  omega

theorem decimalValue_lt (digits : List Char) : decimalValue digits < 10 ^ digits.length := by
  have each : ∀ digit ∈ digits.reverse.map fun digit => (Text.digitValue? digit).getD 0,
      digit < 10 := by
    intro digit member
    obtain ⟨character, -, rfl⟩ := List.mem_map.mp member
    cases found : Text.digitValue? character with
    | none => decide
    | some digit => exact digitValue?_lt found
  have bounded := Nat.ofDigits_lt_base_pow_length (b := 10) (by decide) each
  rwa [List.length_map, List.length_reverse] at bounded

/-- A number is not longer than the digits that it is read from. -/
theorem writable_decimalValue {digits : List Char} (short : digits.length ≤ Text.digitLimit) :
    Value.Writable (.number (decimalValue digits)) := by
  refine ⟨Int.natCast_nonneg _, ?_⟩
  rw [Int.toNat_natCast]
  apply Nat.toDigits_length 10 _ _ (by decide)
  exact Nat.lt_of_lt_of_le (decimalValue_lt digits) (Nat.pow_le_pow_right (by decide) short)

/-- A word is one whatever stands behind it. -/
theorem isIdentifier_of_word {text : List Char} (word : Word text rest)
    (unknown : Cursor.keyword? (String.ofList (Text.foldCase text)) = none) :
    IsIdentifier (String.ofList text) where
  word := by
    rw [String.toList_ofList]
    exact ⟨word.starts, word.run.all, fun _ next => by cases next⟩
  unknown := by rwa [String.toList_ofList]

theorem Segmentation.Picked.suitsKind (picked : Picked lexeme rest) (readable : lexeme.Readable) :
    SuitsKind lexeme.kind lexeme.value := by
  cases picked with
  | endOfLine => exact .of_other nofun fun literal => by cases literal <;> nofun
  | comment run => exact .of_other nofun fun literal => by cases literal <;> nofun
  | number nonempty run => exact .of_literal _ (writable_decimalValue (readable rfl))
  | keyword word known => exact suitsKind_keyword known
  | identifier word unknown =>
      exact ⟨fun _ => ⟨_, rfl, isIdentifier_of_word word unknown⟩,
        fun {of} same => by cases of <;> cases same⟩
  | string unquoted =>
      apply SuitsKind.of_literal (.string _)
      rw [Value.Writable, String.toList_ofList]
      exact unquoted
  | longOperator known => exact suitsKind_longOperator known
  | shortOperator known alone noComment => exact suitsKind_shortOperator known

theorem suitsKind_of_segmentation {text : List Char} {lexemes : List Lexeme}
    (segmentation : Segmentation text lexemes) (readable : ∀ lexeme ∈ lexemes, lexeme.Readable) :
    ∀ lexeme ∈ lexemes, SuitsKind lexeme.kind lexeme.value := by
  induction segmentation with
  | finished between => exact fun lexeme member => absurd member List.not_mem_nil
  | lexeme between picked later induction =>
      obtain ⟨firstReadable, laterReadable⟩ := List.forall_mem_cons.mp readable
      exact List.forall_mem_cons.mpr ⟨picked.suitsKind firstReadable, induction laterReadable⟩

theorem suitsKind_of_tokenize {source : String} {tokens : List Token}
    (read : tokenize source = .ok tokens) : ∀ token ∈ tokens, SuitsKind token.kind token.value := by
  obtain ⟨lexemes, segmentation⟩ := Cursor.exists_segmentation read (Nat.lt_succ_self _)
  have same := tokenize_of_segmentation segmentation
  rw [read] at same
  obtain ⟨readable, split⟩ := outcome_eq_ok_iff.mp same.symm
  intro token member
  have found : token.lexeme ∈ lexemes ++ [.endOfInput] := by
    rw [← split]
    exact List.mem_map_of_mem member
  rcases List.mem_append.mp found with inside | last
  · exact suitsKind_of_segmentation segmentation readable token.lexeme inside
  · rw [show token.kind = .endOfInput from congrArg Lexeme.kind (List.mem_singleton.mp last)]
    exact .of_other nofun fun literal => by cases literal <;> nofun

end Lexemes

namespace Grammar

mutual

theorem Atom.wellFormed : ∀ atom : Atom,
    (∀ token ∈ atom.tokens, SuitsKind token.kind token.value) →
      atom.tree.WellFormedExpression
  | .literal kind token, suits => by
      obtain ⟨value, same, rfl, writable⟩ :=
        (suits token.val List.mem_cons_self).literal token.kind_val
      rw [Atom.tree, same]
      exact .literal writable
  | .reference name, suits => by
      obtain ⟨spelling, same, identifier⟩ :=
        (suits name.val List.mem_cons_self).identifier name.kind_val
      rw [Atom.tree, same]
      exact .reference identifier
  | .call _ _ _ arguments _, suits => by
      simp only [Atom.tokens, List.forall_mem_cons, List.forall_mem_append] at suits
      rw [Atom.tree]
      exact .call (arguments.wellFormed suits.2.2.1)
  | .enclosed _ inner _, suits => by
      simp only [Atom.tokens, List.forall_mem_cons, List.forall_mem_append] at suits
      rw [Atom.tree]
      exact inner.wellFormed suits.2.1
  | .unary _ _ operand, suits => by
      simp only [Atom.tokens, List.forall_mem_cons] at suits
      rw [Atom.tree]
      exact .unary (operand.wellFormed suits.2)

theorem Expression.wellFormed : ∀ {level : Nat} (expression : Expression level),
    (∀ token ∈ expression.tokens, SuitsKind token.kind token.value) →
      expression.tree.WellFormedExpression
  | _, .atom atom, suits => by
      rw [Expression.tree]
      exact atom.wellFormed (by rwa [Expression.tokens] at suits)
  | _, .operand _ operand, suits => by
      rw [Expression.tree]
      exact operand.wellFormed (by rwa [Expression.tokens] at suits)
  | _, .binary left _ _ _ right, suits => by
      simp only [Expression.tokens, List.forall_mem_cons, List.forall_mem_append] at suits
      rw [Expression.tree]
      exact .binary (left.wellFormed suits.1) (right.wellFormed suits.2.2)

theorem Arguments.wellFormed : ∀ arguments : Arguments,
    (∀ token ∈ arguments.tokens, SuitsKind token.kind token.value) →
      ∀ argument ∈ arguments.trees, argument.WellFormedExpression
  | .none, _ => fun argument member => absurd member List.not_mem_nil
  | .last argument, suits => by
      rw [Arguments.tokens] at suits
      rw [Arguments.trees]
      exact List.forall_mem_singleton.mpr (argument.wellFormed suits)
  | .more argument _ others, suits => by
      simp only [Arguments.tokens, List.forall_mem_cons, List.forall_mem_append] at suits
      rw [Arguments.trees]
      exact List.forall_mem_cons.mpr
        ⟨argument.wellFormed suits.1, others.wellFormed suits.2.2⟩

end

theorem Statement.wellFormed (statement : Statement)
    (suits : ∀ token ∈ statement.tokens, SuitsKind token.kind token.value) :
    statement.tree.WellFormedStatement := by
  cases statement with
  | label name colon =>
      obtain ⟨spelling, same, identifier⟩ :=
        (suits name.val List.mem_cons_self).identifier name.kind_val
      rw [Statement.tree, same]
      exact .label identifier
  | assignment name arrow value =>
      simp only [Statement.tokens, List.forall_mem_cons] at suits
      obtain ⟨spelling, same, identifier⟩ := suits.1.identifier name.kind_val
      rw [Statement.tree, same]
      exact .assignment identifier (value.wellFormed suits.2.2)
  | instruction command name opening arguments closing =>
      simp only [Statement.tokens, List.forall_mem_cons, List.forall_mem_append] at suits
      exact .instruction (arguments.wellFormed suits.2.2.1)
  | jump word openingBracket target closingBracket opening condition closing =>
      simp only [Statement.tokens, List.forall_mem_cons, List.forall_mem_append] at suits
      obtain ⟨spelling, same, identifier⟩ := suits.2.2.1.identifier target.kind_val
      rw [Statement.tree, same]
      exact .jump identifier (condition.wellFormed suits.2.2.2.2.2.1)

theorem Program.wellFormed (program : Program)
    (suits : ∀ token ∈ program.tokens, SuitsKind token.kind token.value) :
    ∀ statement ∈ program.trees, statement.WellFormedStatement := by
  have each : ∀ parts : List (Statement × List Separator),
      (∀ token ∈ Program.statementTokens parts, SuitsKind token.kind token.value) →
        ∀ part ∈ parts, part.1.tree.WellFormedStatement := by
    intro parts
    induction parts with
    | nil => exact fun _ part member => absurd member List.not_mem_nil
    | cons part later induction =>
        intro suits
        simp only [Program.statementTokens, List.forall_mem_append] at suits
        exact List.forall_mem_cons.mpr ⟨part.1.wellFormed suits.1, induction suits.2.2⟩
  intro statement member
  obtain ⟨part, among, rfl⟩ := List.mem_map.mp member
  rw [Program.tokens, List.forall_mem_append] at suits
  exact each program.statements suits.2 part among

end Grammar

/-- The statements that are read from a text are among those that can be written. -/
theorem ReadsAs.wellFormed {source : String} {tokens : List Token} {statements : List Node}
    (reads : ReadsAs source tokens statements) :
    ∀ statement ∈ statements, statement.WellFormedStatement := by
  obtain ⟨derivation, rfl⟩ := Grammar.derivation_of_parseWithin reads.parsed
  apply derivation.val.wellFormed
  rw [derivation.property]
  intro token member
  exact suitsKind_of_tokenize reads.tokenized token (List.takeWhile_sublist _ |>.subset member)

end PixelBrush
