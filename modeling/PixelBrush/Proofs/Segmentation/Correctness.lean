import PixelBrush.Proofs.Lexer

/-! # The tokens of a text are its lexemes

Reading a text to its end gives the lexemes of its segmentation, one after the
other, and the end of the input behind them.  Only a number with too many
digits keeps a text from being read that is divided into lexemes.
-/

namespace PixelBrush

open Segmentation

namespace Segmentation

variable {lexeme : Lexeme} {lexemes found : List Lexeme} {text rest : List Char}

theorem Picked.text_ne_nil (picked : Picked lexeme rest) : lexeme.text ≠ [] := by
  obtain rfl | ⟨first, later, starts, -⟩ := Cursor.exists_visible_of_picked picked
  · exact List.cons_ne_nil '\n' []
  · rw [starts]
    exact List.cons_ne_nil first later

/-- Behind a lexeme, less of the text is left. -/
theorem Picked.length_lt {gap : List Char} {count : Nat} (picked : Picked lexeme rest)
    (same : text = gap ++ (lexeme.text ++ rest)) (enough : text.length < count + 1) :
    rest.length < count := by
  have taken := List.length_pos_iff.mpr picked.text_ne_nil
  rw [same, List.length_append, List.length_append] at enough
  omega

theorem Picked.kind_ne_endOfInput (picked : Picked lexeme rest) :
    lexeme.kind ≠ .endOfInput := by
  cases picked with
  | keyword word known => exact (Cursor.kind_of_keyword? known).2.1
  | longOperator known => exact (Cursor.kind_of_longOperator? known).2.1
  | shortOperator known _ _ => exact (Cursor.kind_of_shortOperator? known).2.1
  | _ => exact TokenKind.noConfusion

theorem kind_ne_endOfInput (segmentation : Segmentation text lexemes) :
    ∀ lexeme ∈ lexemes, lexeme.kind ≠ .endOfInput := by
  induction segmentation with
  | finished between => simp
  | lexeme between picked later induction =>
      exact List.forall_mem_cons.mpr ⟨picked.kind_ne_endOfInput, induction⟩

/-- What reading some lexemes and the end of the input comes to. -/
def outcome : List Lexeme → Except LexicalError (List Lexeme)
  | [] => .ok [.endOfInput]
  | lexeme :: lexemes =>
      if lexeme.Readable then (outcome lexemes).map (lexeme :: ·)
      else .error (.tooManyDigits lexeme.text.length)

theorem outcome_eq_ok_iff :
    outcome lexemes = .ok found ↔
      (∀ lexeme ∈ lexemes, lexeme.Readable) ∧ found = lexemes ++ [.endOfInput] := by
  induction lexemes generalizing found with
  | nil => simp [outcome, eq_comm]
  | cons lexeme lexemes induction =>
      by_cases readable : lexeme.Readable
      · rw [outcome, if_pos readable, List.forall_mem_cons, List.cons_append]
        constructor
        · intro read
          cases later : outcome lexemes with
          | error error =>
              rw [later] at read
              cases read
          | ok others =>
              rw [later] at read
              obtain ⟨allReadable, same⟩ := induction.mp later
              exact ⟨⟨readable, allReadable⟩, by rw [← Except.ok.inj read, same]⟩
        · rintro ⟨⟨-, allReadable⟩, rfl⟩
          rw [induction.mpr ⟨allReadable, rfl⟩]
          rfl
      · rw [outcome, if_neg readable]
        constructor
        · intro read
          cases read
        · intro all
          exact absurd (all.1 lexeme List.mem_cons_self) readable

end Segmentation

namespace Cursor

variable {cursor reached : Cursor} {token : Token} {count : Nat}

theorem ahead_pass_pass {gap text rest : List Char} (ahead : cursor.ahead = gap ++ (text ++ rest)) :
    ((cursor.pass gap).pass text).ahead = rest := by
  simp [pass, ahead]

theorem tokensWithin_of_error {error : LexicalError} (read : cursor.next.1 = .error error) :
    (tokensWithin (count + 1) cursor).1 = .error error := by
  obtain ⟨reached, next⟩ : ∃ reached, cursor.next = (.error error, reached) :=
    ⟨cursor.next.2, by rw [← read]⟩
  rw [tokensWithin, next]

theorem tokensWithin_of_endOfInput (read : cursor.next = (.ok token, reached))
    (last : token.kind = .endOfInput) :
    (tokensWithin (count + 1) cursor).1 = .ok [token] := by
  rw [tokensWithin, read]
  dsimp only
  rw [if_pos last]

theorem tokensWithin_of_token (read : cursor.next = (.ok token, reached))
    (more : token.kind ≠ .endOfInput) :
    (tokensWithin (count + 1) cursor).1 = (tokensWithin count reached).1.map (token :: ·) := by
  rw [tokensWithin, read]
  dsimp only
  rw [if_neg more]
  obtain ⟨later, final⟩ := tokensWithin count reached
  cases later <;> rfl

/-- A text that is divided into lexemes is read as these lexemes. -/
theorem tokensWithin_of_segmentation {text : List Char} {lexemes : List Lexeme}
    (segmentation : Segmentation text lexemes) (ahead : cursor.ahead = text)
    (enough : text.length < count) :
    (tokensWithin count cursor).1.map (·.map Token.lexeme) = outcome lexemes := by
  -- What is left of the text stays below the count, since every lexeme takes some of it.
  induction segmentation generalizing cursor count with
  | finished between =>
      cases count with
      | zero => exact absurd enough (Nat.not_lt_zero _)
      | succ count =>
          rw [← ahead] at between
          rw [tokensWithin_of_endOfInput (next_of_gap between) rfl]
          rfl
  | @lexeme gap rest lexeme lexemes between picked later induction =>
      cases count with
      | zero => exact absurd enough (Nat.not_lt_zero _)
      | succ count =>
          have next := next_of_picked between picked ahead
          by_cases readable : lexeme.Readable
          · have arrived := ahead_pass_pass ahead
            have shorter : rest.length < count := picked.length_lt rfl enough
            rw [reading, if_pos readable] at next
            rw [tokensWithin_of_token next picked.kind_ne_endOfInput, outcome, if_pos readable,
              ← induction arrived shorter]
            cases (tokensWithin count ((cursor.pass gap).pass lexeme.text)).1 with
            | error error => rfl
            | ok tokens => simp [Except.map]
          · rw [reading, if_neg readable] at next
            rw [tokensWithin_of_error (by rw [next]), outcome, if_neg readable]
            rfl

/-- A text that can be read is divided into lexemes. -/
theorem exists_segmentation {tokens : List Token}
    (read : (tokensWithin count cursor).1 = .ok tokens) (enough : cursor.ahead.length < count) :
    ∃ lexemes, Segmentation cursor.ahead lexemes := by
  induction count generalizing cursor tokens with
  | zero => exact absurd enough (Nat.not_lt_zero _)
  | succ count induction =>
      obtain finished | ⟨gap, lexeme, rest, ahead, between, picked⟩ |
        ⟨gap, rest, error, ahead, between, stuck⟩ := start_cases cursor.ahead
      · exact ⟨[], .finished finished⟩
      · have next := next_of_picked between picked ahead
        by_cases readable : lexeme.Readable
        · rw [reading, if_pos readable] at next
          rw [tokensWithin_of_token next picked.kind_ne_endOfInput] at read
          cases later : (tokensWithin count ((cursor.pass gap).pass lexeme.text)).1 with
          | error error =>
              rw [later] at read
              cases read
          | ok others =>
              have arrived := ahead_pass_pass ahead
              have shorter : rest.length < count := picked.length_lt ahead enough
              rw [← arrived] at shorter
              obtain ⟨lexemes, segmentation⟩ := induction later shorter
              rw [arrived] at segmentation
              rw [ahead]
              exact ⟨lexeme :: lexemes, .lexeme between picked segmentation⟩
        · rw [reading, if_neg readable] at next
          rw [tokensWithin_of_error (by rw [next])] at read
          cases read
      · rw [tokensWithin_of_error (next_of_stuck between stuck ahead)] at read
        cases read

end Cursor

theorem tokenize_of_segmentation {source : String} {lexemes : List Lexeme}
    (segmentation : Segmentation source.toList lexemes) :
    (tokenize source).map (·.map Token.lexeme) = outcome lexemes :=
  Cursor.tokensWithin_of_segmentation segmentation rfl (Nat.lt_succ_self _)

/-- A text is read if it is divided into lexemes without too many digits. -/
theorem exists_tokens {source : String} {lexemes : List Lexeme}
    (segmentation : Segmentation source.toList lexemes)
    (readable : ∀ lexeme ∈ lexemes, lexeme.Readable) :
    ∃ tokens, tokenize source = .ok tokens ∧
      tokens.map Token.lexeme = lexemes ++ [.endOfInput] := by
  have same := tokenize_of_segmentation segmentation
  rw [outcome_eq_ok_iff.mpr ⟨readable, rfl⟩] at same
  cases read : tokenize source with
  | error error =>
      rw [read] at same
      cases same
  | ok tokens =>
      rw [read] at same
      exact ⟨tokens, rfl, Except.ok.inj same⟩

/-- Texts are read exactly as they are divided into lexemes, each as long as its
rule allows, unless a number has too many digits to be read.  The end of the
input comes once, behind all lexemes. -/
theorem tokenize_iff_segmentation (source : String) (found : List Lexeme) :
    (∃ tokens, tokenize source = .ok tokens ∧ tokens.map Token.lexeme = found) ↔
      ∃ lexemes, Segmentation source.toList lexemes ∧ (∀ lexeme ∈ lexemes, lexeme.Readable) ∧
        (∀ lexeme ∈ lexemes, lexeme.kind ≠ .endOfInput) ∧ found = lexemes ++ [.endOfInput] := by
  constructor
  · rintro ⟨tokens, read, rfl⟩
    obtain ⟨lexemes, segmentation⟩ := Cursor.exists_segmentation read (Nat.lt_succ_self _)
    have same := tokenize_of_segmentation segmentation
    rw [read] at same
    obtain ⟨readable, same⟩ := outcome_eq_ok_iff.mp same.symm
    exact ⟨lexemes, segmentation, readable, kind_ne_endOfInput segmentation, same⟩
  · rintro ⟨lexemes, segmentation, readable, -, rfl⟩
    exact exists_tokens segmentation readable

/-- A text of digits is one lexeme. -/
theorem segmentation_of_digits {digits : List Char} (nonempty : digits ≠ [])
    (all : ∀ character ∈ digits, Text.isDigit character = true) :
    Segmentation digits [⟨.number, digits, some (.number (decimalValue digits))⟩] := by
  have run : LongestRun Text.isDigit digits [] := ⟨all, fun _ next => absurd next (by simp)⟩
  have segmentation := Segmentation.lexeme .nil (.number nonempty run) (.finished .nil)
  simpa using segmentation

theorem decimalValue_zeros (count : Nat) : decimalValue (List.replicate count '0') = 0 := by
  have digit : (Text.digitValue? '0').getD 0 = 0 := by decide
  rw [decimalValue, List.reverse_replicate, List.map_replicate, digit]
  induction count with
  | zero => rfl
  | succ count induction => rw [List.replicate_succ, Nat.ofDigits_cons, induction]

/-- Zeros are one lexeme however many there are, but are not read beyond the limit. -/
theorem zeros_of_digitLimit_lt {count : Nat} (long : Text.digitLimit < count) :
    Segmentation (String.ofList (List.replicate count '0')).toList
        [⟨.number, List.replicate count '0', some (.number 0)⟩] ∧
      tokenize (String.ofList (List.replicate count '0')) = .error (.tooManyDigits count) := by
  have nonempty : List.replicate count '0' ≠ [] := by
    intro none
    rw [List.replicate_eq_nil_iff] at none
    omega
  have digits : ∀ character ∈ List.replicate count '0', Text.isDigit character = true := by
    intro character member
    rw [List.eq_of_mem_replicate member]
    decide
  have divided : Segmentation (String.ofList (List.replicate count '0')).toList
      [⟨.number, List.replicate count '0', some (.number 0)⟩] := by
    have segmentation := segmentation_of_digits nonempty digits
    rw [decimalValue_zeros] at segmentation
    rw [String.toList_ofList]
    exact segmentation
  refine ⟨divided, ?_⟩
  have unreadable :
      ¬ Lexeme.Readable ⟨.number, List.replicate count '0', some (.number 0)⟩ := by
    intro readable
    have within := readable rfl
    rw [List.length_replicate] at within
    omega
  have refused := tokenize_of_segmentation divided
  rw [outcome, if_neg unreadable, List.length_replicate] at refused
  cases read : tokenize (String.ofList (List.replicate count '0')) with
  | error error =>
      rw [read] at refused
      rw [Except.error.inj refused]
  | ok tokens =>
      rw [read] at refused
      cases refused

/-- One zero too many is a lexeme like fewer of them, but cannot be read. -/
theorem zeros_divided_but_not_read :
    Segmentation (String.ofList (List.replicate 4301 '0')).toList
        [⟨.number, List.replicate 4301 '0', some (.number 0)⟩] ∧
      tokenize (String.ofList (List.replicate 4301 '0')) = .error (.tooManyDigits 4301) :=
  zeros_of_digitLimit_lt (Nat.lt_succ_self 4300)

end PixelBrush
