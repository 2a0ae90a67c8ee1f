import PixelBrush.Proofs.Segmentation.Correctness
import PixelBrush.Text.LineBreak

/-! # Where the lexemes of a text stand

The lexemes and gaps of a text follow each other without anything in between, so
where each token stands is a matter of what is before it.  A text is read as some
tokens exactly if these are its lexemes at their places.
-/

namespace PixelBrush

open Segmentation

namespace Text

/-- The number of line breaks in a text, where a carriage return with a line feed
behind it makes up a single one. -/
def lineBreaks (text : List Char) : Nat :=
  (unifyLineBreaks text).count '\n'

theorem lineBreaks_return_feed (later : List Char) :
    lineBreaks ('\r' :: '\n' :: later) = lineBreaks later + 1 :=
  List.count_cons_self

/-- What one character counts that is no half of a line break of two. -/
theorem lineBreaks_cons {character : Char} {later : List Char}
    (alone : ∀ others, character = '\r' → later = '\n' :: others → False) :
    lineBreaks (character :: later) =
      lineBreaks later + if character = '\n' ∨ character = '\r' then 1 else 0 := by
  unfold lineBreaks
  by_cases isReturn : character = '\r'
  · subst isReturn
    rw [unifyLineBreaks, List.count_cons_self]
    · simp
    · exact fun others => alone others rfl
  · rw [unifyLineBreaks]
    · simp [List.count_cons, isReturn]
    · exact alone
    · exact isReturn

end Text

namespace Location

/-- A number of lines further down, in the same column. -/
def down (lines : Nat) (location : Location) : Location :=
  { location with line := location.line + lines }

theorem after_down (lines : Nat) (location : Location) (text : List Char) :
    (location.down lines).after text = (location.after text).down lines := by
  have nextLine (location : Location) :
      (location.down lines).nextLine = location.nextLine.down lines := by
    simp [down, Location.nextLine, Int.add_right_comm]
  fun_induction after location text with
  | case1 location => rfl
  | case2 location later induction => rw [after, nextLine, induction]
  | case3 location character later alone ends induction =>
      rw [after, if_pos ends, nextLine, induction]
      exact alone
  | case4 location character later alone stays induction =>
      rw [after, if_neg stays, ← induction]
      · rfl
      · exact alone

/-- Every line break, and nothing else, leads to the next line. -/
theorem line_after (location : Location) (text : List Char) :
    (location.after text).line = location.line + Text.lineBreaks text := by
  fun_induction after location text with
  | case1 location => simp [Text.lineBreaks, Text.unifyLineBreaks]
  | case2 location later induction =>
      rw [induction, Text.lineBreaks_return_feed]
      simp [nextLine]
      omega
  | case3 location character later alone ends induction =>
      rw [induction, Text.lineBreaks_cons alone, if_pos ends]
      simp [nextLine]
      omega
  | case4 location character later alone stays induction =>
      rw [induction, Text.lineBreaks_cons alone, if_neg stays]
      rfl

end Location

variable {location : Location} {text : List Char} {tokens : List Token}

/-- The tokens of a text that starts at a location, each at its place. -/
inductive Located : Location → (text : List Char) → List Token → Prop
  | finished {location : Location} {gap : List Char} (between : Gap gap []) :
      Located location gap [Lexeme.endOfInput.token (location.after gap)]
  | lexeme {location : Location} {gap rest : List Char} {lexeme : Lexeme} {tokens : List Token}
      (between : Gap gap (lexeme.text ++ rest)) (picked : Picked lexeme rest)
      (readable : lexeme.Readable)
      (later : Located ((location.after gap).after lexeme.text) rest tokens) :
      Located location (gap ++ (lexeme.text ++ rest))
        (lexeme.token (location.after gap) :: tokens)

namespace Cursor

variable {cursor : Cursor} {count : Nat}

/-- Tokens at their places are read. -/
theorem tokensWithin_of_located (located : Located location text tokens)
    (here : cursor.location = location) (ahead : cursor.ahead = text)
    (enough : text.length < count) : (tokensWithin count cursor).1 = .ok tokens := by
  induction located generalizing cursor count with
  | @finished location gap between =>
      cases count with
      | zero => exact absurd enough (Nat.not_lt_zero _)
      | succ count =>
          rw [← ahead] at between
          rw [tokensWithin_of_endOfInput (next_of_gap between) rfl, pass, ahead, here]
  | @lexeme location gap rest lexeme tokens between picked readable later induction =>
      cases count with
      | zero => exact absurd enough (Nat.not_lt_zero _)
      | succ count =>
          have next := next_of_picked between picked ahead
          rw [reading, if_pos readable] at next
          have shorter : rest.length < count := picked.length_lt rfl enough
          rw [tokensWithin_of_token next picked.kind_ne_endOfInput,
            induction (by rw [pass, pass, here]) (ahead_pass_pass ahead) shorter, pass, here]
          rfl

/-- Tokens that are read are at their places. -/
theorem located_of_tokensWithin (read : (tokensWithin count cursor).1 = .ok tokens)
    (enough : cursor.ahead.length < count) : Located cursor.location cursor.ahead tokens := by
  induction count generalizing cursor tokens with
  | zero => exact absurd enough (Nat.not_lt_zero _)
  | succ count induction =>
      obtain finished | ⟨gap, lexeme, rest, ahead, between, picked⟩ |
        ⟨gap, rest, error, ahead, between, stuck⟩ := start_cases cursor.ahead
      · rw [tokensWithin_of_endOfInput (next_of_gap finished) rfl] at read
        obtain rfl := Except.ok.inj read
        exact .finished finished
      · have next := next_of_picked between picked ahead
        by_cases readable : lexeme.Readable
        · rw [reading, if_pos readable] at next
          rw [tokensWithin_of_token next picked.kind_ne_endOfInput] at read
          cases later : (tokensWithin count ((cursor.pass gap).pass lexeme.text)).1 with
          | error error =>
              rw [later] at read
              cases read
          | ok others =>
              rw [later] at read
              obtain rfl := Except.ok.inj read
              have arrived := ahead_pass_pass ahead
              have located := induction later (by
                rw [arrived]
                exact picked.length_lt ahead enough)
              rw [arrived] at located
              rw [ahead]
              exact .lexeme between picked readable located
        · rw [reading, if_neg readable] at next
          rw [tokensWithin_of_error (by rw [next])] at read
          cases read
      · rw [tokensWithin_of_error (next_of_stuck between stuck ahead)] at read
        cases read

end Cursor

/-- A text is read as its lexemes at their places, and in no other way. -/
theorem tokenize_eq_ok_iff {source : String} :
    tokenize source = .ok tokens ↔ Located .start source.toList tokens :=
  ⟨fun read => Cursor.located_of_tokensWithin read (Nat.lt_succ_self _),
    fun located => Cursor.tokensWithin_of_located located rfl rfl (Nat.lt_succ_self _)⟩

/-- A token with its location a number of lines further down. -/
def Token.down (lines : Nat) (token : Token) : Token :=
  { token with location := token.location.down lines }

/-- A text that starts further down has the same tokens further down. -/
theorem Located.down (located : Located location text tokens) (lines : Nat) :
    Located (location.down lines) text (tokens.map (Token.down lines)) := by
  induction located with
  | @finished location gap between =>
      have finished : Located (location.down lines) gap _ := .finished between
      rw [Location.after_down] at finished
      exact finished
  | @lexeme location gap rest lexeme tokens between picked readable later induction =>
      rw [← Location.after_down, ← Location.after_down] at induction
      have whole := Located.lexeme between picked readable induction
      rw [Location.after_down] at whole
      exact whole

end PixelBrush
