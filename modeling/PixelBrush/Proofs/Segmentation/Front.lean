import PixelBrush.Proofs.Segmentation.Boundary
import PixelBrush.Proofs.Segmentation.Location

/-! # The front of a text

Reading goes through a text token by token.  What has been read so far is the front of
the text, made up of the tokens at their places.  It stays the same in front of any rest
that starts alike.  Behind the front of a text stands its end, or what no rule covers.
-/

namespace PixelBrush

open Segmentation

/-- The tokens of the front of a text, each at its place, up to the last one of them, with
the rest of the text behind. -/
inductive Front : Location → (text : List Char) → List Token → (rest : List Char) → Prop
  | nil {location : Location} {rest : List Char} : Front location [] [] rest
  | lexeme {location : Location} {gap text rest : List Char} {lexeme : Lexeme}
      {tokens : List Token} (between : Gap gap (lexeme.text ++ (text ++ rest)))
      (picked : Picked lexeme (text ++ rest)) (readable : lexeme.Readable)
      (later : Front ((location.after gap).after lexeme.text) text tokens rest) :
      Front location (gap ++ (lexeme.text ++ text))
        (lexeme.token (location.after gap) :: tokens) rest

/-- Whether no token can start with a character in front of some text. -/
structure Unreadable (character : Char) (later : List Char) : Prop where
  noBlank : Text.isBlank character = false
  noDigit : Text.isDigit character = false
  noLetter : Text.isLetter character = false
  noUnderscore : character ≠ '_'
  noQuote : character ≠ '"'
  short : Cursor.shortOperator? character = none
  long : ∀ next ∈ later.head?, Cursor.longOperator? character next = none

/-- A text of which nothing but some tokens can be read, and why. -/
inductive Breaks : Location → (text : List Char) → List Token → LexicalError → Prop
  | intro {location : Location} {text gap rest : List Char} {tokens : List Token}
      {error : Location → LexicalError} (front : Front location text tokens (gap ++ rest))
      (between : Gap gap rest) (stuck : Stuck rest error) :
      Breaks location (text ++ (gap ++ rest)) tokens (error ((location.after text).after gap))

variable {location : Location} {text gap rest other : List Char} {lexeme : Lexeme}
  {tokens others : List Token}

/-- A lexeme is behind its gap, and what follows is behind the lexeme. -/
theorem Location.after_lexeme (location : Location) (between : Gap gap (lexeme.text ++ rest))
    (picked : Picked lexeme rest) (behind : List Char) :
    location.after (gap ++ (lexeme.text ++ behind)) =
      ((location.after gap).after lexeme.text).after behind := by
  have wholeGap : Location.Whole gap (lexeme.text ++ behind) :=
    (between.of_lexeme picked.text_ne_nil behind).whole
  have wholeLexeme : Location.Whole lexeme.text behind :=
    Location.whole_of_getLast?_ne picked.getLast?_ne
  rw [Location.after_append_of_whole wholeGap, Location.after_append_of_whole wholeLexeme]

theorem Unreadable.stuck {character : Char} {later : List Char}
    (unreadable : Unreadable character later) :
    Stuck (character :: later) (.unrecognized character) := by
  refine .unrecognized unreadable.noBlank unreadable.noDigit ?_ unreadable.noQuote
    unreadable.short unreadable.long
  rw [Cursor.startsWord, unreadable.noLetter, beq_false_of_ne unreadable.noUnderscore,
    Bool.or_false]

/-- A text breaks off at a quote that is never closed or at an unreadable character. -/
theorem Breaks.exists_first {error : LexicalError} (breaks : Breaks location text tokens error) :
    ∃ front gap character later here, text = front ++ (gap ++ character :: later) ∧
      Front location front tokens (gap ++ character :: later) ∧ Gap gap (character :: later) ∧
      here = (location.after front).after gap ∧ error.location? = some here ∧
      ((error = .unterminatedString here ∧ character = '"' ∧ '"' ∉ later) ∨
        (error = .unrecognized character here ∧ Unreadable character later)) := by
  obtain ⟨front, between, stuck⟩ := breaks
  cases stuck with
  | openString unquoted =>
      exact ⟨_, _, '"', _, _, rfl, front, between, rfl, rfl, .inl ⟨rfl, rfl, unquoted⟩⟩
  | unrecognized visible noDigit noWord noQuote short long =>
      obtain ⟨noLetter, noUnderscore⟩ := Bool.or_eq_false_iff.mp noWord
      exact ⟨_, _, _, _, _, rfl, front, between, rfl, rfl, .inr ⟨rfl, visible, noDigit, noLetter,
        ne_of_beq_false noUnderscore, noQuote, short, long⟩⟩

/-- A lexeme in front of a text that breaks off is read before that. -/
theorem Breaks.behind_lexeme {error : LexicalError} (between : Gap gap (lexeme.text ++ rest))
    (picked : Picked lexeme rest) (readable : lexeme.Readable)
    (later : Breaks ((location.after gap).after lexeme.text) rest tokens error) :
    Breaks location (gap ++ (lexeme.text ++ rest)) (lexeme.token (location.after gap) :: tokens)
      error := by
  obtain ⟨front, last, stuck⟩ := later
  have whole := Breaks.intro (.lexeme between picked readable front) last stuck
  rw [Location.after_lexeme location between picked, List.append_assoc, List.append_assoc] at whole
  exact whole

namespace Front

theorem length_le (front : Front location text tokens rest) : tokens.length ≤ text.length := by
  induction front with
  | nil => exact Nat.le_refl 0
  | lexeme between picked readable later induction =>
      have taken := List.length_pos_iff.mpr picked.text_ne_nil
      simp only [List.length_append, List.length_cons]
      omega

theorem getLast?_ne (front : Front location text tokens rest) : text.getLast? ≠ some '\r' := by
  induction front with
  | nil => simp
  | @lexeme location gap text rest lexeme tokens between picked readable later induction =>
      rw [List.getLast?_append_of_ne_nil _ (by simp [picked.text_ne_nil])]
      cases text with
      | nil =>
          rw [List.append_nil]
          exact picked.getLast?_ne
      | cons first others =>
          rw [List.getLast?_append_of_ne_nil _ (List.cons_ne_nil first others)]
          exact induction

theorem after_behind (front : Front location text tokens rest) (behind : List Char) :
    location.after (text ++ behind) = (location.after text).after behind :=
  Location.after_append_of_whole (Location.whole_of_getLast?_ne front.getLast?_ne) location

theorem kind_ne_endOfInput (front : Front location text tokens rest) :
    ∀ token ∈ tokens, token.kind ≠ .endOfInput := by
  induction front with
  | nil => exact fun token member => absurd member List.not_mem_nil
  | lexeme between picked readable later induction =>
      exact List.forall_mem_cons.mpr ⟨picked.kind_ne_endOfInput, induction⟩

theorem tokens_eq_nil (front : Front location [] tokens rest) : tokens = [] := by
  generalize same : ([] : List Char) = text at front
  cases front with
  | nil => rfl
  | lexeme between picked readable later =>
      have none := (List.append_eq_nil_iff.mp same.symm).2
      exact absurd (List.append_eq_nil_iff.mp none).1 picked.text_ne_nil

/-- The front of a text stays as it is in front of another rest, if that starts alike or
with a character that bounds the last token. -/
theorem of_head? (front : Front location text tokens rest)
    (bounded : ∀ next ∈ other.head?, next ∈ rest.head? ∨
      ∀ token ∈ tokens.getLast?, bounds token.kind next = true) :
    Front location text tokens other := by
  induction front with
  | nil => exact .nil
  | @lexeme location gap text rest lexeme tokens between picked readable later induction =>
      refine .lexeme (between.of_lexeme picked.text_ne_nil _) (picked.of_head? ?_) readable
        (induction ?_)
      · intro next member
        cases text with
        | cons first others => exact .inl member
        | nil =>
            rw [later.tokens_eq_nil] at bounded
            exact (bounded next member).imp id fun bound => bound _ rfl
      · intro next member
        refine (bounded next member).imp id fun bound token last => bound token ?_
        rw [Option.mem_def, List.getLast?_cons, Option.mem_def.mp last, Option.getD_some]

/-- The front of a text stays as it is in front of the last gap and a character that bounds
its last token. -/
theorem of_bounds {next : Char} (front : Front location text tokens gap)
    (bound : ∀ token ∈ tokens.getLast?, bounds token.kind next = true) :
    Front location text tokens (gap ++ next :: other) := by
  refine front.of_head? fun first member => ?_
  cases gap with
  | nil =>
      obtain rfl := Option.some.inj member
      exact .inr bound
  | cons blank later => exact .inl member

/-- Tokens that are located behind the front complete it. -/
theorem located (front : Front location text tokens rest)
    (later : Located (location.after text) rest others) :
    Located location (text ++ rest) (tokens ++ others) := by
  induction front with
  | nil => exact later
  | @lexeme location gap text rest lexeme tokens between picked readable _ induction =>
      rw [Location.after_lexeme location between picked] at later
      rw [List.append_assoc, List.append_assoc]
      exact .lexeme between picked readable (induction later)

/-- The front of a text can be read by itself, with a gap behind it. -/
theorem located_gap (front : Front location text tokens (gap ++ rest)) (between : Gap gap rest) :
    Located location (text ++ gap)
      (tokens ++ [Lexeme.endOfInput.token (location.after (text ++ gap))]) := by
  have alone : Front location text tokens gap := front.of_head? fun next member => .inl (by
    rw [Option.mem_def, List.head?_append, Option.mem_def.mp member]
    rfl)
  rw [front.after_behind]
  exact alone.located (.finished (between.of_head? fun feed => by cases feed))

end Front

namespace Located

/-- A text can be divided in front of each of its tokens. -/
theorem exists_divided (located : Located location text (tokens ++ others)) (more : others ≠ []) :
    ∃ front rest, text = front ++ rest ∧ Front location front tokens rest ∧
      Located (location.after front) rest others := by
  generalize same : tokens ++ others = all at located
  induction located generalizing tokens with
  | @finished location gap between =>
      cases tokens with
      | nil =>
          obtain rfl : others = _ := same
          exact ⟨[], gap, rfl, .nil, .finished between⟩
      | cons first tokens =>
          exact absurd (List.append_eq_nil_iff.mp (List.cons.inj same).2).2 more
  | @lexeme location gap rest lexeme all between picked readable later induction =>
      cases tokens with
      | nil =>
          obtain rfl : others = _ := same
          exact ⟨[], _, rfl, .nil, .lexeme between picked readable later⟩
      | cons first tokens =>
          obtain ⟨rfl, sameLater⟩ := List.cons.inj same
          obtain ⟨text, rest, rfl, front, behind⟩ := induction sameLater
          refine ⟨gap ++ (lexeme.text ++ text), rest, by simp,
            .lexeme between picked readable front, ?_⟩
          rw [Location.after_lexeme location between picked]
          exact behind

/-- Behind the last token but the end of the input, there is only a gap left. -/
theorem exists_end (located : Located location text tokens) :
    ∃ front gap others, text = front ++ gap ∧ Front location front others gap ∧ Gap gap [] ∧
      tokens = others ++ [Lexeme.endOfInput.token (location.after text)] := by
  induction located with
  | @finished location gap between => exact ⟨[], gap, [], rfl, .nil, between, rfl⟩
  | @lexeme location gap rest lexeme tokens between picked readable later induction =>
      obtain ⟨text, final, others, rfl, front, last, rfl⟩ := induction
      refine ⟨gap ++ (lexeme.text ++ text), final, lexeme.token (location.after gap) :: others,
        by simp, .lexeme between picked readable front, last, ?_⟩
      rw [Location.after_lexeme location between picked]
      rfl

/-- Tokens stay where they are when the gap in front of them is taken for part of the text. -/
theorem behind_gap (located : Located (location.after gap) text tokens)
    (between : Gap gap text) : Located location (gap ++ text) tokens := by
  cases located with
  | finished behind =>
      rw [← Location.after_append_of_whole between.whole]
      exact .finished (Gap.append (by rwa [List.append_nil]) behind)
  | @lexeme _ later rest lexeme tokens behind picked readable others =>
      have whole : Location.Whole gap later := between.whole.of_append
      rw [← Location.after_append_of_whole whole] at others ⊢
      rw [← List.append_assoc]
      exact .lexeme (Gap.append between behind) picked readable others

end Located

namespace Cursor

/-- From a cursor, some tokens before the end of the input are read one after the other,
up to another cursor. -/
inductive Yields : Cursor → List Token → Cursor → Prop
  | nil {cursor : Cursor} : Yields cursor [] cursor
  | cons {cursor middle reached : Cursor} {token : Token} {tokens : List Token}
      (read : cursor.next = (.ok token, middle)) (more : token.kind ≠ .endOfInput)
      (later : Yields middle tokens reached) : Yields cursor (token :: tokens) reached

variable {cursor reached : Cursor} {error : LexicalError}

theorem next_of_readable (between : Gap gap (lexeme.text ++ rest)) (picked : Picked lexeme rest)
    (readable : lexeme.Readable) (ahead : cursor.ahead = gap ++ (lexeme.text ++ rest)) :
    cursor.next =
      (.ok (lexeme.token (cursor.location.after gap)), (cursor.pass gap).pass lexeme.text) := by
  rw [next_of_picked between picked ahead, reading, if_pos readable]
  rfl

/-- The tokens of the front of a text are read one after the other. -/
theorem exists_yields (front : Front location text tokens rest) (here : cursor.location = location)
    (ahead : cursor.ahead = text ++ rest) :
    ∃ reached, cursor.Yields tokens reached ∧ reached.location = location.after text ∧
      reached.ahead = rest := by
  induction front generalizing cursor with
  | nil => exact ⟨cursor, .nil, here, ahead⟩
  | @lexeme location gap text rest lexeme tokens between picked readable later induction =>
      subst here
      rw [List.append_assoc, List.append_assoc] at ahead
      obtain ⟨reached, yields, place, left⟩ := induction rfl (ahead_pass_pass ahead)
      refine ⟨reached, .cons (next_of_readable between picked readable ahead)
        picked.kind_ne_endOfInput yields, ?_, left⟩
      rw [place, Location.after_lexeme _ between picked]

theorem tokensWithin_of_yields (yields : cursor.Yields tokens reached) (count : Nat) :
    (tokensWithin (tokens.length + count) cursor).1 =
      (tokensWithin count reached).1.map (tokens ++ ·) := by
  induction yields with
  | @nil cursor =>
      rw [List.length_nil, Nat.zero_add]
      cases (tokensWithin count cursor).1 <;> rfl
  | cons read more later induction =>
      rw [List.length_cons, Nat.add_right_comm, tokensWithin_of_token read more, induction]
      cases (tokensWithin count _).1 <;> rfl

/-- Where a text breaks off, reading fails behind the tokens in front. -/
theorem exists_yields_of_breaks (breaks : Breaks location text tokens error)
    (here : cursor.location = location) (ahead : cursor.ahead = text) :
    ∃ reached, cursor.Yields tokens reached ∧ reached.next.1 = .error error := by
  obtain ⟨front, between, stuck⟩ := breaks
  obtain ⟨reached, yields, place, left⟩ := exists_yields front here ahead
  have failed := next_of_stuck between stuck left
  rw [pass, place] at failed
  exact ⟨reached, yields, failed⟩

theorem tokensWithin_of_breaks {count : Nat} (breaks : Breaks location text tokens error)
    (here : cursor.location = location) (ahead : cursor.ahead = text)
    (enough : tokens.length < count) : (tokensWithin count cursor).1 = .error error := by
  obtain ⟨reached, yields, failed⟩ := exists_yields_of_breaks breaks here ahead
  obtain ⟨more, rfl⟩ : ∃ more, count = tokens.length + (more + 1) :=
    ⟨count - tokens.length - 1, by omega⟩
  rw [tokensWithin_of_yields yields, tokensWithin_of_error failed]
  rfl

/-- What cannot be read breaks off behind some tokens, or a number has too many digits. -/
theorem breaks_of_tokensWithin {count : Nat}
    (failed : (tokensWithin count cursor).1 = .error error) :
    (∃ tokens, Breaks cursor.location cursor.ahead tokens error) ∨
      ∃ digits, error = .tooManyDigits digits ∧ Text.digitLimit < digits := by
  induction count generalizing cursor with
  | zero => cases failed
  | succ count induction =>
      obtain finished | ⟨gap, lexeme, rest, ahead, between, picked⟩ |
        ⟨gap, rest, blamed, ahead, between, stuck⟩ := start_cases cursor.ahead
      · rw [tokensWithin_of_endOfInput (next_of_gap finished) rfl] at failed
        cases failed
      · by_cases readable : lexeme.Readable
        · have next := next_of_readable between picked readable ahead
          rw [tokensWithin_of_token next picked.kind_ne_endOfInput] at failed
          cases later : (tokensWithin count ((cursor.pass gap).pass lexeme.text)).1 with
          | ok tokens =>
              rw [later] at failed
              cases failed
          | error blamed =>
              rw [later] at failed
              obtain rfl := Except.error.inj failed
              refine (induction later).imp_left fun ⟨tokens, breaks⟩ => ?_
              rw [ahead_pass_pass ahead] at breaks
              rw [ahead]
              exact ⟨_, breaks.behind_lexeme between picked readable⟩
        · have next := next_of_picked between picked ahead
          rw [reading, if_neg readable] at next
          rw [tokensWithin_of_error (by rw [next])] at failed
          obtain rfl := Except.error.inj failed
          have long : lexeme.kind = .number ∧ Text.digitLimit < lexeme.text.length := by
            simpa [Lexeme.Readable] using readable
          exact .inr ⟨lexeme.text.length, rfl, long.2⟩
      · rw [tokensWithin_of_error (next_of_stuck between stuck ahead)] at failed
        obtain rfl := Except.error.inj failed
        rw [ahead]
        exact .inl ⟨[], .intro .nil between stuck⟩

end Cursor

/-- A text with an error that has a place breaks off there. -/
theorem breaks_of_tokenize {source : String} {error : LexicalError} {place : Location}
    (failed : tokenize source = .error error) (located : error.location? = some place) :
    ∃ tokens, Breaks .start source.toList tokens error := by
  obtain broken | ⟨digits, rfl, -⟩ := Cursor.breaks_of_tokensWithin failed
  · exact broken
  · cases located

end PixelBrush
