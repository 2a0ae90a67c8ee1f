import PixelBrush.Proofs.Segmentation.Offset

/-! # Reading fails where nothing can be read

A text that cannot be read has a first character at which no token starts.  Up to there it
can be read by itself.  What stands more than one character behind it makes no difference,
and no text that can be read makes such a character readable behind it.
-/

namespace PixelBrush

open Segmentation

variable {location : Location} {text gap later other : List Char} {character : Char}
  {tokens : List Token} {error : LexicalError}

/-- Besides the character itself, only the next one tells whether a token starts there. -/
theorem Unreadable.of_head? (unreadable : Unreadable character later)
    (alike : ∀ next ∈ other.head?, next ∈ later.head?) : Unreadable character other :=
  { unreadable with long := fun next member => unreadable.long next (alike next member) }

theorem Breaks.length_le (breaks : Breaks location text tokens error) :
    tokens.length ≤ text.length := by
  obtain ⟨front, between, stuck⟩ := breaks
  have taken := front.length_le
  rw [List.length_append]
  omega

/-- Reading a text that breaks off fails. -/
theorem Breaks.tokenize_eq (breaks : Breaks .start text tokens error) :
    tokenize (String.ofList text) = .error error := by
  have enough : tokens.length < (Cursor.start text).ahead.length + 1 :=
    Nat.lt_succ_of_le breaks.length_le
  rw [tokenize, String.toList_ofList]
  exact Cursor.tokensWithin_of_breaks breaks rfl rfl enough

/-- Reading fails at an unreadable character behind the front of a text and a gap, no matter
what follows it. -/
theorem Front.breaks_of_unreadable (front : Front location text tokens (gap ++ character :: later))
    (between : Gap gap (character :: later)) (unreadable : Unreadable character other) :
    Breaks location (text ++ (gap ++ character :: other)) tokens
      (.unrecognized character ((location.after text).after gap)) := by
  have sameHead : (gap ++ character :: other).head? = (gap ++ character :: later).head? := by
    cases gap <;> rfl
  have before : Front location text tokens (gap ++ character :: other) :=
    front.of_head? fun next member => .inl (sameHead ▸ member)
  exact .intro before (between.of_head? id) unreadable.stuck

/-- A text that can be read does not change in front of a blank, unless it ends with a comment. -/
theorem Located.exists_front_blank (located : Located location text tokens)
    (noComment : ∀ token ∈ tokens.dropLast.getLast?, token.kind ≠ .comment) :
    ∃ front gap, text = front ++ gap ∧
      ∀ rest, Front location front tokens.dropLast ((gap ++ [' ']) ++ rest) ∧
        Gap (gap ++ [' ']) rest := by
  obtain ⟨front, gap, others, rfl, before, between, rfl⟩ := located.exists_end
  rw [List.dropLast_concat] at noComment ⊢
  refine ⟨front, gap, rfl, fun rest => ⟨?_, ?_⟩⟩
  · rw [List.append_assoc]
    refine before.of_bounds fun token last => ?_
    rw [bounds_of_ne (noComment token last)]
    rfl
  · have behind : Gap [' '] rest := .blank rfl rfl .nil
    exact Gap.append (between.of_head? fun feed => by cases feed) behind

/-- Reading fails at the first place where nothing can be read, and only there.  Up to that
place the text can be read by itself, and gives the tokens that were read in front of it.
There stands a quote that is never closed, or a character with which no token starts; then
reading fails alike whatever stands behind the next character.  Conversely, reading fails at
each such character behind a text that can be read and a space. -/
theorem fails_at_first_unreadable (source : String) :
    (∀ error location, tokenize source = .error error → error.location? = some location →
      ∃ (before later : List Char) (character : Char) (tokens : List Token) (reached : Cursor),
        source.toList = before ++ character :: later ∧
        (Cursor.start source.toList).Yields tokens reached ∧ reached.next.1 = .error error ∧
        tokenize (String.ofList before) = .ok (tokens ++ [⟨.endOfInput, "", none, location⟩]) ∧
        location = .ofOffset source.toList before.length ∧
        ((error = .unterminatedString location ∧ error.message = "Unterminated string literal" ∧
            character = '"' ∧ '"' ∉ later) ∨
          (error = .unrecognized character location ∧
            error.message = "Unrecognized character: '" ++ character.toString ++ "'" ∧
            Unreadable character later ∧
            ∀ next others, later = next :: others → ∀ more,
              tokenize (String.ofList (before ++ character :: next :: more)) = .error error))) ∧
    ∀ (tokens : List Token) (rest : String) (character : Char) (later : List Char),
      tokenize source = .ok tokens →
      (∀ token ∈ tokens.dropLast.getLast?, token.kind ≠ .comment) →
      rest.toList = character :: later → Unreadable character later →
        tokenize (source ++ " " ++ rest) = .error (.unrecognized character
          (.ofOffset (source ++ " " ++ rest).toList (source.toList.length + 1))) := by
  constructor
  · intro error location failed place
    obtain ⟨tokens, breaks⟩ := breaks_of_tokenize failed place
    obtain ⟨reached, yields, stops⟩ : ∃ reached,
        (Cursor.start source.toList).Yields tokens reached ∧
        reached.next.1 = .error error := Cursor.exists_yields_of_breaks breaks rfl rfl
    obtain ⟨text, gap, character, later, here, whole, front, between, rfl, found, why⟩ :=
      breaks.exists_first
    obtain rfl := Option.some.inj (found.symm.trans place)
    refine ⟨text ++ gap, later, character, tokens, reached, by rw [whole, List.append_assoc],
      yields, stops, front.tokenize_eq between, ?_, ?_⟩
    · rw [whole]
      exact front.after_gap between
    · obtain ⟨rfl, quote, unquoted⟩ | ⟨rfl, unreadable⟩ := why
      · exact .inl ⟨rfl, rfl, quote, unquoted⟩
      · refine .inr ⟨rfl, rfl, unreadable, ?_⟩
        rintro next others rfl more
        have alike : Unreadable character (next :: more) := unreadable.of_head? fun _ => id
        rw [List.append_assoc]
        exact (front.breaks_of_unreadable between alike).tokenize_eq
  · intro tokens rest character later read noComment starts unreadable
    obtain ⟨text, gap, split, behind⟩ :=
      (tokenize_eq_ok_iff.mp read).exists_front_blank noComment
    obtain ⟨front, between⟩ := behind (character :: later)
    have whole : (source ++ " " ++ rest).toList =
        text ++ ((gap ++ [' ']) ++ character :: later) := by
      rw [String.toList_append, String.toList_append, split, starts]
      simp
    have failed := (front.breaks_of_unreadable between unreadable).tokenize_eq
    rw [front.after_gap between, ← whole, String.ofList_toList] at failed
    rw [failed, split]
    simp [Nat.add_assoc]

/-- The tokens of `x <- 2`. -/
def assignedTokens : List Token :=
  [⟨.identifier, "x", some (.string "x"), ⟨1, 1⟩⟩, ⟨.arrow, "<-", none, ⟨1, 3⟩⟩,
    ⟨.number, "2", some (.number 2), ⟨1, 6⟩⟩, ⟨.endOfInput, "", none, ⟨1, 7⟩⟩]

theorem unreadable_equal : Unreadable '=' ['y'] where
  noBlank := by decide
  noDigit := by decide
  noLetter := by decide +kernel
  noUnderscore := by decide
  noQuote := by decide
  short := rfl
  long := by simp [Cursor.longOperator?]

/-- A single equals sign is where reading fails, whatever stands behind the next character. -/
theorem fails_at_equal :
    tokenize "x <- 2" = .ok assignedTokens ∧
      (∀ token ∈ assignedTokens.dropLast.getLast?, token.kind ≠ .comment) ∧
      Unreadable '=' ['y'] ∧
      tokenize ("x <- 2" ++ " " ++ "=y") = .error (.unrecognized '=' ⟨1, 8⟩) ∧
      ∃ before later, ("x <- 2" ++ " " ++ "=y").toList = before ++ '=' :: later ∧
        ∀ next others, later = next :: others → ∀ more,
          tokenize (String.ofList (before ++ '=' :: next :: more)) =
            .error (.unrecognized '=' ⟨1, 8⟩) := by
  have read : tokenize "x <- 2" = .ok assignedTokens := by decide +kernel
  have noComment : ∀ token ∈ assignedTokens.dropLast.getLast?, token.kind ≠ .comment := by
    decide
  have place : Location.ofOffset ("x <- 2" ++ " " ++ "=y").toList ("x <- 2".toList.length + 1) =
      ⟨1, 8⟩ := by decide
  have failed := (fails_at_first_unreadable "x <- 2").2 _ "=y" _ _ read noComment rfl
    unreadable_equal
  rw [place] at failed
  obtain ⟨before, later, character, -, -, whole, -, -, -, -, why⟩ :=
    (fails_at_first_unreadable ("x <- 2" ++ " " ++ "=y")).1 _ _ failed rfl
  obtain ⟨other, -⟩ | ⟨same, -, -, alike⟩ := why
  · cases other
  · obtain rfl := (LexicalError.unrecognized.inj same).1
    exact ⟨read, noComment, unreadable_equal, failed, before, later, whole, alike⟩

end PixelBrush
