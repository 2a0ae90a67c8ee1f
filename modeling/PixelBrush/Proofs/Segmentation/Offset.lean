import PixelBrush.Proofs.Segmentation.Front

/-! # Locations are counted from the start of the text

A line starts behind every line break, wherever that stands.  The line of an offset is
found by counting the starts of lines up to it, and its column from the last of them.
This is where tokens and lexical errors are located.
-/

namespace PixelBrush

open Segmentation

namespace Text

/-- Whether a line break ends at an offset, so that a line starts there.  A carriage return
with a line feed behind it is the first half of a line break only. -/
def startsLine (text : List Char) : Nat → Bool
  | 0 => false
  | previous + 1 =>
      text[previous]? == some '\n' ||
        (text[previous]? == some '\r' && text[previous + 1]? != some '\n')

/-- The offsets up to a given one at which a line starts behind a line break. -/
def lineStarts (text : List Char) (offset : Nat) : List Nat :=
  (List.range (offset + 1)).filter (startsLine text)

variable {text : List Char} {offset : Nat}

theorem lineStarts_succ (text : List Char) (offset : Nat) :
    lineStarts text (offset + 1) =
      lineStarts text offset ++ if startsLine text (offset + 1) then [offset + 1] else [] := by
  rw [lineStarts, List.range_succ, List.filter_append, List.filter_singleton, Bool.cond_eq_ite]
  rfl

theorem le_of_mem_lineStarts {start : Nat} (member : start ∈ lineStarts text offset) :
    start ≤ offset :=
  Nat.le_of_lt_succ (List.mem_range.mp (List.mem_filter.mp member).1)

theorem getLast?_lineStarts_le (text : List Char) (offset : Nat) :
    (lineStarts text offset).getLast?.getD 0 ≤ offset := by
  cases last : (lineStarts text offset).getLast? with
  | none => exact Nat.zero_le offset
  | some start => exact le_of_mem_lineStarts (List.mem_of_getLast? last)

end Text

namespace Location

open Text

variable {text : List Char} {offset : Nat}

/-- The line and the column of an offset in a text: how many line breaks end up to there, and
how many characters stand behind the last of them, both counted from one. -/
def ofOffset (text : List Char) (offset : Nat) : Location where
  line := 1 + (lineStarts text offset).length
  column := 1 + ((offset - (lineStarts text offset).getLast?.getD 0 : Nat) : Int)

theorem ofOffset_zero (text : List Char) : ofOffset text 0 = .start := rfl

theorem ofOffset_of_startsLine (starts : startsLine text (offset + 1) = true) :
    ofOffset text (offset + 1) = (ofOffset text offset).nextLine := by
  rw [ofOffset, lineStarts_succ, if_pos starts, List.length_append, List.getLast?_concat]
  simp [nextLine, ofOffset, Int.add_assoc]

theorem ofOffset_of_not_startsLine (stays : startsLine text (offset + 1) = false) :
    ofOffset text (offset + 1) = (ofOffset text offset).right 1 := by
  have before := getLast?_lineStarts_le text offset
  rw [ofOffset, lineStarts_succ, stays, if_neg Bool.false_ne_true, List.append_nil, ofOffset, right]
  congr 1
  dsimp only
  omega

theorem drop_succ_of_drop {first : Char} {others : List Char}
    (ahead : text.drop offset = first :: others) :
    text[offset]? = some first ∧ text.drop (offset + 1) = others := by
  rw [← List.head?_drop, ahead, ← List.drop_drop, ahead]
  exact ⟨rfl, rfl⟩

/-- Moving over a piece of a text leads from the location of one offset to that of another. -/
theorem after_ofOffset {piece behind : List Char} (ahead : text.drop offset = piece ++ behind)
    (whole : Whole piece behind) :
    (ofOffset text offset).after piece = ofOffset text (offset + piece.length) := by
  generalize here : ofOffset text offset = location
  fun_induction Location.after location piece generalizing offset with
  | case1 location => exact here.symm
  | case2 location later induction =>
      -- The first half of the line break moves on in the line, the second half ends it.
      obtain ⟨isReturn, aheadFeed⟩ := drop_succ_of_drop ahead
      obtain ⟨isFeed, aheadLater⟩ := drop_succ_of_drop aheadFeed
      have half : startsLine text (offset + 1) = false := by simp [startsLine, isReturn, isFeed]
      have full : startsLine text (offset + 1 + 1) = true := by simp [startsLine, isFeed]
      have next : ofOffset text (offset + 2) = location.nextLine := by
        rw [ofOffset_of_startsLine full, ofOffset_of_not_startsLine half, here]
        rfl
      rw [induction aheadLater whole.of_cons.of_cons next, List.length_cons, List.length_cons]
      congr 1
      omega
  | case3 location character later alone ends induction =>
      obtain ⟨isFirst, aheadLater⟩ := drop_succ_of_drop ahead
      have starts : startsLine text (offset + 1) = true := by
        obtain rfl | rfl := ends
        · simp [startsLine, isFirst]
        · have apart : text[offset + 1]? ≠ some '\n' := by
            rw [← List.head?_drop, aheadLater]
            cases later with
            | nil => exact whole rfl
            | cons next others =>
                intro feed
                exact alone others rfl (by rw [Option.some.inj feed])
          simp [startsLine, isFirst, apart]
      have next : ofOffset text (offset + 1) = location.nextLine := by
        rw [ofOffset_of_startsLine starts, here]
      rw [induction aheadLater whole.of_cons next, List.length_cons]
      congr 1
      omega
  | case4 location character later alone stays induction =>
      obtain ⟨isFirst, aheadLater⟩ := drop_succ_of_drop ahead
      have inLine : startsLine text (offset + 1) = false := by
        obtain ⟨noFeed, noReturn⟩ := not_or.mp stays
        simp [startsLine, isFirst, noFeed, noReturn]
      have next : ofOffset text (offset + 1) = location.right 1 := by
        rw [ofOffset_of_not_startsLine inLine, here]
      rw [induction aheadLater whole.of_cons next, List.length_cons]
      congr 1
      omega

/-- What stands behind the first part of a text is located at the length of that. -/
theorem start_after {before behind : List Char} (whole : Whole before behind) :
    start.after before = ofOffset (before ++ behind) before.length := by
  have ahead : (before ++ behind).drop 0 = before ++ behind := rfl
  have moved := after_ofOffset ahead whole
  rwa [ofOffset_zero, Nat.zero_add] at moved

end Location

variable {location : Location} {text gap rest : List Char} {token : Token} {tokens : List Token}

namespace Front

theorem whole_gap (front : Front location text tokens (gap ++ rest)) (between : Gap gap rest) :
    Location.Whole (text ++ gap) rest := by
  intro last
  rw [List.getLast?_append] at last
  cases inGap : gap.getLast? with
  | none =>
      rw [inGap] at last
      exact absurd last front.getLast?_ne
  | some character =>
      rw [inGap] at last
      exact between.whole (inGap.trans last)

/-- What stands behind the front of a text and a gap is located at its offset. -/
theorem after_gap (front : Front .start text tokens (gap ++ rest)) (between : Gap gap rest) :
    (Location.start.after text).after gap =
      .ofOffset (text ++ (gap ++ rest)) (text ++ gap).length := by
  rw [← front.after_behind, ← List.append_assoc]
  exact Location.start_after (front.whole_gap between)

theorem tokenize_eq (front : Front .start text tokens (gap ++ rest)) (between : Gap gap rest) :
    tokenize (String.ofList (text ++ gap)) =
      .ok (tokens ++ [⟨.endOfInput, "", none, (Location.start.after text).after gap⟩]) := by
  rw [← front.after_behind, tokenize_eq_ok_iff, String.toList_ofList]
  exact front.located_gap between

end Front

/-- The first token of a text stands behind its first gap. -/
theorem Located.exists_first (located : Located location text (token :: tokens)) :
    ∃ gap rest, text = gap ++ (token.text.toList ++ rest) ∧ Gap gap (token.text.toList ++ rest) ∧
      token.location = location.after gap ∧
      (token.kind = .endOfInput → token.text = "" ∧ rest = []) := by
  cases located with
  | finished between => exact ⟨_, [], by simp [Lexeme.token, Lexeme.endOfInput], between, rfl,
      fun _ => ⟨rfl, rfl⟩⟩
  | @lexeme _ gap rest lexeme _ between picked readable later =>
      refine ⟨gap, rest, by simp [Lexeme.token], ?_, rfl,
        fun isEnd => absurd isEnd picked.kind_ne_endOfInput⟩
      rw [Lexeme.token, String.toList_ofList]
      exact between

/-- Tokens and lexical errors are located at the offsets where they start.  Each token stands
behind the text that is read as the tokens before it, and starts with its first character.
An error stands behind the tokens that can be read, at a quote that is never closed or at
a character with which no token starts. -/
theorem located_at_offsets (source : String) :
    (∀ front token back, tokenize source = .ok (front ++ token :: back) →
      ∃ before behind : List Char,
        source.toList = before ++ (token.text.toList ++ behind) ∧
        tokenize (String.ofList before) = .ok (front ++ [⟨.endOfInput, "", none, token.location⟩]) ∧
        (token.kind = .endOfInput → token.text = "" ∧ behind = []) ∧
        token.location = .ofOffset source.toList before.length) ∧
    ∀ error location, tokenize source = .error error → error.location? = some location →
      ∃ (before later : List Char) (character : Char) (tokens : List Token),
        source.toList = before ++ character :: later ∧
        tokenize (String.ofList before) = .ok (tokens ++ [⟨.endOfInput, "", none, location⟩]) ∧
        ((error = .unterminatedString location ∧ character = '"' ∧ '"' ∉ later) ∨
          (error = .unrecognized character location ∧ Unreadable character later)) ∧
        location = .ofOffset source.toList before.length := by
  constructor
  · intro tokensBefore token back read
    obtain ⟨text, others, whole, front, located⟩ :=
      (tokenize_eq_ok_iff.mp read).exists_divided (List.cons_ne_nil token back)
    obtain ⟨gap, rest, rfl, between, place, ends⟩ := located.exists_first
    refine ⟨text ++ gap, rest, by rw [whole, List.append_assoc], ?_, ends, ?_⟩
    · rw [front.tokenize_eq between, place]
    · rw [whole, place, front.after_gap between]
  · intro error location failed place
    obtain ⟨tokens, breaks⟩ := breaks_of_tokenize failed place
    obtain ⟨text, gap, character, later, here, whole, front, between, rfl, found, why⟩ :=
      breaks.exists_first
    obtain rfl := Option.some.inj (found.symm.trans place)
    refine ⟨text ++ gap, later, character, tokens, by rw [whole, List.append_assoc],
      front.tokenize_eq between, why, ?_⟩
    rw [whole]
    exact front.after_gap between

/-- A text whose first line ends with a carriage return, its fourth line with a carriage return
and a line feed, and the lines between inside of a string. -/
def endings : String := "x // a\r\"b\r\n\nc\"\r\n y"

/-- What stands in front of `y`, and how it is read. -/
def endingsTokens : List Token :=
  [⟨.identifier, "x", some (.string "x"), ⟨1, 1⟩⟩, ⟨.comment, "// a", none, ⟨1, 3⟩⟩,
    ⟨.string, "\"b\r\n\nc\"", some (.string "b\r\n\nc"), ⟨2, 1⟩⟩]

/-- All line breaks count, between tokens, behind a comment and inside of a string. -/
theorem endings_located_at_offsets :
    tokenize endings = .ok (endingsTokens ++ ⟨.identifier, "y", some (.string "y"), ⟨5, 2⟩⟩ ::
      [⟨.endOfInput, "", none, ⟨5, 3⟩⟩]) ∧
    (∃ before behind, endings.toList = before ++ ('y' :: behind) ∧
      (⟨5, 2⟩ : Location) = .ofOffset endings.toList before.length) ∧
    tokenize (endings ++ " \"\n") = .error (.unterminatedString ⟨5, 4⟩) ∧
    ∃ before later, (endings ++ " \"\n").toList = before ++ '"' :: later ∧ '"' ∉ later ∧
      (⟨5, 4⟩ : Location) = .ofOffset (endings ++ " \"\n").toList before.length := by
  have read : tokenize endings = .ok (endingsTokens ++
      ⟨.identifier, "y", some (.string "y"), ⟨5, 2⟩⟩ :: [⟨.endOfInput, "", none, ⟨5, 3⟩⟩]) := by
    decide +kernel
  have failed : tokenize (endings ++ " \"\n") = .error (.unterminatedString ⟨5, 4⟩) := by
    decide +kernel
  obtain ⟨before, behind, whole, -, -, place⟩ := (located_at_offsets endings).1 _ _ _ read
  obtain ⟨front, later, character, tokens, split, -, why, there⟩ :=
    (located_at_offsets (endings ++ " \"\n")).2 _ _ failed rfl
  obtain ⟨-, rfl, unquoted⟩ | ⟨other, -⟩ := why
  · exact ⟨read, ⟨before, behind, whole, place⟩, failed, front, later, split, unquoted, there⟩
  · cases other

end PixelBrush
