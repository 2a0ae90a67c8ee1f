import PixelBrush.Proofs.Continuation
import PixelBrush.Proofs.Segmentation.Front

/-! # Program texts behind one another

A line feed between two program texts keeps them apart: no lexeme of the first text
changes because of it, and no statement goes on behind it.  So the tokens and the
statements of both texts follow each other, those of the second text further down.
-/

namespace PixelBrush

open Segmentation

/-- The tokens of a text end with the end of the input.  They stay in front of a line
feed, which has its own token in the place of that end, unless the text itself ends with
the first half of a line break. -/
theorem Located.exists_front {location : Location} {text : List Char} {tokens : List Token}
    (located : Located location text tokens) :
    ∃ front, tokens = front ++ [Lexeme.endOfInput.token (location.after text)] ∧
      (∀ token ∈ front, token.kind ≠ .endOfInput) ∧
      (text.getLast? ≠ some '\r' → ∀ behind others,
        Located (location.after text).nextLine behind others →
          Located location (text ++ '\n' :: behind)
            (front ++ Lexeme.endOfLine.token (location.after text) :: others)) := by
  obtain ⟨text, gap, front, rfl, upTo, between, rfl⟩ := located.exists_end
  refine ⟨front, rfl, upTo.kind_ne_endOfInput, fun noReturn behind others later => ?_⟩
  have passed : Gap gap ('\n' :: behind) := by
    refine between.of_whole (Location.whole_of_getLast?_ne fun last => noReturn ?_)
    rw [List.getLast?_append, last]
    rfl
  have kept : Front location text front (gap ++ '\n' :: behind) :=
    upTo.of_bounds fun token _ => bounds_of_not_staysInLine rfl token.kind
  rw [upTo.after_behind] at later ⊢
  rw [List.append_assoc]
  exact kept.located (.lexeme passed .endOfLine nofun later)

namespace Grammar

/-- Tokens a number of lines further down. -/
def lowered (lines : Nat) : Restyling (Location.down lines) where
  apply := Token.down lines
  kind _ := rfl
  value _ := rfl
  location _ := rfl

/-- Programs with a line end between them are read as the statements of both, whatever
the limit on nesting. -/
theorem parseWithin_seam {limit : Nat} {front back : List Token} {firstEnd secondEnd seam : Token}
    {first second : List Node} (lines : Nat)
    (more : ∀ token ∈ front, token.kind ≠ .endOfInput) (ended : Ended [firstEnd])
    (moreBehind : ∀ token ∈ back, token.kind ≠ .endOfInput) (endedBehind : Ended [secondEnd])
    (line : seam.kind = .endOfLine) (read : parseWithin limit (front ++ [firstEnd]) = .ok first)
    (readBehind : parseWithin limit (back ++ [secondEnd]) = .ok second) :
    parseWithin limit (front ++ seam :: (back ++ [secondEnd]).map (Token.down lines)) =
      .ok (first ++ second.map (Node.relocate (Location.down lines))) := by
  have stillEnded : Ended [Token.down lines secondEnd] := endedBehind
  have separates : Parser.separates seam.kind = true := by
    rw [line]
    rfl
  have moved := parseWithin_followedBy (lowered lines) readBehind (parseWithin_of_ended stillEnded)
  rw [(lowered lines).followedBy_append moreBehind, (lowered lines).followedBy_of_ended endedBehind,
    List.append_nil, ← parseWithin_of_separates separates] at moved
  have joined := parseWithin_followedBy unchanged read moved
  rw [unchanged.followedBy_append more, unchanged.followedBy_of_ended ended] at joined
  have sameTrees : first.map (Node.relocate id) = first := by
    rw [funext Node.relocate_id, List.map_id']
  rw [map_unchanged, sameTrees] at joined
  rw [List.map_append]
  exact joined

end Grammar

open Text in
/-- Program texts with a line feed between them are read as the tokens and the statements
of both.  The end of the first text becomes the end of a line, and the second text moves
down by the lines of the first one.  It does not matter what the limit on nesting is. -/
theorem reads_append_lineFeed {first second : String} {firstTokens secondTokens : List Token}
    (firstRead : tokenize first = .ok firstTokens) (secondRead : tokenize second = .ok secondTokens)
    (noReturn : first.toList.getLast? ≠ some '\r') :
    ∃ front seam tokens, firstTokens = front ++ [⟨.endOfInput, "", none, seam⟩] ∧
      tokens = front ++ ⟨.endOfLine, "\n", none, seam⟩ ::
        secondTokens.map (Token.down (lineBreaks first.toList + 1)) ∧
      tokenize (first ++ "\n" ++ second) = .ok tokens ∧
      ∀ (limit : Nat) (firstStatements secondStatements : List Node),
        parseWithin limit firstTokens = .ok firstStatements →
        parseWithin limit secondTokens = .ok secondStatements →
          parseWithin limit tokens = .ok (firstStatements ++ secondStatements.map
            (Node.relocate (Location.down (lineBreaks first.toList + 1)))) := by
  have secondLocated := tokenize_eq_ok_iff.mp secondRead
  obtain ⟨front, rfl, more, goesOn⟩ := (tokenize_eq_ok_iff.mp firstRead).exists_front
  obtain ⟨back, backEq, moreBehind, -⟩ := secondLocated.exists_front
  have nextLine : (Location.start.after first.toList).nextLine =
      Location.start.down (lineBreaks first.toList + 1) := by
    rw [Location.nextLine, Location.line_after, Location.down]
    simp [Location.start, Int.add_assoc]
  refine ⟨front, Location.start.after first.toList, _, rfl, rfl, ?_, ?_⟩
  · have lowered := secondLocated.down (lineBreaks first.toList + 1)
    rw [← nextLine] at lowered
    have joined := goesOn noReturn second.toList _ lowered
    apply tokenize_eq_ok_iff.mpr
    rw [String.toList_append, String.toList_append, List.append_assoc]
    exact joined
  · intro limit firstStatements secondStatements firstParsed secondParsed
    have ended (location : Location) : Grammar.Ended [Lexeme.endOfInput.token location] := rfl
    rw [backEq] at secondParsed ⊢
    exact Grammar.parseWithin_seam _ more (ended _) moreBehind (ended _) rfl firstParsed
      secondParsed

/-- The tokens of `x <- "1`, and `2" // y` on the next line. -/
def twoLineTokens : List Token :=
  [⟨.identifier, "x", some (.string "x"), ⟨1, 1⟩⟩, ⟨.arrow, "<-", none, ⟨1, 3⟩⟩,
    ⟨.string, "\"1\r\n2\"", some (.string "1\r\n2"), ⟨1, 6⟩⟩,
    ⟨.comment, "// y", none, ⟨2, 4⟩⟩, ⟨.endOfInput, "", none, ⟨2, 8⟩⟩]

/-- The tokens of `Fill()`. -/
def fillTokens : List Token :=
  [⟨.command .fill, "Fill", none, ⟨1, 1⟩⟩, ⟨.leftParenthesis, "(", none, ⟨1, 5⟩⟩,
    ⟨.rightParenthesis, ")", none, ⟨1, 6⟩⟩, ⟨.endOfInput, "", none, ⟨1, 7⟩⟩]

/-- Behind two lines, the next text starts in the third line. -/
theorem fill_behind_two_lines :
    tokenize "x <- \"1\r\n2\" // y" = .ok twoLineTokens ∧ tokenize "Fill()" = .ok fillTokens ∧
      "x <- \"1\r\n2\" // y".toList.getLast? ≠ some '\r' ∧
      ∃ tokens, tokenize ("x <- \"1\r\n2\" // y" ++ "\n" ++ "Fill()") = .ok tokens ∧
        parse tokens = .ok
          [.assignment "x" (.literal Kind.string.name (some (.string "1\r\n2")) ⟨1, 6⟩) ⟨1, 1⟩,
            .instruction Command.fill.code [] ⟨3, 1⟩] := by
  have firstRead : tokenize "x <- \"1\r\n2\" // y" = .ok twoLineTokens := by decide +kernel
  have secondRead : tokenize "Fill()" = .ok fillTokens := by decide +kernel
  have noReturn : "x <- \"1\r\n2\" // y".toList.getLast? ≠ some '\r' := by decide +kernel
  have lines : Text.lineBreaks "x <- \"1\r\n2\" // y".toList = 1 := by decide +kernel
  have firstParsed : parse twoLineTokens = .ok
      [.assignment "x" (.literal Kind.string.name (some (.string "1\r\n2")) ⟨1, 6⟩) ⟨1, 1⟩] := rfl
  have secondParsed : parse fillTokens = .ok [.instruction Command.fill.code [] ⟨1, 1⟩] := rfl
  obtain ⟨front, seam, tokens, -, -, read, parses⟩ :=
    reads_append_lineFeed firstRead secondRead noReturn
  have joined := parses Node.nestingLimit _ _ firstParsed secondParsed
  rw [lines] at joined
  exact ⟨firstRead, secondRead, noReturn, tokens, read, joined⟩

end PixelBrush
