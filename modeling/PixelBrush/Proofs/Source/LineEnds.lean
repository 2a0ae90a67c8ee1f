import PixelBrush.Proofs.Continuation
import PixelBrush.Proofs.Segmentation.Front

/-! # Other line ends

A carriage return ends a line as well as a line feed does, alone or in front of a line
feed, but leaves no token.  The statements of a program keep apart without those tokens,
and all tokens stay at their places.
-/

namespace PixelBrush

open Segmentation

/-- The tokens that do not end a line. -/
def withoutLineEnds (tokens : List Token) : List Token :=
  tokens.filter fun token => token.kind ≠ .endOfLine

variable {token : Token} {tokens : List Token}

theorem withoutLineEnds_cons_of_endOfLine (ends : token.kind = .endOfLine) :
    withoutLineEnds (token :: tokens) = withoutLineEnds tokens :=
  List.filter_cons_of_neg (by simp [ends])

theorem withoutLineEnds_cons_of_ne (stays : token.kind ≠ .endOfLine) :
    withoutLineEnds (token :: tokens) = token :: withoutLineEnds tokens :=
  List.filter_cons_of_pos (by simp [stays])

/-! ### Statements without line ends -/

namespace Parser

open Grammar Reading

theorem withoutLineEnds_append_of_inside {taken : List Token}
    (inside : ∀ token ∈ taken, isMargin token.kind = false) :
    withoutLineEnds (taken ++ tokens) = taken ++ withoutLineEnds tokens := by
  have stays : withoutLineEnds taken = taken := by
    refine List.filter_eq_self.mpr fun token member => decide_eq_true fun ends => ?_
    have within := inside token member
    rw [ends] at within
    cases within
  rw [withoutLineEnds, List.filter_append]
  exact congrArg (· ++ withoutLineEnds tokens) stays

/-- A program needs no line ends between its statements. -/
theorem exists_program_withoutLineEnds {budget : Nat} {rest : List Token} {nodes : List Node}
    (read : program budget tokens = .ok nodes rest) :
    ∃ final, program budget (withoutLineEnds tokens) = .ok nodes final := by
  refine program_induction (motive := fun tokens nodes =>
    ∃ final, program budget (withoutLineEnds tokens) = .ok nodes final) ?_ ?_ ?_ read
  · intro tokens ended
    have stillEnded : Ended (withoutLineEnds tokens) := by
      cases tokens with
      | nil => trivial
      | cons token later =>
          have isEnd : token.kind = .endOfInput := ended
          rw [withoutLineEnds_cons_of_ne (by simp [isEnd])]
          exact ended
    exact ⟨_, program_of_ended stillEnded⟩
  · intro token later nodes separates goesOn
    by_cases ends : token.kind = .endOfLine
    · rwa [withoutLineEnds_cons_of_endOfLine ends]
    · rwa [withoutLineEnds_cons_of_ne ends, program_of_separates separates]
  · intro taken later first others inside leads ⟨final, goesOn⟩
    have whole := leads unchanged goesOn
    rw [map_unchanged, Node.relocate_id] at whole
    rw [withoutLineEnds_append_of_inside inside]
    exact ⟨final, whole⟩

end Parser

theorem parseWithin_withoutLineEnds {limit : Nat} {statements : List Node}
    (read : parseWithin limit tokens = .ok statements) :
    parseWithin limit (withoutLineEnds tokens) = .ok statements := by
  obtain ⟨rest, program⟩ := Grammar.exists_program_of_parseWithin read
  obtain ⟨final, again⟩ := Parser.exists_program_withoutLineEnds program
  rw [parseWithin, again]

/-! ### Texts with other line ends -/

namespace Text

/-- A text with something else in the place of each line feed. -/
def endLinesWith (ending text : List Char) : List Char :=
  text.flatMap fun character => if character = '\n' then ending else [character]

variable {ending first second : List Char}

theorem endLinesWith_append (ending first second : List Char) :
    endLinesWith ending (first ++ second) =
      endLinesWith ending first ++ endLinesWith ending second :=
  List.flatMap_append

theorem endLinesWith_of_not_mem (inLine : '\n' ∉ first) : endLinesWith ending first = first := by
  induction first with
  | nil => rfl
  | cons character later induction =>
      have noFeed : character ≠ '\n' := (List.ne_of_not_mem_cons inLine).symm
      rw [endLinesWith, List.flatMap_cons, if_neg noFeed]
      exact congrArg (character :: ·) (induction (List.not_mem_of_not_mem_cons inLine))

theorem head?_endLinesWith {character : Char} (ending : List Char) (text : List Char)
    (first : character ∈ (endLinesWith ('\r' :: ending) text).head?) :
    character ∈ text.head? ∨ character = '\r' := by
  cases text with
  | nil => exact .inl first
  | cons next later =>
      by_cases feed : next = '\n'
      · rw [endLinesWith, List.flatMap_cons, if_pos feed] at first
        exact .inr (Option.some.inj first).symm
      · rw [endLinesWith, List.flatMap_cons, if_neg feed] at first
        exact .inl first

theorem not_mem_endLinesWith (noFeed : '\n' ∉ ending) (text : List Char) :
    '\n' ∉ endLinesWith ending text := by
  intro member
  obtain ⟨character, -, inside⟩ := List.mem_flatMap.mp member
  by_cases feed : character = '\n'
  · rw [if_pos feed] at inside
    exact noFeed inside
  · rw [if_neg feed, List.mem_singleton] at inside
    exact feed inside.symm

/-- What can stand in the place of a line feed: a carriage return, with the line feed or
without. -/
def IsLineEnd (ending : List Char) : Prop :=
  ending = ['\r', '\n'] ∨ ending = ['\r']

theorem IsLineEnd.exists_cons (isEnd : IsLineEnd ending) : ∃ later, ending = '\r' :: later := by
  obtain rfl | rfl := isEnd <;> exact ⟨_, rfl⟩

theorem IsLineEnd.gap (isEnd : IsLineEnd ending) (text : List Char) :
    Gap ending (endLinesWith ending text) := by
  obtain rfl | rfl := isEnd
  · exact .lineBreak .nil
  · refine .carriageReturn (fun feed => ?_) .nil
    exact not_mem_endLinesWith (by decide) text (List.mem_of_mem_head? feed)

theorem IsLineEnd.after (isEnd : IsLineEnd ending) (location : Location) :
    location.after ending = location.nextLine := by
  obtain rfl | rfl := isEnd <;> rfl

end Text

open Text

variable {location : Location} {text gap rest ending : List Char}

namespace Segmentation

theorem Gap.not_mem_of_noReturn (between : Gap gap rest) (noReturn : '\r' ∉ gap) :
    '\n' ∉ gap := by
  induction between with
  | nil => exact List.not_mem_nil
  | @blank character gap rest blank inLine later induction =>
      refine List.not_mem_cons_of_ne_of_not_mem ?_
        (induction (List.not_mem_of_not_mem_cons noReturn))
      rintro rfl
      cases inLine
  | lineBreak | carriageReturn => exact absurd List.mem_cons_self noReturn

end Segmentation

/-- With other line ends, a text has the same tokens at the same places, less its line ends. -/
theorem Located.endLinesWith (located : Located location text tokens) (isEnd : IsLineEnd ending)
    (noReturn : '\r' ∉ text)
    (inLine : ∀ token ∈ tokens, token.kind = .string → '\n' ∉ token.text.toList) :
    Located location (endLinesWith ending text) (withoutLineEnds tokens) := by
  induction located with
  | @finished location gap between =>
      have stays : (Lexeme.endOfInput.token (location.after gap)).kind ≠ .endOfLine :=
        TokenKind.noConfusion
      rw [endLinesWith_of_not_mem (between.not_mem_of_noReturn noReturn),
        withoutLineEnds_cons_of_ne stays]
      exact .finished between
  | @lexeme location gap rest lexeme tokens between picked readable later induction =>
      simp only [List.mem_append, not_or] at noReturn
      obtain ⟨gapNoReturn, lexemeNoReturn, restNoReturn⟩ := noReturn
      obtain ⟨lexemeInLine, othersInLine⟩ := List.forall_mem_cons.mp inLine
      have goesOn := induction restNoReturn othersInLine
      obtain ⟨second, rfl⟩ := isEnd.exists_cons
      rw [endLinesWith_append, endLinesWith_append,
        endLinesWith_of_not_mem (between.not_mem_of_noReturn gapNoReturn)]
      by_cases ends : lexeme.kind = .endOfLine
      · -- The line end becomes part of the gap in front of the next token.
        obtain rfl := picked.eq_of_endOfLine ends
        have replaced : Text.endLinesWith ('\r' :: second) ['\n'] = '\r' :: second := by
          simp [Text.endLinesWith]
        rw [withoutLineEnds_cons_of_endOfLine ends, replaced]
        refine Located.behind_gap (Located.behind_gap ?_ (isEnd.gap rest))
          (between.of_head? fun feed => by cases feed)
        rw [isEnd.after]
        exact goesOn
      · have noFeed : '\n' ∉ lexeme.text := by
          by_cases isString : lexeme.kind = .string
          · simpa [Lexeme.token] using lexemeInLine isString
          · intro member
            cases picked.staysInLine ends isString _ member
        rw [endLinesWith_of_not_mem noFeed, withoutLineEnds_cons_of_ne ends]
        refine .lexeme (between.of_lexeme picked.text_ne_nil _)
          (picked.of_head? fun next member => (head?_endLinesWith second rest member).imp_right ?_)
          readable goesOn
        rintro rfl
        exact bounds_of_not_staysInLine rfl lexeme.kind

/-- Line ends make no difference to what a program is.  Where all line feeds of a text become
carriage returns, with the line feed behind them or without, the text is read as the same
tokens at the same places, less its line ends, and these as the same statements.  It does not
matter what the limit on nesting is.  But line feeds inside of strings are no line ends. -/
theorem reads_endLinesWith {source : String} {tokens : List Token} {ending : List Char}
    (read : tokenize source = .ok tokens) (noReturn : '\r' ∉ source.toList)
    (inLine : ∀ token ∈ tokens, token.kind = .string → '\n' ∉ token.text.toList)
    (isEnd : ending = ['\r', '\n'] ∨ ending = ['\r']) :
    tokenize (String.ofList (endLinesWith ending source.toList)) =
        .ok (withoutLineEnds tokens) ∧
      ∀ (limit : Nat) (statements : List Node), parseWithin limit tokens = .ok statements →
        parseWithin limit (withoutLineEnds tokens) = .ok statements := by
  constructor
  · apply tokenize_eq_ok_iff.mpr
    rw [String.toList_ofList]
    exact (tokenize_eq_ok_iff.mp read).endLinesWith isEnd noReturn inLine
  · exact fun limit statements => parseWithin_withoutLineEnds

/-- The tokens of a label, an empty line, and `Fill()` with a comment. -/
def linedTokens : List Token :=
  [⟨.identifier, "row", some (.string "row"), ⟨1, 1⟩⟩, ⟨.colon, ":", none, ⟨1, 4⟩⟩,
    ⟨.endOfLine, "\n", none, ⟨1, 5⟩⟩, ⟨.endOfLine, "\n", none, ⟨2, 1⟩⟩,
    ⟨.command .fill, "Fill", none, ⟨3, 1⟩⟩, ⟨.leftParenthesis, "(", none, ⟨3, 5⟩⟩,
    ⟨.rightParenthesis, ")", none, ⟨3, 6⟩⟩, ⟨.comment, "// all", none, ⟨3, 8⟩⟩,
    ⟨.endOfLine, "\n", none, ⟨3, 14⟩⟩, ⟨.endOfInput, "", none, ⟨4, 1⟩⟩]

/-- The label and the command are found again where nothing but carriage returns keeps them
apart. -/
theorem lined_with_other_ends :
    tokenize "row:\n\nFill() // all\n" = .ok linedTokens ∧
      '\r' ∉ "row:\n\nFill() // all\n".toList ∧
      (∀ token ∈ linedTokens, token.kind = .string → '\n' ∉ token.text.toList) ∧
      tokenize "row:\r\n\r\nFill() // all\r\n" = .ok (withoutLineEnds linedTokens) ∧
      tokenize "row:\r\rFill() // all\r" = .ok (withoutLineEnds linedTokens) ∧
      parse (withoutLineEnds linedTokens) =
        .ok [.label "row" ⟨1, 1⟩, .instruction Command.fill.code [] ⟨3, 1⟩] := by
  have read : tokenize "row:\n\nFill() // all\n" = .ok linedTokens := by decide +kernel
  have noReturn : '\r' ∉ "row:\n\nFill() // all\n".toList := by decide +kernel
  have inLine : ∀ token ∈ linedTokens, token.kind = .string → '\n' ∉ token.text.toList := by
    decide
  have parsed : parse linedTokens =
      .ok [.label "row" ⟨1, 1⟩, .instruction Command.fill.code [] ⟨3, 1⟩] := rfl
  obtain ⟨both, parses⟩ := reads_endLinesWith read noReturn inLine (.inl rfl)
  obtain ⟨single, -⟩ := reads_endLinesWith read noReturn inLine (.inr rfl)
  exact ⟨read, noReturn, inLine, both, single, parses _ _ parsed⟩

end PixelBrush
