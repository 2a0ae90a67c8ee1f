import PixelBrush.Proofs.Segmentation.Front

/-! # Other spaces between tokens

No token depends on what it touches.  With a single space behind each of them, the texts of
tokens are read as the same tokens again.  Behind a comment there has to be the end of its
line instead, which a carriage return can be as well.
-/

namespace PixelBrush

open Segmentation

/-- What is put between two tokens of given kinds. -/
def separator (first second : TokenKind) : List Char :=
  if first = .comment then (if second = .endOfLine then [] else ['\r']) else [' ']

/-- The texts of tokens with something between them to keep them apart. -/
def respaced : List Token → List Char
  | [] => []
  | [last] => last.text.toList
  | first :: second :: later =>
      first.text.toList ++ (separator first.kind second.kind ++ respaced (second :: later))

variable {location : Location} {text rest closing : List Char} {lexeme : Lexeme}
  {first second tokens : List Token}

/-- Where tokens stand makes no difference to how they are put together again. -/
theorem respaced_congr (same : first.map Token.lexeme = second.map Token.lexeme) :
    respaced first = respaced second := by
  induction first generalizing second with
  | nil =>
      obtain rfl : second = [] := by simpa using same.symm
      rfl
  | cons token later induction =>
      cases second with
      | nil => cases same
      | cons other others =>
          obtain ⟨alike, sameLater⟩ := List.cons.inj same
          have text : token.text.toList = other.text.toList := congrArg Lexeme.text alike
          have kind : token.kind = other.kind := congrArg Lexeme.kind alike
          cases later with
          | nil =>
              obtain rfl : others = [] := by simpa using sameLater.symm
              exact text
          | cons next more =>
              cases others with
              | nil => cases sameLater
              | cons nextOther moreOthers =>
                  have nextKind : next.kind = nextOther.kind :=
                    congrArg Lexeme.kind (List.cons.inj sameLater).1
                  rw [respaced, respaced, text, kind, nextKind, induction sameLater]

theorem head?_respaced {token : Token} (nonempty : token.text.toList ≠ []) (later : List Token)
    (closing : List Char) :
    (respaced (token :: later) ++ closing).head? = token.text.toList.head? := by
  cases later with
  | nil => rw [respaced, List.head?_append_of_ne_nil _ nonempty]
  | cons next more => rw [respaced, List.append_assoc, List.head?_append_of_ne_nil _ nonempty]

/-- Only a line end starts with a line feed. -/
theorem Segmentation.Picked.head?_eq_iff (picked : Picked lexeme rest) :
    lexeme.text.head? = some '\n' ↔ lexeme.kind = .endOfLine := by
  refine ⟨fun feed => ?_, fun ends => by rw [picked.eq_of_endOfLine ends]; rfl⟩
  obtain rfl | ⟨first, later, starts, visible⟩ := Cursor.exists_visible_of_picked picked
  · rfl
  · rw [starts] at feed
    obtain rfl := Option.some.inj feed
    cases visible

/-- What may stand behind all tokens: nothing, or one more space. -/
def IsClosing (closing : List Char) : Prop :=
  closing = [] ∨ closing = [' ']

theorem IsClosing.gap (isClosing : IsClosing closing) : Gap closing [] := by
  obtain rfl | rfl := isClosing
  · exact .nil
  · exact .blank rfl rfl .nil

theorem IsClosing.head?_ne (isClosing : IsClosing closing) : closing.head? ≠ some '\n' := by
  obtain rfl | rfl := isClosing <;> simp

/-- Tokens put together again start with a line feed if the first of them ends a line. -/
theorem Located.head?_respaced (located : Located location text tokens)
    (isClosing : IsClosing closing) :
    ∃ token later, tokens = token :: later ∧
      ((respaced tokens ++ closing).head? = some '\n' ↔ token.kind = .endOfLine) := by
  cases located with
  | finished between =>
      refine ⟨_, [], rfl, fun feed => absurd feed ?_, TokenKind.noConfusion⟩
      rw [respaced, Lexeme.token, Lexeme.endOfInput, String.toList_ofList]
      exact isClosing.head?_ne
  | @lexeme _ gap rest lexeme tokens between picked readable later =>
      refine ⟨_, _, rfl, ?_⟩
      have same : (lexeme.token (location.after gap)).text.toList = lexeme.text :=
        String.toList_ofList
      rw [PixelBrush.head?_respaced (same ▸ picked.text_ne_nil), same]
      exact picked.head?_eq_iff

/-- What is put behind a lexeme keeps it apart from the next one, and is a gap. -/
theorem Segmentation.Picked.separated (picked : Picked lexeme rest) (next : TokenKind)
    (starts : text.head? = some '\n' ↔ next = .endOfLine) :
    Picked lexeme (separator lexeme.kind next ++ text) ∧ Gap (separator lexeme.kind next) text := by
  by_cases comment : lexeme.kind = .comment
  · by_cases ends : next = .endOfLine
    · rw [separator, if_pos comment, if_pos ends]
      refine ⟨picked.of_head? fun first member => .inr ?_, .nil⟩
      obtain rfl := Option.some.inj ((starts.mpr ends).symm.trans member)
      exact bounds_of_not_staysInLine rfl lexeme.kind
    · rw [separator, if_pos comment, if_neg ends]
      refine ⟨picked.of_head? fun first member => .inr ?_,
        .carriageReturn (fun feed => ends (starts.mp feed)) .nil⟩
      obtain rfl := Option.some.inj member
      exact bounds_of_not_staysInLine rfl lexeme.kind
  · rw [separator, if_neg comment]
    refine ⟨picked.of_head? fun first member => .inr ?_, .blank rfl rfl .nil⟩
    obtain rfl := Option.some.inj member
    rw [bounds_of_ne comment]
    rfl

/-- The tokens of a text, put together again, are its tokens at other places. -/
theorem Located.exists_respaced (located : Located location text tokens)
    (isClosing : IsClosing closing) (here : Location) :
    ∃ again, Located here (respaced tokens ++ closing) again ∧
      again.map Token.lexeme = tokens.map Token.lexeme := by
  induction located generalizing here with
  | @finished location gap between =>
      refine ⟨_, .finished isClosing.gap, ?_⟩
      rw [List.map_singleton, List.map_singleton, Lexeme.lexeme_token, Lexeme.lexeme_token]
  | @lexeme location gap rest lexeme tokens between picked readable later induction =>
      obtain ⟨token, more, rfl, starts⟩ := later.head?_respaced isClosing
      obtain ⟨stays, behind⟩ := picked.separated token.kind starts
      obtain ⟨again, located, alike⟩ :=
        induction ((here.after lexeme.text).after (separator lexeme.kind token.kind))
      refine ⟨lexeme.token here :: again, ?_, ?_⟩
      · rw [respaced, Lexeme.token, String.toList_ofList, List.append_assoc, List.append_assoc]
        exact .lexeme .nil stays readable (located.behind_gap behind)
      · rw [List.map_cons, List.map_cons, alike, Lexeme.lexeme_token, Lexeme.lexeme_token]

/-- Tokens can be put together again from their texts alone.  With a single space behind each
of them, behind the last one as well or not, their texts are read as tokens of the same kinds,
texts and values.  Behind a comment stands a carriage return instead, or nothing if its line
ends there anyway.  Doing so twice gives the same text as doing it once. -/
theorem tokenize_respaced {source : String} {tokens : List Token} {closing : List Char}
    (read : tokenize source = .ok tokens) (isClosing : closing = [] ∨ closing = [' ']) :
    ∃ again, tokenize (String.ofList (respaced tokens ++ closing)) = .ok again ∧
      again.map Token.lexeme = tokens.map Token.lexeme ∧ respaced again = respaced tokens := by
  obtain ⟨again, located, alike⟩ :=
    (tokenize_eq_ok_iff.mp read).exists_respaced isClosing .start
  refine ⟨again, ?_, alike, respaced_congr alike⟩
  rw [tokenize_eq_ok_iff, String.toList_ofList]
  exact located

/-- The tokens of `2x// c` and `// d` on the next line. -/
def crowdedTokens : List Token :=
  [⟨.number, "2", some (.number 2), ⟨1, 1⟩⟩, ⟨.identifier, "x", some (.string "x"), ⟨1, 2⟩⟩,
    ⟨.comment, "// c", none, ⟨1, 3⟩⟩, ⟨.endOfLine, "\n", none, ⟨1, 7⟩⟩,
    ⟨.comment, "// d", none, ⟨2, 1⟩⟩, ⟨.endOfInput, "", none, ⟨2, 5⟩⟩]

/-- The line of the last comment ends with a carriage return, as no token ends it. -/
theorem crowded_respaced :
    tokenize "2x// c\n// d" = .ok crowdedTokens ∧
      ∃ again, tokenize "2 x // c\n // d\r" = .ok again ∧
        again.map Token.lexeme = crowdedTokens.map Token.lexeme ∧
        respaced again = respaced crowdedTokens := by
  have read : tokenize "2x// c\n// d" = .ok crowdedTokens := by decide +kernel
  have text : respaced crowdedTokens ++ [] = "2 x // c\n // d\r".toList := by decide
  have again := tokenize_respaced read (.inl rfl)
  rw [text, String.ofList_toList] at again
  exact ⟨read, again⟩

end PixelBrush
