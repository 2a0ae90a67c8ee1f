import PixelBrush.Text.Blank
import PixelBrush.Token.Cursor

/-! # Reading a whole text

Between tokens lie gaps of blanks and of line breaks that start with a
carriage return.  The lexer passes a gap, reads the token that its first
character calls for, and goes on until the end of the text, which is a token
of its own.
-/

namespace PixelBrush
namespace Cursor

/-- The longest gap at the start of a text.  A line feed belongs to it only
directly behind a carriage return; elsewhere it is a token. -/
def gap : List Char → List Char
  | [] => []
  | '\r' :: '\n' :: later => '\r' :: '\n' :: gap later
  | character :: later =>
      if Text.isBlank character && character != '\n' then character :: gap later else []

/-- Read the token whose first character lies directly ahead. -/
def lexeme (cursor : Cursor) : Except LexicalError Token × Cursor :=
  match cursor.ahead with
  | [] => (.ok (cursor.token .endOfInput []), cursor)
  | '\n' :: _ => (.ok (cursor.token .endOfLine ['\n']), cursor.pass ['\n'])
  | '/' :: '/' :: _ => (.ok cursor.comment.1, cursor.comment.2)
  | character :: _ =>
      if Text.isDigit character then cursor.number
      else if startsWord character then (.ok cursor.word.1, cursor.word.2)
      else if character = '"' then cursor.string
      else match cursor.operator? with
        | some (token, reached) => (.ok token, reached)
        | none => (.error (.unrecognized character cursor.location), cursor)

def next (cursor : Cursor) : Except LexicalError Token × Cursor :=
  (cursor.pass (gap cursor.ahead)).lexeme

/-- Read at most the given number of tokens, up to the end of the text. -/
def tokensWithin : Nat → Cursor → Except LexicalError (List Token) × Cursor
  | 0, cursor => (.ok [], cursor)
  | count + 1, cursor =>
      match cursor.next with
      | (.error error, reached) => (.error error, reached)
      | (.ok token, reached) =>
          if token.kind = .endOfInput then (.ok [token], reached)
          else match tokensWithin count reached with
            | (.error error, final) => (.error error, final)
            | (.ok tokens, final) => (.ok (token :: tokens), final)

/-- Read all tokens up to the end of the text.  Every token but the last takes
at least one character, so their number is bounded by what lies ahead. -/
def tokens (cursor : Cursor) : Except LexicalError (List Token) × Cursor :=
  tokensWithin (cursor.ahead.length + 1) cursor

end Cursor

/-- The tokens of a program text. -/
def tokenize (source : String) : Except LexicalError (List Token) :=
  (Cursor.start source.toList).tokens.1

/-- A program text as it is handed in: with its last line ended. -/
def endLastLine (source : String) : String := source ++ "\n"

end PixelBrush
