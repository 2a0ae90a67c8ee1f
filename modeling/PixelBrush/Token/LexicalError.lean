import PixelBrush.Location
import PixelBrush.Text.Decimal

/-! # Lexical errors

Why no token can be read.  An unreadable text has a location; a number with
too many digits, or none, is refused wherever it stands.
-/

namespace PixelBrush

/-- Why no token can be read. -/
inductive LexicalError
  | unterminatedString (location : Location)
  | unrecognized (character : Char) (location : Location)
  | tooManyDigits (count : Nat)
  | noDigits
  deriving DecidableEq

namespace LexicalError

def location? : LexicalError → Option Location
  | unterminatedString location => some location
  | unrecognized _ location => some location
  | tooManyDigits _ | noDigits => none

def message : LexicalError → String
  | unterminatedString _ => "Unterminated string literal"
  | unrecognized character _ => "Unrecognized character: '" ++ character.toString ++ "'"
  | tooManyDigits count => Text.tooLongToRead count
  | noDigits => "invalid literal for int() with base 10: ''"

end LexicalError
end PixelBrush
