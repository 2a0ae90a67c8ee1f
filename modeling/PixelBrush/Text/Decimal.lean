import PixelBrush.Text.Blank
import PixelBrush.Text.Digit

/-! # Decimal text of integers

Integers are unbounded, but their decimal text is not: neither reading nor
writing goes beyond 4300 digits.  Leading zeros count when reading, and the
sign never does.
-/

namespace PixelBrush
namespace Text

/-- The greatest number of digits that an integer's text may have. -/
def digitLimit : Nat := 4300

/-- What is said about a text that has too many digits to be read. -/
def tooLongToRead (count : Nat) : String :=
  "Exceeds the limit (4300 digits) for integer string conversion: value has " ++
    toString count ++ " digits; use sys.set_int_max_str_digits() to increase the limit"

/-- What is said about an integer that has too many digits to be written. -/
def tooLongToWrite : String :=
  "Exceeds the limit (4300 digits) for integer string conversion; " ++
    "use sys.set_int_max_str_digits() to increase the limit"

/-- The decimal text of an integer, unless it has too many digits. -/
def decimal? (value : Int) : Option String :=
  if value.natAbs < Nat.pow 10 digitLimit then some (toString value) else none

def digitsValue (digits : List Char) : Nat :=
  digits.foldl (fun value digit => 10 * value + (digitValue? digit).getD 0) 0

/-- The digits of a row in which single underscores may divide neighbors. -/
def groupedDigits? : List Char → Option (List Char)
  | [] => none
  | [digit] => if isDigit digit then some [digit] else none
  | digit :: '_' :: later =>
      if isDigit digit then (groupedDigits? later).map (digit :: ·) else none
  | digit :: next :: later =>
      if isDigit digit then (groupedDigits? (next :: later)).map (digit :: ·) else none

/-- The blanks that may surround an integer: all but the information
separators. -/
def surroundsInteger (character : Char) : Bool :=
  isBlank character && !(decide (0x1C ≤ character.toNat) && decide (character.toNat ≤ 0x1F))

def unsigned? (text : List Char) : Option Nat :=
  match groupedDigits? text with
  | some digits => if digits.length ≤ digitLimit then some (digitsValue digits) else none
  | none => none

/-- The integer that a text denotes: an optional sign and decimal digits,
with blanks around them. -/
def integer? (text : String) : Option Int :=
  match trim surroundsInteger text.toList with
  | '-' :: digits => (unsigned? digits).map (-Int.ofNat ·)
  | '+' :: digits => (unsigned? digits).map Int.ofNat
  | digits => (unsigned? digits).map Int.ofNat

/-- A text moved to the right end of a field. -/
def padLeft (width : Nat) (fill : Char) (text : String) : String :=
  String.ofList (text.toList.leftpad width fill)

/-- A text at the left end of a field of spaces. -/
def padRight (width : Nat) (text : String) : String :=
  String.ofList (text.toList.rightpad width ' ')

end Text
end PixelBrush
