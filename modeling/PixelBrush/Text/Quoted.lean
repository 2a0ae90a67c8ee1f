import PixelBrush.Text.Printable

/-! # Quoted text

A text is shown between quotes, with an escape for each character that could
not be read off the page: the quote itself, the backslash, and whatever is
not printable.  Single quotes are used unless the text contains a single
quote and no double quote.
-/

namespace PixelBrush
namespace Text

/-- The lowercase hexadecimal digits of a number, padded to a fixed width. -/
def hexadecimal (width value : Nat) : List Char :=
  (Nat.toDigits 16 value).leftpad width '0'

def chooseQuote (text : List Char) : Char :=
  if text.contains '\'' && !text.contains '"' then '"' else '\''

/-- One character as it stands between two quotes. -/
def escape (quote character : Char) : List Char :=
  if character = quote ∨ character = '\\' then ['\\', character]
  else if character = '\n' then ['\\', 'n']
  else if character = '\r' then ['\\', 'r']
  else if character = '\t' then ['\\', 't']
  else if isPrintable character then [character]
  else if character.toNat < 0x100 then '\\' :: 'x' :: hexadecimal 2 character.toNat
  else if character.toNat < 0x10000 then '\\' :: 'u' :: hexadecimal 4 character.toNat
  else '\\' :: 'U' :: hexadecimal 8 character.toNat

def quoted (text : String) : String :=
  let quote := chooseQuote text.toList
  String.ofList (quote :: (text.toList.flatMap (escape quote) ++ [quote]))

end Text
end PixelBrush
