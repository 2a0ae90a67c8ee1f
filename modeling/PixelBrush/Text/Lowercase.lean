/-! # Lowercase forms

Keywords and color names are recognized in any letter case.  They are made of
ASCII letters only, so a text can match one of them only through characters
whose lowercase form contains an ASCII letter.
-/

namespace PixelBrush
namespace Text

/-- The lowercase form of a character, as far as it can contain an ASCII
letter.  Besides the ASCII capitals only the Kelvin sign and the dotted
capital I have such a form; the latter becomes a letter and a combining dot. -/
def lowercase (character : Char) : List Char :=
  if character = '\u212A' then ['k']
  else if character = '\u0130' then ['i', '\u0307']
  else [character.toLower]

/-- The lowercase form of a text, for comparison with an ASCII name. -/
def foldCase (text : List Char) : List Char :=
  text.flatMap lowercase

end Text
end PixelBrush
