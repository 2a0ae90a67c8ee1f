import PixelBrush.Text.CodeRange

/-! # Blank characters

Blanks are the characters that separate words without being seen: spaces of
any width, tabulation, line and page breaks, and the four information
separators.
-/

namespace PixelBrush
namespace Text

/-- Code points of blank characters, in increasing order. -/
def blankRanges : List (Nat × Nat) :=
  [(0x0009, 0x000D), (0x001C, 0x0020), (0x0085, 0x0085), (0x00A0, 0x00A0), (0x1680, 0x1680),
   (0x2000, 0x200A), (0x2028, 0x2029), (0x202F, 0x202F), (0x205F, 0x205F), (0x3000, 0x3000)]

def isBlank (character : Char) : Bool :=
  inRanges blankRanges character.toNat

/-- Remove the characters of one class from both ends of a text. -/
def trim (dropped : Char → Bool) (text : List Char) : List Char :=
  ((text.dropWhile dropped).reverse.dropWhile dropped).reverse

end Text
end PixelBrush
