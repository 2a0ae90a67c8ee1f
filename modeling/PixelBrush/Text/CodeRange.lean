/-! # Ranges of code points

A character class is a list of inclusive ranges of code points, listed in
increasing order, and a character belongs to it when its code point lies in
one of them.
-/

namespace PixelBrush
namespace Text

/-- Whether a code point lies in one of the given ranges.  Because the ranges
increase, the first range that does not end before the code point decides. -/
def inRanges : List (Nat × Nat) → Nat → Bool
  | [], _ => false
  | (first, last) :: later, code =>
      if code ≤ last then decide (first ≤ code) else inRanges later code

end Text
end PixelBrush
