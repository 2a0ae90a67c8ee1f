/-! # Line breaks in files

A line ends with a line feed, a carriage return, or a carriage return
followed by a line feed.  Text read from a file has one line feed for each.
-/

namespace PixelBrush
namespace Text

/-- Replace every line break by a single line feed. -/
def unifyLineBreaks : List Char → List Char
  | [] => []
  | '\r' :: '\n' :: later => '\n' :: unifyLineBreaks later
  | '\r' :: later => '\n' :: unifyLineBreaks later
  | character :: later => character :: unifyLineBreaks later

end Text
end PixelBrush
