import PixelBrush.Token.Reading

/-! # Token streams

A stream is a list of tokens with the index of the one that is to be read
next.  It can look ahead and back without reading.
-/

namespace PixelBrush

/-- A list of tokens and the index of the next one. -/
structure TokenStream where
  tokens : List Token
  index : Nat := 0

namespace TokenStream

def ahead (stream : TokenStream) : List Token :=
  stream.tokens.drop stream.index

/-- Look at the token at a distance from the next one.  Behind the last token
there is none to see.  A negative index counts from the end of the list, and
one that would lie before the first token even so gives `none`. -/
def peek? (stream : TokenStream) (distance : Int) : Option (Option Token) :=
  let index : Int := stream.index + distance
  let count : Int := stream.tokens.length
  if count ≤ index then some none
  else if 0 ≤ index then some (stream.tokens[index.toNat]?)
  else if -count ≤ index then some (stream.tokens[(count + index).toNat]?)
  else none

def atEnd (stream : TokenStream) : Bool :=
  stream.ahead.isEmpty

/-- Read from the next token on.  The index moves by the number of tokens
taken. -/
def read {α : Type} (stream : TokenStream) (reading : Reading α) :
    Except Complaint α × TokenStream :=
  let moved (left : List Token) : TokenStream :=
    { stream with index := stream.index + (stream.ahead.length - left.length) }
  match reading stream.ahead with
  | .ok result left => (.ok result, moved left)
  | .error complaint left => (.error complaint, moved left)

end TokenStream
end PixelBrush
