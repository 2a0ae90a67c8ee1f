import PixelBrush.Complaint

/-! # Reading from a list of tokens

A reading takes tokens from the front of a list and gives a result together
with the tokens that are left.  A reading that fails gives its complaint, and
leaves the tokens from the one at which it stopped.
-/

namespace PixelBrush

/-- A computation that takes tokens from the front of a list. -/
abbrev Reading := EStateM Complaint (List Token)

namespace Reading

/-- The location of the first token, if there is one. -/
def here : List Token → Location
  | [] => .nowhere
  | token :: _ => token.location

def failAt {α : Type} (reason : Reason) (location : Location) : Reading α :=
  fun tokens => .error ⟨reason, location⟩ tokens

def fail {α : Type} (reason : Reason) : Reading α :=
  fun tokens => .error ⟨reason, here tokens⟩ tokens

def current? : Reading (Option Token) :=
  fun tokens => .ok tokens.head? tokens

def currentKind? : Reading (Option TokenKind) :=
  fun tokens => .ok (tokens.head?.map Token.kind) tokens

def remaining : Reading Nat :=
  fun tokens => .ok tokens.length tokens

def next? : Reading (Option Token) :=
  fun tokens => .ok tokens.head? tokens.tail

def next : Reading Token
  | [] => .error ⟨.tokenWanted, .nowhere⟩ []
  | token :: later => .ok token later

/-- Take the first token if it is of the given kind, and tell whether it is. -/
def accept (kind : TokenKind) : Reading Bool
  | [] => .ok false []
  | token :: later =>
      if token.kind = kind then .ok true later else .ok false (token :: later)

/-- Take the first token, which has to be of the given kind. -/
def expect (kind : TokenKind) (reason : Reason) : Reading Token
  | [] => .error ⟨reason, .nowhere⟩ []
  | token :: later =>
      if token.kind = kind then .ok token later
      else .error ⟨reason, token.location⟩ (token :: later)

end Reading
end PixelBrush
