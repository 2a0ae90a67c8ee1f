import Mathlib.Data.Nat.Digits.Defs
import PixelBrush.Token.Lexer

/-! # The division of a text into lexemes

A text is made up of lexemes and of gaps between them.  Each lexeme is the
longest that its rule allows at its place, and each rule says which characters
may follow.  None of this speaks of a cursor: whether some lexemes are those of
a text is a matter of the text alone.
-/

namespace PixelBrush

/-- What a token is, wherever it stands in a text. -/
structure Lexeme where
  kind : TokenKind
  text : List Char
  value : Payload := none
  deriving DecidableEq

def Token.lexeme (token : Token) : Lexeme :=
  ⟨token.kind, token.text.toList, token.value⟩

namespace Lexeme

/-- A lexeme at a place. -/
def token (lexeme : Lexeme) (location : Location) : Token :=
  ⟨lexeme.kind, String.ofList lexeme.text, lexeme.value, location⟩

@[simp]
theorem lexeme_token (lexeme : Lexeme) (location : Location) :
    (lexeme.token location).lexeme = lexeme := by
  simp [token, Token.lexeme]

/-- What stands behind the last character of every text. -/
def endOfInput : Lexeme := ⟨.endOfInput, [], none⟩

/-- Whether a lexeme is no number with more digits than can be read. -/
def Readable (lexeme : Lexeme) : Prop :=
  lexeme.kind = .number → lexeme.text.length ≤ Text.digitLimit

instance (lexeme : Lexeme) : Decidable lexeme.Readable :=
  inferInstanceAs (Decidable (_ → _))

end Lexeme

namespace Segmentation

/-- A piece of text made of characters of one class, and behind it no more of
that class. -/
structure LongestRun (belongs : Char → Bool) (text rest : List Char) : Prop where
  all : ∀ character ∈ text, belongs character = true
  ends : ∀ character ∈ rest.head?, belongs character = false

/-- A longest run of word characters that starts like a word. -/
structure Word (text rest : List Char) : Prop where
  starts : ∃ first later, text = first :: later ∧ Cursor.startsWord first = true
  run : LongestRun Cursor.isWordCharacter text rest

/-- The number that a row of digits stands for, the last digit counting ones. -/
def decimalValue (digits : List Char) : Nat :=
  Nat.ofDigits 10 (digits.reverse.map fun digit => (Text.digitValue? digit).getD 0)

/-- Whether a character does not end a line. -/
def staysInLine (character : Char) : Bool :=
  character != '\r' && character != '\n'

/-- The lexeme that a text starts with, and the rest of that text. -/
inductive Picked : Lexeme → (rest : List Char) → Prop
  | endOfLine {rest : List Char} : Picked ⟨.endOfLine, ['\n'], none⟩ rest
  | comment {inside rest : List Char} (run : LongestRun staysInLine inside rest) :
      Picked ⟨.comment, '/' :: '/' :: inside, none⟩ rest
  | number {digits rest : List Char} (nonempty : digits ≠ [])
      (run : LongestRun Text.isDigit digits rest) :
      Picked ⟨.number, digits, some (.number (decimalValue digits))⟩ rest
  | keyword {text rest : List Char} {kind : TokenKind} {value : Payload} (word : Word text rest)
      (known : Cursor.keyword? (String.ofList (Text.foldCase text)) = some (kind, value)) :
      Picked ⟨kind, text, value⟩ rest
  | identifier {text rest : List Char} (word : Word text rest)
      (unknown : Cursor.keyword? (String.ofList (Text.foldCase text)) = none) :
      Picked ⟨.identifier, text, some (.string (String.ofList text))⟩ rest
  | string {inside rest : List Char} (unquoted : '"' ∉ inside) :
      Picked ⟨.string, '"' :: (inside ++ ['"']), some (.string (String.ofList inside))⟩ rest
  | longOperator {first second : Char} {rest : List Char} {kind : TokenKind}
      (known : Cursor.longOperator? first second = some kind) :
      Picked ⟨kind, [first, second], none⟩ rest
  | shortOperator {character : Char} {rest : List Char} {kind : TokenKind}
      (known : Cursor.shortOperator? character = some kind)
      (alone : ∀ next ∈ rest.head?, Cursor.longOperator? character next = none)
      (noComment : character = '/' → ∀ next ∈ rest.head?, next ≠ '/') :
      Picked ⟨kind, [character], none⟩ rest

/-- A text that starts neither with a gap nor with a lexeme, and what is wrong
with it. -/
inductive Stuck : (text : List Char) → (Location → LexicalError) → Prop
  | openString {inside : List Char} (unquoted : '"' ∉ inside) :
      Stuck ('"' :: inside) .unterminatedString
  | unrecognized {character : Char} {later : List Char}
      (visible : Text.isBlank character = false) (noDigit : Text.isDigit character = false)
      (noWord : Cursor.startsWord character = false) (noQuote : character ≠ '"')
      (short : Cursor.shortOperator? character = none)
      (long : ∀ next ∈ later.head?, Cursor.longOperator? character next = none) :
      Stuck (character :: later) (.unrecognized character)

/-- What may lie between lexemes, depending on the text behind it: blanks,
among which a line feed has to stand directly behind a carriage return, and a
carriage return has to take a line feed behind it along. -/
inductive Gap : (gap rest : List Char) → Prop
  | nil {rest : List Char} : Gap [] rest
  | blank {character : Char} {gap rest : List Char} (blank : Text.isBlank character = true)
      (inLine : staysInLine character = true) (later : Gap gap rest) :
      Gap (character :: gap) rest
  | lineBreak {gap rest : List Char} (later : Gap gap rest) : Gap ('\r' :: '\n' :: gap) rest
  | carriageReturn {gap rest : List Char} (alone : (gap ++ rest).head? ≠ some '\n')
      (later : Gap gap rest) : Gap ('\r' :: gap) rest

end Segmentation

open Segmentation in
/-- A text with its lexemes. -/
inductive Segmentation : (text : List Char) → List Lexeme → Prop
  | finished {gap : List Char} (between : Gap gap []) : Segmentation gap []
  | lexeme {gap rest : List Char} {lexeme : Lexeme} {lexemes : List Lexeme}
      (between : Gap gap (lexeme.text ++ rest)) (picked : Picked lexeme rest)
      (later : Segmentation rest lexemes) :
      Segmentation (gap ++ (lexeme.text ++ rest)) (lexeme :: lexemes)

end PixelBrush
