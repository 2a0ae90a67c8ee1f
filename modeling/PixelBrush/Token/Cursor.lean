import PixelBrush.Text.Digit
import PixelBrush.Text.Letter
import PixelBrush.Text.Lowercase
import PixelBrush.Token
import PixelBrush.Token.LexicalError

/-! # Reading single tokens

A cursor stands somewhere in a program text and sees what lies ahead of it.
Each reading operation takes a piece of text of one kind from under the
cursor, and leaves the cursor behind that piece, or, if it fails, where it
got stuck.
-/

namespace PixelBrush

/-- A place in a program text, with the text that lies ahead.  The offset
counts the characters passed. -/
structure Cursor where
  offset : Nat
  ahead : List Char
  location : Location
  deriving DecidableEq

namespace Cursor

def start (text : List Char) : Cursor := ⟨0, text, .start⟩

/-- Move over characters that do not end a line.  There need not be that many
left: behind the end of the text, the cursor still moves. -/
def skip (cursor : Cursor) (count : Nat) : Cursor :=
  ⟨cursor.offset + count, cursor.ahead.drop count, cursor.location.right count⟩

/-- Move over a text which lies ahead and in which lines may end. -/
def pass (cursor : Cursor) (text : List Char) : Cursor :=
  ⟨cursor.offset + text.length, cursor.ahead.drop text.length, cursor.location.after text⟩

/-- Let the next line start here. -/
def nextLine (cursor : Cursor) : Cursor :=
  { cursor with location := cursor.location.nextLine }

/-- The token made of the given text, if it starts at the cursor. -/
def token (cursor : Cursor) (kind : TokenKind) (text : List Char)
    (value : Payload := none) : Token :=
  ⟨kind, String.ofList text, value, cursor.location⟩

/-- Read the rest of the line as a comment. -/
def comment (cursor : Cursor) : Token × Cursor :=
  let text := cursor.ahead.takeWhile fun character => character != '\r' && character != '\n'
  (cursor.token .comment text, cursor.skip text.length)

def number (cursor : Cursor) : Except LexicalError Token × Cursor :=
  let digits := cursor.ahead.takeWhile Text.isDigit
  let value : Payload := some (.number (Text.digitsValue digits))
  let outcome :=
    if digits.length = 0 then .error .noDigits
    else if Text.digitLimit < digits.length then .error (.tooManyDigits digits.length)
    else .ok (cursor.token .number digits value)
  (outcome, cursor.skip digits.length)

def isWordCharacter (character : Char) : Bool :=
  Text.isLetter character || Text.isDigit character || Text.isNumeral character ||
    character == '_'

def startsWord (character : Char) : Bool :=
  Text.isLetter character || character == '_'

/-- The kind and the value that a lowercase word has as a keyword. -/
def keyword? : String → Option (TokenKind × Payload)
  | "spawn" => some (.command .spawn, none)
  | "color" => some (.command .color, none)
  | "size" => some (.command .size, none)
  | "drawline" => some (.command .drawLine, none)
  | "drawcircle" => some (.command .drawCircle, none)
  | "drawrectangle" => some (.command .drawRectangle, none)
  | "fill" => some (.command .fill, none)
  | "goto" => some (.jump, none)
  | "getactualx" => some (.query .actualX, none)
  | "getactualy" => some (.query .actualY, none)
  | "getcanvassize" => some (.query .canvasSize, none)
  | "getcolorcount" => some (.query .colorCount, none)
  | "isbrushcolor" => some (.query .isBrushColor, none)
  | "isbrushsize" => some (.query .isBrushSize, none)
  | "iscanvascolor" => some (.query .isCanvasColor, none)
  | "true" => some (.boolean, some (.boolean true))
  | "false" => some (.boolean, some (.boolean false))
  | "and" => some (.binary .and, none)
  | "or" => some (.binary .or, none)
  | "not" => some (.negation, none)
  | _ => none

/-- The kind and the value of a word: what it is as a keyword in any letter
case, or else an identifier that names itself. -/
def classifyWord (word : List Char) : TokenKind × Payload :=
  (keyword? (String.ofList (Text.foldCase word))).getD
    (.identifier, some (.string (String.ofList word)))

/-- Read all word characters ahead as a keyword or an identifier. -/
def word (cursor : Cursor) : Token × Cursor :=
  let text := cursor.ahead.takeWhile isWordCharacter
  let (kind, value) := classifyWord text
  (cursor.token kind text value, cursor.skip text.length)

/-- Read a string: the character at the cursor opens it, and the next quote
closes it.  Lines may end inside. -/
def string (cursor : Cursor) : Except LexicalError Token × Cursor :=
  let opening := cursor.ahead.take 1
  let inside := (cursor.ahead.drop 1).takeWhile (· != '"')
  let reached := (cursor.skip 1).pass inside
  match reached.ahead with
  | [] => (.error (.unterminatedString cursor.location), reached)
  | closing :: _ =>
      (.ok (cursor.token .string (opening ++ inside ++ [closing])
          (some (.string (String.ofList inside)))),
        reached.skip 1)

def longOperator? : Char → Char → Option TokenKind
  | '<', '-' => some .arrow
  | '=', '=' => some (.binary .equal)
  | '!', '=' => some (.binary .notEqual)
  | '>', '=' => some (.binary .greaterEqual)
  | '<', '=' => some (.binary .lessEqual)
  | '&', '&' => some (.binary .and)
  | '|', '|' => some (.binary .or)
  | _, _ => none

def shortOperator? : Char → Option TokenKind
  | '+' => some (.binary .add)
  | '-' => some (.binary .subtract)
  | '*' => some (.binary .multiply)
  | '/' => some (.binary .divide)
  | '%' => some (.binary .remainder)
  | '^' => some (.binary .power)
  | '>' => some (.binary .greater)
  | '<' => some (.binary .less)
  | ':' => some .colon
  | '(' => some .leftParenthesis
  | ')' => some .rightParenthesis
  | '[' => some .leftBracket
  | ']' => some .rightBracket
  | ',' => some .comma
  | _ => none

/-- The longest operator at the start of a text. -/
def operatorAt? : List Char → Option (TokenKind × List Char)
  | [] => none
  | [only] => (shortOperator? only).map (·, [only])
  | first :: second :: _ =>
      match longOperator? first second with
      | some kind => some (kind, [first, second])
      | none => (shortOperator? first).map (·, [first])

def operator? (cursor : Cursor) : Option (Token × Cursor) :=
  (operatorAt? cursor.ahead).map fun (kind, text) =>
    (cursor.token kind text, cursor.skip text.length)

end Cursor
end PixelBrush
