import PixelBrush.Command
import PixelBrush.Location
import PixelBrush.Operator
import PixelBrush.Value

/-! # Tokens

A token is a piece of program text with its kind, its location and, for
names, literals and truth values, the value that it denotes.  Keywords are
sorted by what they do: commands, queries and operators each make up a family
of kinds.
-/

namespace PixelBrush

/-- The kinds of tokens.  Program texts never give rise to `other`, which
stands for the kinds that a token made by hand may have besides. -/
inductive TokenKind
  | identifier
  | number
  | boolean
  | string
  | command (drawn : Command)
  | query (asked : Query)
  | jump
  | binary (operator : BinaryOperator)
  | negation
  | arrow
  | colon
  | comma
  | leftParenthesis
  | rightParenthesis
  | leftBracket
  | rightBracket
  | comment
  | endOfLine
  | endOfInput
  | other (name : String)
  deriving DecidableEq

namespace TokenKind

def operatorName : BinaryOperator → String
  | .or => "OR"
  | .and => "AND"
  | .equal => "EQ"
  | .notEqual => "NOT_EQ"
  | .less => "LT"
  | .lessEqual => "LTE"
  | .greater => "GT"
  | .greaterEqual => "GTE"
  | .add => "PLUS"
  | .subtract => "MINUS"
  | .multiply => "STAR"
  | .divide => "SLASH"
  | .remainder => "PERCENT"
  | .power => "CARET"

def name : TokenKind → String
  | identifier => "IDENT"
  | number => "NUMBER"
  | boolean => "BOOLEAN"
  | string => "STRING"
  | command drawn => drawn.code
  | query asked => asked.code
  | jump => "GOTO"
  | binary operator => operatorName operator
  | negation => "NOT"
  | arrow => "ARROW"
  | colon => "COLON"
  | comma => "COMMA"
  | leftParenthesis => "LPAREN"
  | rightParenthesis => "RPAREN"
  | leftBracket => "LBRACKET"
  | rightBracket => "RBRACKET"
  | comment => "COMMENT"
  | endOfLine => "EOL"
  | endOfInput => "EOF"
  | other name => name

/-- The kinds that tokens of a program text can have. -/
def standard : List TokenKind :=
  [identifier, number, boolean, string, jump, negation, arrow, colon, comma,
      leftParenthesis, rightParenthesis, leftBracket, rightBracket, comment,
      endOfLine, endOfInput] ++
    Command.all.map command ++ Query.all.map query ++ BinaryOperator.all.map binary

def ofName (name : String) : TokenKind :=
  (standard.find? fun kind => kind.name == name).getD (other name)

end TokenKind

/-- A piece of program text, classified. -/
structure Token where
  kind : TokenKind
  text : String
  value : Payload := none
  location : Location := .start
  deriving DecidableEq

namespace Token

/-- A token in one line: its kind, its value if it has one, and its location.
There is none if a number in it has too many digits. -/
def summary? (token : Token) : Option String := do
  let value ← match token.value with
    | none => some ""
    | some value => (Payload.quoted? (some value)).map fun text => "(" ++ text ++ ")"
  return token.kind.name ++ value ++ "@" ++ (← Text.decimal? token.location.line) ++ ":" ++
    (← Text.decimal? token.location.column)

def row (token : Token) : String :=
  Text.padLeft 4 ' ' (toString token.location.line) ++ ":" ++
    Text.padRight 4 (toString token.location.column) ++ " " ++
    Text.padRight 16 token.kind.name ++ " " ++ Text.quoted token.text

/-- Whether two tokens stand for the same piece of text, whatever their
values. -/
def sameSpot (first second : Token) : Bool :=
  first.kind == second.kind && first.text == second.text && first.location == second.location

/-- Whether two tokens are equal, where a truth value equals the number that
it counts as. -/
def agrees (first second : Token) : Bool :=
  first.sameSpot second && first.value.agrees second.value

end Token
end PixelBrush
