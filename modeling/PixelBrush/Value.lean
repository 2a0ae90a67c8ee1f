import PixelBrush.Text.Decimal
import PixelBrush.Text.Quoted

/-! # Values

A drawing program computes with numbers, booleans and strings.  Where a value
may be missing, as it may from a token, we speak of a payload.
-/

namespace PixelBrush

/-- The three kinds of values. -/
inductive Kind
  | number
  | boolean
  | string
  deriving DecidableEq

namespace Kind

def name : Kind → String
  | number => "number"
  | boolean => "boolean"
  | string => "string"

def adjective : Kind → String
  | number => "numeric"
  | boolean => "boolean"
  | string => "string"

def ofName? (word : String) : Option Kind :=
  [number, boolean, string].find? fun kind => kind.name == word

@[simp] theorem ofName?_name (kind : Kind) : ofName? kind.name = some kind := by
  cases kind <;> decide

end Kind

/-- What an expression evaluates to and a variable holds. -/
inductive Value
  | number (value : Int)
  | boolean (value : Bool)
  | string (value : String)
  deriving DecidableEq

namespace Value

def kind : Value → Kind
  | number _ => .number
  | boolean _ => .boolean
  | string _ => .string

end Value

/-- A value that may be missing.  Tokens carry payloads, and a tree repeats
them. -/
abbrev Payload := Option Value

namespace Payload

/-- A payload as plain text.  There is none for an integer with too many
digits. -/
def plain? : Payload → Option String
  | none => some "None"
  | some (.boolean true) => some "True"
  | some (.boolean false) => some "False"
  | some (.number value) => Text.decimal? value
  | some (.string text) => some text

/-- A payload as it is quoted: like plain text, but a string stands between
quotes. -/
def quoted? : Payload → Option String
  | some (.string text) => some (Text.quoted text)
  | payload => payload.plain?

/-- What is said about a payload without a value where a value is needed. -/
def missingValueMessage : String := "not a runtime value: None"

/-- A payload in which a truth value has given way to the number that it counts
as. -/
def counted : Payload → Payload
  | some (.boolean true) => some (.number 1)
  | some (.boolean false) => some (.number 0)
  | payload => payload

/-- Whether two payloads are equal, where a truth value equals the number that
it counts as. -/
def agrees (first second : Payload) : Bool :=
  decide (first.counted = second.counted)

@[simp] theorem counted_string (text : String) :
    counted (some (.string text)) = some (.string text) := rfl

theorem agrees_iff {first second : Payload} :
    first.agrees second = true ↔ first.counted = second.counted := by
  simp [agrees]

end Payload
end PixelBrush
