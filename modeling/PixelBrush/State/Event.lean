import PixelBrush.Notification
import PixelBrush.State

/-! # Events of a run

While it goes on, a run notifies the painter and, if asked to, writes trace
lines.  Both are events, in the order in which they happen.
-/

namespace PixelBrush

/-- A line of a trace. -/
inductive TraceLine
  /-- A label takes the place of an earlier one of the same name. -/
  | redefinition (redefinition : Redefinition)
  /-- A statement is about to be carried out. -/
  | statement (counter : Nat) (type : String) (line : Int)
  /-- A jump is taken. -/
  | jump (label : Name) (target : Nat)
  deriving DecidableEq

namespace TraceLine

/-- A statement index as it is traced: with at least four digits. -/
def indexText (index : Nat) : String :=
  Text.padLeft 4 '0' (toString index)

/-- The text of a trace line. -/
def text : TraceLine → String
  | redefinition noted =>
      "TRACE duplicate label '" ++ noted.name.plain?.getD "" ++ "' at line " ++
        toString noted.line ++ " replaces line " ++ toString noted.replacedLine
  | statement counter type line =>
      "TRACE pc=" ++ indexText counter ++ " " ++ type ++ " line=" ++ toString line
  | jump label target =>
      "TRACE goto " ++ label.plain?.getD "" ++ " -> pc=" ++ indexText target

end TraceLine

/-- Something that happens in a run. -/
inductive Event
  | traced (line : TraceLine)
  | notified (notification : Notification)
  deriving DecidableEq

namespace Event

def notification? : Event → Option Notification
  | notified notification => some notification
  | traced _ => none

/-- The trace line of an event, if it is one. -/
def traceLine? : Event → Option TraceLine
  | traced line => some line
  | notified _ => none

/-- An event as a line of output, unless a number in it has too many digits. -/
def line? (colored : Bool) : Event → Option String
  | traced line => some line.text
  | notified notification => notification.sentence? colored

def notifications (events : List Event) : List Notification :=
  events.filterMap notification?

def traceLines (events : List Event) : List TraceLine :=
  events.filterMap traceLine?

end Event
end PixelBrush
