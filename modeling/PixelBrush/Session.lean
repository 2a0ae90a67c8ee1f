import PixelBrush.State.Run

/-! # Sessions

A session keeps one painting and one log of notifications over several runs
and single steps.  Every run starts from a state of its own, and leaves it
behind for the steps that follow.
-/

namespace PixelBrush

/-- What lasts from one run to the next. -/
structure Session where
  settings : Settings
  painting : Painting
  log : List Notification := []
  state : Option State := none
  budget : Nat := Node.nestingLimit

namespace Session

def setCell (session : Session) (x y : Int) (text : Option String) : Session :=
  { session with painting := session.painting.setCell x y text }

/-- Add the notifications among some events to the log. -/
def record (session : Session) (events : List Event) : Session :=
  { session with log := session.log ++ Event.notifications events }

/-- What is said about a tree that is no program where one has to be. -/
def programWantedMessage : String := "Interpreter expects a Program node at the top"

/-- The job of running a program, if the tree is one. -/
def job? (session : Session) : Node → Option Job
  | .program statements _ =>
      some ⟨session.settings, session.painting, statements, session.budget⟩
  | _ => none

/-- Take over the state and the notifications of a run. -/
def conclude (session : Session) (run : Run) : Session :=
  { session.record run.events with state := some run.state }

/-- Carry out statements one by one, without moving the counter on, until one
fails.  The first of them needs the state that a run has left behind.  The
result tells what happened and which fault, if any, came up. -/
def perform (session : Session) : List Node → Session × List Event × Option Fault
  | [] => (session, [], none)
  | statement :: later =>
      match session.state with
      | none => (session, [], some .noRun)
      | some state =>
          let step := state.step session.settings session.painting session.budget statement
          let stepped := { session.record step.events with state := some step.state }
          match step.fault with
          | some fault => (stepped, step.events, some fault)
          | none =>
              let (final, events, fault) := stepped.perform later
              (final, step.events ++ events, fault)

/-- Evaluate an expression in the state that the last run and the steps after
it have left behind. -/
def evaluate (session : Session) (expression : Node) : Except Fault Value :=
  Evaluation.evaluate ⟨session.settings, session.painting, session.state⟩ session.budget
    expression

/-- Whether a cell lies on the canvas of the last run. -/
def inBounds (session : Session) (x y : Int) : Except Fault Bool :=
  match session.state with
  | some _ => .ok (session.settings.inBounds x y)
  | none => .error .noRun

end Session
end PixelBrush
