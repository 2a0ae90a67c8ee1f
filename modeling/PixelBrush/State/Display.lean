import PixelBrush.State.Run

/-! # Displayed runs

A painter may put every notification into a sentence as soon as it is told, one
line for each.  A sentence that cannot be written breaks the run off in the
middle of the statement: the notification has been noted by then, and the robot
has changed only if the command notifies last.
-/

namespace PixelBrush

/-- Whether the command behind a notification changes the robot first. -/
def Notification.comesLast : Notification → Bool
  | spawn .. | color .. | size .. => true
  | line .. | circle .. | rectangle .. | fill .. => false

/-- What comes of a step, taken in a state, whose notification is put into a sentence. -/
def Step.displayed (colored : Bool) (before : State) (step : Step) : Step :=
  match (Event.notifications step.events).find? fun told => (told.sentence? colored).isNone with
  | none => step
  | some told =>
      { step with
        state := if told.comesLast then step.state else { step.state with robot := before.robot }
        fault := some .tooManyDigits }

/-- The sentences about what happened in a run. -/
def Run.display (colored : Bool) (run : Run) : List String :=
  (Event.notifications run.events).filterMap (Notification.sentence? colored)

namespace Job

/-- Carry out the next statement of a displayed run that has not ended. -/
def advanceDisplayed (job : Job) (colored : Bool) (run : Run) : Run :=
  match run.outcome, job.statements[run.state.counter]? with
  | .running, some statement =>
      job.extend run statement
        ((run.state.step job.settings job.painting job.budget statement).displayed colored
          run.state)
  | _, _ => run

/-- The displayed run after at most the given number of statements. -/
def displayedAfter (job : Job) (colored : Bool) : (count : Nat) → Run
  | 0 => job.start
  | count + 1 => job.advanceDisplayed colored (job.displayedAfter colored count)

end Job
end PixelBrush
