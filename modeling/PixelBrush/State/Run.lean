import PixelBrush.State.Labels
import PixelBrush.State.Step

/-! # Running a program

A run carries out the statement at the counter, moves the counter on by one,
and goes on until the counter has passed the last statement or a statement
fails.  A jump sets the counter to a label, so that the run goes on behind
the label.  A program may run forever, so a run is advanced by one statement
at a time, as often as one likes; once it has ended it stays as it is.
-/

namespace PixelBrush

/-- How a run stands. -/
inductive Outcome
  | running
  | finished
  | failed (fault : Fault) (statement : Node)

/-- What stays fixed throughout a run. -/
structure Job where
  settings : Settings
  painting : Painter
  statements : List Node
  budget : Nat := Node.nestingLimit

/-- A run so far: the state that it has reached, the steps that have been
taken with the latest first, and how it stands. -/
structure Run where
  state : State
  trail : List Step := []
  outcome : Outcome

namespace Run

def isRunning (run : Run) : Bool :=
  match run.outcome with
  | .running => true
  | _ => false

def steps (run : Run) : List Step :=
  run.trail.reverse

def events (run : Run) : List Event :=
  run.steps.flatMap Step.events

/-- The state after each statement that did not fail, before the counter
moves on. -/
def history (run : Run) : List State :=
  (run.steps.filter fun step => step.fault.isNone).map Step.state

end Run

namespace Job

/-- How a run stands that has reached a state without failing. -/
def standing (job : Job) (state : State) : Outcome :=
  if state.counter < job.statements.length then .running else .finished

/-- The run of which nothing has been carried out. -/
def start (job : Job) : Run :=
  let state := State.initial job.statements
  { state, outcome := job.standing state }

/-- The trace lines about redefined labels, which come before all others. -/
def opening (job : Job) : List Event :=
  if job.settings.trace then
    job.start.state.redefinitions.map fun noted => .traced (.redefinition noted)
  else []

/-- Add the step of a statement to a run.  The run ends if the step fails;
otherwise the counter moves on. -/
def extend (job : Job) (run : Run) (statement : Node) (step : Step) : Run :=
  match step.fault with
  | some fault =>
      { state := step.state, trail := step :: run.trail, outcome := .failed fault statement }
  | none =>
      { state := step.state.moveOn, trail := step :: run.trail,
        outcome := job.standing step.state.moveOn }

/-- Carry out the next statement of a run that has not ended. -/
def advance (job : Job) (run : Run) : Run :=
  match run.outcome, job.statements[run.state.counter]? with
  | .running, some statement =>
      job.extend run statement
        (run.state.step job.settings job.painting job.budget statement)
  | _, _ => run

/-- Carry out at most the given number of further statements. -/
def proceed (job : Job) : (count : Nat) → Run → Run
  | 0, run => run
  | count + 1, run => job.proceed count (job.advance run)

/-- The run after at most the given number of statements. -/
def after (job : Job) (count : Nat) : Run :=
  job.proceed count job.start

end Job
end PixelBrush
