import PixelBrush.Proofs.Progress
import PixelBrush.State.Run

/-! # Runs, one statement after the other

What holds at the start of a run, and goes on to hold when the next statement
is carried out, holds after any number of statements.
-/

namespace PixelBrush

namespace Run

/-- What the painter is told in the course of a run. -/
def notifications (run : Run) : List Notification :=
  Event.notifications run.events

/-- Whether a run has ended with a fault. -/
def hasFailed (run : Run) : Bool :=
  match run.outcome with
  | .failed .. => true
  | _ => false

theorem hasFailed_of_isRunning {run : Run} (running : run.isRunning = true) :
    run.hasFailed = false := by
  unfold isRunning at running
  unfold hasFailed
  cases stands : run.outcome with
  | running | finished => rfl
  | failed =>
      rw [stands] at running
      cases running

end Run

namespace Job

variable {job : Job} {run : Run} {statement : Node}

/-- The statement that a run carries out next, unless it has ended. -/
def next? (job : Job) (run : Run) : Option Node :=
  match run.outcome with
  | .running => job.statements[run.state.counter]?
  | _ => none

/-- The step that a statement amounts to when a run has come to it. -/
def stepOf (job : Job) (run : Run) (statement : Node) : Step :=
  run.state.step job.settings job.painting job.budget statement

theorem proceed_succ (job : Job) (count : Nat) (run : Run) :
    job.proceed (count + 1) run = job.advance (job.proceed count run) := by
  induction count generalizing run with
  | zero => rfl
  | succ count induction => exact induction (job.advance run)

theorem after_succ (job : Job) (count : Nat) :
    job.after (count + 1) = job.advance (job.after count) :=
  job.proceed_succ count job.start

theorem advance_of_next? (next : job.next? run = some statement) :
    job.advance run = job.extend run statement (job.stepOf run statement) := by
  unfold next? at next
  unfold advance
  cases stands : run.outcome with
  | running =>
      rw [stands] at next
      dsimp only at next ⊢
      rw [next]
      rfl
  | finished | failed =>
      rw [stands] at next
      cases next

theorem advance_of_next?_none (ended : job.next? run = none) : job.advance run = run := by
  unfold next? at ended
  unfold advance
  cases stands : run.outcome with
  | running =>
      rw [stands] at ended
      dsimp only at ended ⊢
      rw [ended]
  | finished | failed => rfl

/-- The principle of induction over a run. -/
theorem after_induction {motive : Run → Prop} (start : motive job.start)
    (extend : ∀ run statement, motive run → job.next? run = some statement →
      motive (job.extend run statement (job.stepOf run statement)))
    (count : Nat) : motive (job.after count) := by
  induction count with
  | zero => exact start
  | succ count induction =>
      rw [after_succ]
      cases next : job.next? (job.after count) with
      | none =>
          rw [advance_of_next?_none next]
          exact induction
      | some statement =>
          rw [advance_of_next? next]
          exact extend _ _ induction next

theorem getElem?_of_next? (next : job.next? run = some statement) :
    job.statements[run.state.counter]? = some statement := by
  unfold next? at next
  cases stands : run.outcome with
  | running =>
      rw [stands] at next
      exact next
  | finished | failed =>
      rw [stands] at next
      cases next

theorem trail_extend (run : Run) (statement : Node) (step : Step) :
    (job.extend run statement step).trail = step :: run.trail := by
  unfold extend
  cases step.fault <;> rfl

theorem events_extend (run : Run) (statement : Node) (step : Step) :
    (job.extend run statement step).events = run.events ++ step.events := by
  unfold Run.events Run.steps
  rw [trail_extend]
  simp

@[simp]
theorem robot_extend (run : Run) (statement : Node) (step : Step) :
    (job.extend run statement step).state.robot = step.state.robot := by
  unfold extend
  cases step.fault <;> rfl

theorem hasFailed_extend (run : Run) (statement : Node) (step : Step) :
    (job.extend run statement step).hasFailed = step.fault.isSome := by
  unfold extend Run.hasFailed
  cases step.fault with
  | some fault => rfl
  | none =>
      unfold standing
      by_cases within : step.state.moveOn.counter < job.statements.length
      · rw [if_pos within]
        rfl
      · rw [if_neg within]
        rfl

@[simp]
theorem notifications_extend (run : Run) (statement : Node) (step : Step) :
    (job.extend run statement step).notifications =
      run.notifications ++ Event.notifications step.events := by
  unfold Run.notifications
  rw [events_extend, Event.notifications_append]

/-- What the painter has been told and where the robot stands change together, with
one effect after the other. -/
theorem notifications_induction {job : Job} {motive : Robot → List Notification → Prop}
    (start : motive {} [])
    (concat : ∀ robot after notification log, motive robot log →
      Effect job.settings robot after notification → motive after (log ++ [notification]))
    (count : Nat) : motive (job.after count).state.robot (job.after count).notifications := by
  refine after_induction (motive := fun run => motive run.state.robot run.notifications)
    start ?_ count
  intro run statement holds next
  rw [robot_extend, notifications_extend]
  have reports := run.state.reports job.settings job.painting job.budget statement
  cases reports with
  | nothing same silent inactive =>
      rw [stepOf, same, silent, List.append_nil]
      exact holds
  | effect effect told active =>
      rw [stepOf, told]
      exact concat _ _ _ _ holds effect

end Job
end PixelBrush
