import PixelBrush.Proofs.LabelTable
import PixelBrush.Proofs.Run
import PixelBrush.Proofs.Validity

/-! # What holds throughout a run

A run keeps the labels with which it starts and does not pass the limit of
steps.  Its counter stays within the program: a jump leads to a label, which is
one of the statements, so that the counter does not pass the end when it moves
on from there.
-/

namespace PixelBrush
namespace State

/-- What a statement leaves alone, and where it may set the counter. -/
structure Frame (before after : State) : Prop where
  labels : after.labels = before.labels
  redefinitions : after.redefinitions = before.redefinitions
  counter : after.counter = before.counter ∨
    ∃ name, before.labels.find? name = some after.counter

variable {settings : Settings} {painter : Painter} {budget : Nat} {state reached : State}
  {statement : Node} {events : List Event}

theorem CarriedOut.frame
    (carriedOut : CarriedOut settings painter budget state statement reached events) :
    Frame state reached := by
  cases carriedOut with
  | assignment evaluated => exact ⟨rfl, rfl, .inl rfl⟩
  | instruction effect => exact ⟨rfl, rfl, .inl rfl⟩
  | jump held known => exact ⟨rfl, rfl, .inr ⟨_, known⟩⟩
  | pass held => exact ⟨rfl, rfl, .inl rfl⟩
  | label => exact ⟨rfl, rfl, .inl rfl⟩

theorem CarriedOut.steps
    (carriedOut : CarriedOut settings painter budget state statement reached events) :
    reached.steps = state.steps := by
  cases carriedOut <;> rfl

theorem Attempted.frame {step : Step}
    (attempted : Attempted settings painter budget state statement step) :
    Frame state step.state := by
  cases attempted with
  | refused reached => exact ⟨rfl, rfl, .inl rfl⟩
  | failed below fails => exact ⟨rfl, rfl, .inl rfl⟩
  | completed below carriedOut =>
      -- Counting the statement has changed nothing that a frame speaks of.
      have frame := carriedOut.frame
      exact ⟨frame.labels, frame.redefinitions, frame.counter⟩

theorem atLimit_of_le {limit : Nat} (limited : settings.stepLimit = some limit)
    (reached : limit ≤ state.steps) : state.atLimit settings = some limit := by
  unfold atLimit
  rw [limited, Option.filter_some, if_pos (decide_eq_true reached)]

theorem Attempted.steps_le {step : Step} {limit : Nat}
    (attempted : Attempted settings painter budget state statement step)
    (limited : settings.stepLimit = some limit) (within : state.steps ≤ limit) :
    step.state.steps ≤ limit := by
  have below (free : state.atLimit settings = none) : state.steps < limit := by
    by_contra reached
    rw [atLimit_of_le limited (by omega)] at free
    cases free
  cases attempted with
  | refused reached => exact within
  | failed none fails => exact below none
  | completed none carriedOut =>
      rw [carriedOut.steps]
      exact below none

end State

/-- What holds of every run of a job, wherever it stands. -/
structure Run.Sound (job : Job) (run : Run) : Prop where
  counter : run.state.counter ≤ job.statements.length
  finished : run.outcome = .finished → run.state.counter = job.statements.length
  valid : run.state.Valid job.settings
  labels : run.state.labels = (State.initial job.statements).labels
  redefinitions : run.state.redefinitions = (State.initial job.statements).redefinitions
  steps : ∀ limit, job.settings.stepLimit = some limit → run.state.steps ≤ limit

namespace Job

variable {job : Job} {run : Run} {statement : Node} {step : Step}

theorem counter_of_finished {state : State} (finished : job.standing state = .finished)
    (within : state.counter ≤ job.statements.length) :
    state.counter = job.statements.length := by
  unfold standing at finished
  by_cases running : state.counter < job.statements.length
  · rw [if_pos running] at finished
    cases finished
  · omega

theorem sound_start (job : Job) : job.start.Sound job where
  counter := Nat.zero_le _
  finished finished := counter_of_finished finished (Nat.zero_le _)
  valid := State.valid_initial job.settings job.statements
  labels := rfl
  redefinitions := rfl
  steps limit _ := Nat.zero_le limit

theorem counter_lt_of_next? (next : job.next? run = some statement) :
    run.state.counter < job.statements.length :=
  (List.getElem?_eq_some_iff.mp (getElem?_of_next? next)).1

/-- Before the counter moves on, it is the index of a statement: the one that was
carried out, or a label. -/
theorem counter_step_lt (sound : run.Sound job) (next : job.next? run = some statement) :
    (job.stepOf run statement).state.counter < job.statements.length := by
  have attempted :=
    run.state.attempted job.settings job.painting job.budget statement
  rcases attempted.frame.counter with same | ⟨name, known⟩
  · rw [stepOf, same]
    exact counter_lt_of_next? next
  · rw [sound.labels] at known
    rcases State.getElem?_of_find?_labels known with ⟨spelling, location, -, stands⟩
    exact (List.getElem?_eq_some_iff.mp stands).1

theorem sound_extend (sound : run.Sound job) (next : job.next? run = some statement) :
    (job.extend run statement (job.stepOf run statement)).Sound job := by
  have within := counter_step_lt sound next
  have attempted :=
    run.state.attempted job.settings job.painting job.budget statement
  have frame := attempted.frame
  have valid := sound.valid.step job.painting job.budget statement
  have steps limit (limited : job.settings.stepLimit = some limit) :=
    attempted.steps_le limited (sound.steps limit limited)
  rw [← stepOf] at frame valid steps
  have labels := frame.labels.trans sound.labels
  have redefinitions := frame.redefinitions.trans sound.redefinitions
  unfold extend
  cases (job.stepOf run statement).fault with
  | some fault =>
      exact ⟨Nat.le_of_lt within, (by cases ·), valid, labels, redefinitions, steps⟩
  | none =>
      have movedWithin : (job.stepOf run statement).state.moveOn.counter ≤
          job.statements.length := within
      exact ⟨movedWithin, fun finished => counter_of_finished finished movedWithin,
        ⟨valid.robot, valid.kinds⟩, labels, redefinitions, steps⟩

theorem sound_after (job : Job) (count : Nat) : (job.after count).Sound job :=
  after_induction (motive := fun run => run.Sound job) job.sound_start
    (fun _ _ sound next => sound_extend sound next) count

theorem spawned_advance (spawned : run.state.robot.spawned = true) :
    (job.advance run).state.robot.spawned = true := by
  cases next : job.next? run with
  | none =>
      rw [advance_of_next?_none next]
      exact spawned
  | some statement =>
      rw [advance_of_next? next, robot_extend]
      exact State.spawned_step spawned job.painting job.budget statement

theorem spawned_after {earlier count : Nat} (order : earlier ≤ count)
    (spawned : (job.after earlier).state.robot.spawned = true) :
    (job.after count).state.robot.spawned = true := by
  induction order with
  | refl => exact spawned
  | step order induction =>
      rw [after_succ]
      exact spawned_advance induction

/-- Every run is sound after any number of statements, and a robot that has been
spawned stays so.  Single steps from any valid state lead to valid states as
well, whether they fail or not. -/
theorem sound_after_and_valid_of_reaches (job : Job) :
    (∀ count, (job.after count).Sound job) ∧
    (∀ earlier count, earlier ≤ count → (job.after earlier).state.robot.spawned = true →
      (job.after count).state.robot.spawned = true) ∧
    (∀ first last, State.Reaches job.settings first last → first.Valid job.settings →
      last.Valid job.settings ∧ (first.robot.spawned = true → last.robot.spawned = true)) := by
  refine ⟨job.sound_after, ?_, ?_⟩
  · intro earlier count order spawned
    exact spawned_after order spawned
  · intro first last reaches valid
    exact ⟨reaches.valid valid, reaches.spawned⟩

end Job
end PixelBrush
