import PixelBrush.Proofs.Invariant

/-! # How runs end

A run goes on as long as it is running, with one statement after the other, and
then stays as it is.  Without a limit on the steps, every statement that is
carried out is counted, so that the count of steps says how far a run has come.
-/

namespace PixelBrush
namespace State

variable {settings : Settings} {painter : Painter} {budget : Nat} {state : State}
  {statement : Node}

theorem atLimit_of_unlimited (unlimited : settings.stepLimit = none) (state : State) :
    state.atLimit settings = none := by
  unfold atLimit
  rw [unlimited]
  rfl

theorem Attempted.steps_eq {step : Step}
    (attempted : Attempted settings painter budget state statement step)
    (below : state.atLimit settings = none) : step.state.steps = state.steps + 1 := by
  cases attempted with
  | refused reached =>
      rw [below] at reached
      cases reached
  | failed below fails => rfl
  | completed below carriedOut => exact carriedOut.steps

/-- A statement that fails leaves the counter where it is. -/
theorem Attempted.counter_of_fault {step : Step} {fault : Fault}
    (attempted : Attempted settings painter budget state statement step)
    (failed : step.fault = some fault) : step.state.counter = state.counter := by
  cases attempted with
  | refused reached => rfl
  | failed below fails => rfl
  | completed below carriedOut => cases failed

end State

namespace Job

variable {job : Job} {run : Run} {statement : Node} {count : Nat}

theorem proceed_add (job : Job) (first second : Nat) (run : Run) :
    job.proceed (first + second) run = job.proceed second (job.proceed first run) := by
  induction first generalizing run with
  | zero => rw [Nat.zero_add]; rfl
  | succ first induction =>
      rw [Nat.succ_add]
      exact induction (job.advance run)

theorem after_add (job : Job) (count further : Nat) :
    job.after (count + further) = job.proceed further (job.after count) :=
  job.proceed_add count further job.start

theorem isRunning_of_next? (next : job.next? run = some statement) : run.isRunning = true := by
  unfold next? at next
  unfold Run.isRunning
  cases stands : run.outcome with
  | running => rfl
  | finished | failed =>
      rw [stands] at next
      cases next

theorem next?_of_not_isRunning (ended : run.isRunning = false) : job.next? run = none := by
  cases next : job.next? run with
  | none => rfl
  | some statement =>
      rw [isRunning_of_next? next] at ended
      cases ended

theorem proceed_of_not_isRunning (ended : run.isRunning = false) (count : Nat) :
    job.proceed count run = run := by
  induction count with
  | zero => rfl
  | succ count induction =>
      rw [proceed_succ, induction, advance_of_next?_none (next?_of_not_isRunning ended)]

theorem outcome_of_isRunning (running : run.isRunning = true) : run.outcome = .running := by
  unfold Run.isRunning at running
  cases stands : run.outcome with
  | running => rfl
  | finished | failed =>
      rw [stands] at running
      cases running

theorem counter_lt_of_standing {state : State} (running : job.standing state = .running) :
    state.counter < job.statements.length := by
  by_contra passed
  unfold standing at running
  rw [if_neg passed] at running
  cases running

/-- A run that is running has not come to the end of the program. -/
theorem counter_lt_of_isRunning (running : (job.after count).isRunning = true) :
    (job.after count).state.counter < job.statements.length := by
  have within : (job.after count).outcome = .running →
      (job.after count).state.counter < job.statements.length := by
    apply after_induction (motive := fun run =>
      run.outcome = .running → run.state.counter < job.statements.length)
    · exact counter_lt_of_standing
    · intro run statement _ _
      unfold extend
      cases (job.stepOf run statement).fault with
      | some fault => exact fun running => by cases running
      | none => exact counter_lt_of_standing
  exact within (outcome_of_isRunning running)

theorem exists_next? (running : (job.after count).isRunning = true) :
    ∃ statement, job.next? (job.after count) = some statement := by
  unfold next?
  rw [outcome_of_isRunning running]
  exact ⟨_, List.getElem?_eq_getElem (counter_lt_of_isRunning running)⟩

theorem after_succ_of_next? (next : job.next? (job.after count) = some statement) :
    job.after (count + 1) =
      job.extend (job.after count) statement (job.stepOf (job.after count) statement) := by
  rw [after_succ, advance_of_next? next]

theorem steps_extend (run : Run) (statement : Node) (step : Step) :
    (job.extend run statement step).state.steps = step.state.steps := by
  unfold extend
  cases step.fault <;> rfl

theorem standing_ne_failed (job : Job) (state : State) (fault : Fault) (statement : Node) :
    job.standing state ≠ .failed fault statement := by
  unfold standing
  split <;> exact Outcome.noConfusion

/-- A run that has failed did so with a step, and is left in the state of that step. -/
theorem exists_step_of_failed {fault : Fault}
    (failed : (job.after count).outcome = .failed fault statement) :
    ∃ before : State, job.statements[before.counter]? = some statement ∧
      (before.step job.settings job.painting job.budget statement).fault = some fault ∧
      (before.step job.settings job.painting job.budget statement).state =
        (job.after count).state := by
  revert fault statement
  apply after_induction (motive := fun run => ∀ {statement fault},
    run.outcome = .failed fault statement →
      ∃ before : State, job.statements[before.counter]? = some statement ∧
        (before.step job.settings job.painting job.budget statement).fault = some fault ∧
        (before.step job.settings job.painting job.budget statement).state = run.state)
  · intro statement fault failed
    exact (standing_ne_failed _ _ _ _ failed).elim
  · intro run carriedOut _ next statement fault failed
    cases found : (job.stepOf run carriedOut).fault with
    | none =>
        rw [extend, found] at failed
        exact (standing_ne_failed _ _ _ _ failed).elim
    | some blamed =>
        rw [extend, found] at failed ⊢
        cases failed
        exact ⟨run.state, getElem?_of_next? next, found, rfl⟩

/-- The statements of a run are counted as long as it is running and the limit of
steps is not reached. -/
theorem steps_after_succ (next : job.next? (job.after count) = some statement)
    (below : (job.after count).state.atLimit job.settings = none) :
    (job.after (count + 1)).state.steps = (job.after count).state.steps + 1 := by
  have attempted := (job.after count).state.attempted job.settings job.painting job.budget statement
  rw [after_succ_of_next? next, steps_extend]
  exact attempted.steps_eq below

/-- A run that is running has been so all the time. -/
theorem isRunning_of_le {earlier : Nat} (running : (job.after count).isRunning = true)
    (order : earlier ≤ count) : (job.after earlier).isRunning = true := by
  by_contra stopped
  have gap : count = earlier + (count - earlier) := by omega
  rw [gap, after_add, proceed_of_not_isRunning (Bool.eq_false_iff.mpr stopped)] at running
  exact stopped running

/-- Whether a run ends with a statement, the last of a given number of them. -/
structure EndsAfter (job : Job) (count : Nat) : Prop where
  ended : (job.after count).isRunning = false
  running : ∀ earlier, earlier < count → (job.after earlier).isRunning = true

theorem EndsAfter.unique {other : Nat} (ends : job.EndsAfter count)
    (endsToo : job.EndsAfter other) : count = other := by
  rcases Nat.lt_trichotomy count other with less | same | more
  · exact absurd (endsToo.running count less) (Bool.eq_false_iff.mp ends.ended)
  · exact same
  · exact absurd (ends.running other more) (Bool.eq_false_iff.mp endsToo.ended)

/-- A run that has ended did so after some number of statements. -/
theorem exists_endsAfter (ended : (job.after count).isRunning = false) :
    ∃ earlier, earlier ≤ count ∧ job.EndsAfter earlier := by
  induction count with
  | zero => exact ⟨0, Nat.le_refl 0, ended, fun earlier before => by omega⟩
  | succ count induction =>
      cases running : (job.after count).isRunning with
      | false =>
          obtain ⟨earlier, atMost, ends⟩ := induction running
          exact ⟨earlier, Nat.le_succ_of_le atMost, ends⟩
      | true =>
          exact ⟨count + 1, Nat.le_refl _, ended, fun earlier before =>
            isRunning_of_le running (Nat.le_of_lt_succ before)⟩

/-- Without a limit, the count of steps is the number of statements. -/
theorem steps_after (unlimited : job.settings.stepLimit = none)
    (running : ∀ earlier, earlier < count → (job.after earlier).isRunning = true) :
    (job.after count).state.steps = count := by
  induction count with
  | zero => rfl
  | succ count induction =>
      obtain ⟨statement, next⟩ := exists_next? (running count (Nat.lt_succ_self count))
      rw [steps_after_succ next (State.atLimit_of_unlimited unlimited _),
        induction fun earlier before => running earlier (Nat.lt_succ_of_lt before)]

end Job
end PixelBrush
