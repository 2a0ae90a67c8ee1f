import PixelBrush.Diagnosis
import PixelBrush.Proofs.Ending
import PixelBrush.Proofs.EvaluationAgreement

/-! # The limit of steps

A limit of steps cuts a run off and does nothing else.  A run that needs no more
statements than the limit allows is the run without a limit; any other stops at
the statement behind the last one allowed, of which nothing has been done.
-/

namespace PixelBrush

/-- The same settings with another limit of steps. -/
def Settings.withLimit (settings : Settings) (limit : Option Nat) : Settings :=
  { settings with stepLimit := limit }

/-- The same job with another limit of steps. -/
def Job.withLimit (job : Job) (limit : Option Nat) : Job :=
  { job with settings := job.settings.withLimit limit }

namespace State

variable (settings : Settings) (painter : Painter) (budget : Nat) (state : State)
  (statement : Node)

theorem perform_withLimit (limit : Option Nat) :
    state.perform (settings.withLimit limit) painter budget statement =
      state.perform settings painter budget statement := by
  have alike : View.Alike ⟨settings.withLimit limit, painter, some state⟩
      ⟨settings, painter, some state⟩ := View.alike_of_robot painter rfl rfl rfl
  have same := Evaluation.sameWithin_of_alike alike budget
  unfold perform Evaluation.boolean
  dsimp only
  rw [same.evaluate, same.number, same.color]
  rfl

/-- A limit that has not been reached makes no difference to a step. -/
theorem step_withLimit {limit : Option Nat}
    (below : state.atLimit (settings.withLimit limit) = none) :
    state.step (settings.withLimit limit) painter budget statement =
      state.step (settings.withLimit none) painter budget statement := by
  have free : state.atLimit (settings.withLimit none) = none := atLimit_of_unlimited rfl state
  unfold step
  rw [below, free, perform_withLimit, perform_withLimit]
  rfl

variable {settings state} in
theorem atLimit_of_lt {limit : Nat} (limited : settings.stepLimit = some limit)
    (below : state.steps < limit) : state.atLimit settings = none := by
  unfold atLimit
  rw [limited, Option.filter_some, if_neg (by simpa using below)]

variable {settings painter budget state statement} in
/-- A step beyond the limit leaves everything as it is. -/
theorem step_of_atLimit {limit : Nat} (reached : state.atLimit settings = some limit) :
    state.step settings painter budget statement =
      ⟨state, [], some (.ofMishap (.stepLimit limit) statement)⟩ := by
  unfold step
  rw [reached]

end State

theorem Mishap.message?_stepLimit {limit : Nat}
    (writable : (Text.decimal? limit).isSome = true) :
    (Mishap.stepLimit limit).message? =
      some ("Step limit exceeded (" ++ toString limit ++ " statements)") := by
  have shown : Text.decimal? limit = some (toString limit) := by
    unfold Text.decimal? at writable ⊢
    by_cases short : (limit : Int).natAbs < Nat.pow 10 Text.digitLimit
    · rw [if_pos short]
      rfl
    · rw [if_neg short] at writable
      cases writable
  simp [message?, shown]

/-- Beyond the limit, the report says so and names the statement that was not carried
out. -/
theorem Fault.runDiagnosis?_stepLimit {limit : Nat} {statement : Node} {location : Location}
    (writable : (Text.decimal? limit).isSome = true)
    (located : statement.location? = some location) :
    (ofMishap (.stepLimit limit) statement).runDiagnosis? statement =
      some ⟨.running, "Step limit exceeded (" ++ toString limit ++ " statements)", location⟩ := by
  have message := Mishap.message?_stepLimit writable
  have fault : ofMishap (.stepLimit limit) statement = mishap (.stepLimit limit) location := by
    unfold ofMishap
    rw [message, located]
  rw [fault]
  simp [runDiagnosis?, message]

namespace Job

variable {job : Job} {run : Run} {limit count : Nat} {statement : Node}

theorem advance_withLimit (below : run.state.steps < limit) :
    (job.withLimit (some limit)).advance run = (job.withLimit none).advance run := by
  cases next : job.next? run with
  | none =>
      have limited : (job.withLimit (some limit)).next? run = none := next
      have free : (job.withLimit none).next? run = none := next
      rw [advance_of_next?_none limited, advance_of_next?_none free]
  | some statement =>
      have limited : (job.withLimit (some limit)).next? run = some statement := next
      have free : (job.withLimit none).next? run = some statement := next
      have step : (job.withLimit (some limit)).stepOf run statement =
          (job.withLimit none).stepOf run statement :=
        State.step_withLimit _ _ _ _ _ (State.atLimit_of_lt rfl below)
      rw [advance_of_next? limited, advance_of_next? free, step]
      rfl

/-- Up to the limit, a run with a limit is the run without. -/
theorem after_withLimit (within : count ≤ limit) :
    (job.withLimit (some limit)).after count = (job.withLimit none).after count := by
  induction count with
  | zero => rfl
  | succ count induction =>
      rw [after_succ, after_succ, induction (by omega)]
      -- A run without a limit counts its statements, so the limit is not reached yet.
      cases running : ((job.withLimit none).after count).isRunning with
      | false =>
          rw [advance_of_next?_none (next?_of_not_isRunning running),
            advance_of_next?_none (next?_of_not_isRunning running)]
      | true =>
          have steps : ((job.withLimit none).after count).state.steps = count :=
            steps_after rfl fun earlier before => isRunning_of_le running (Nat.le_of_lt before)
          exact advance_withLimit (by omega)

/-- A run that has come to the limit stops at its next statement. -/
theorem after_limit_succ
    (running : ((job.withLimit none).after limit).isRunning = true)
    (next : (job.withLimit none).next? ((job.withLimit none).after limit) = some statement) :
    (job.withLimit (some limit)).after (limit + 1) =
      { state := ((job.withLimit none).after limit).state
        trail := ⟨((job.withLimit none).after limit).state, [],
          some (.ofMishap (.stepLimit limit) statement)⟩ :: ((job.withLimit none).after limit).trail
        outcome := .failed (.ofMishap (.stepLimit limit) statement) statement } := by
  have steps : ((job.withLimit none).after limit).state.steps = limit :=
    steps_after rfl fun earlier before => isRunning_of_le running (Nat.le_of_lt before)
  have reached : ((job.withLimit none).after limit).state.atLimit
      (job.withLimit (some limit)).settings = some limit :=
    State.atLimit_of_le rfl (Nat.le_of_eq steps.symm)
  have same : (job.withLimit (some limit)).after limit = (job.withLimit none).after limit :=
    after_withLimit (Nat.le_refl limit)
  have limited : (job.withLimit (some limit)).next? ((job.withLimit (some limit)).after limit) =
      some statement := by
    rw [same]
    exact next
  rw [after_succ_of_next? limited, same, stepOf, State.step_of_atLimit reached]
  rfl

theorem endsAfter_limit_succ (running : ((job.withLimit none).after limit).isRunning = true) :
    (job.withLimit (some limit)).EndsAfter (limit + 1) where
  ended := by
    obtain ⟨statement, next⟩ := exists_next? running
    rw [after_limit_succ running next]
    rfl
  running earlier before := by
    rw [after_withLimit (Nat.le_of_lt_succ before)]
    exact isRunning_of_le running (Nat.le_of_lt_succ before)

theorem EndsAfter.withLimit (ends : (job.withLimit none).EndsAfter count) (within : count ≤ limit) :
    (job.withLimit (some limit)).EndsAfter count where
  ended := by
    rw [after_withLimit within]
    exact ends.ended
  running earlier before := by
    rw [after_withLimit (by omega)]
    exact ends.running earlier before

/-- A run with a limit of steps ends. -/
theorem exists_endsAfter_of_limited (job : Job)
    (limited : job.settings.stepLimit.isSome = true) : ∃ count, job.EndsAfter count := by
  obtain ⟨limit, limited⟩ := Option.isSome_iff_exists.mp limited
  have same : job.withLimit (some limit) = job := by
    unfold withLimit Settings.withLimit
    rw [← limited]
  rw [← same]
  cases running : ((job.withLimit none).after limit).isRunning with
  | true => exact ⟨limit + 1, endsAfter_limit_succ running⟩
  | false =>
      obtain ⟨count, within, ends⟩ := exists_endsAfter running
      exact ⟨count, ends.withLimit within⟩

/-- A run with a limit of steps is the run without one, cut off at the limit.  If
the run without a limit ends in time, both are the same, and the steps are the
statements carried out.  Otherwise the run with the limit fails at the
statement that comes next: the state and the events are still those that the
other run has come to, and the report names the limit and the place of that
statement.  In either case it ends. -/
theorem after_withLimit_cutOff (job : Job) (limit : Nat) :
    let free := job.withLimit none
    let limited := job.withLimit (some limit)
    (∀ count, count ≤ limit → free.EndsAfter count →
      limited.EndsAfter count ∧ limited.after count = free.after count ∧
      (free.after count).state.steps = count) ∧
    ((∀ count, count ≤ limit → ¬ free.EndsAfter count) →
      limited.EndsAfter (limit + 1) ∧
      ∃ statement, free.next? (free.after limit) = some statement ∧
        (limited.after (limit + 1)).outcome =
          .failed (.ofMishap (.stepLimit limit) statement) statement ∧
        (limited.after (limit + 1)).state = (free.after limit).state ∧
        (limited.after (limit + 1)).events = (free.after limit).events ∧
        (limited.after (limit + 1)).state.steps = limit ∧
        ((Text.decimal? limit).isSome = true → ∀ location, statement.location? = some location →
          (Fault.ofMishap (.stepLimit limit) statement).runDiagnosis? statement =
            some ⟨.running, "Step limit exceeded (" ++ toString limit ++ " statements)",
              location⟩)) ∧
    ∃ count, count ≤ limit + 1 ∧ limited.EndsAfter count := by
  intro free limited
  refine ⟨?_, ?_, ?_⟩
  · intro count within ends
    exact ⟨ends.withLimit within, after_withLimit within, steps_after rfl ends.running⟩
  · intro late
    have running : (free.after limit).isRunning = true := by
      by_contra stopped
      obtain ⟨count, within, ends⟩ := exists_endsAfter (Bool.eq_false_iff.mpr stopped)
      exact late count within ends
    have steps : (free.after limit).state.steps = limit :=
      steps_after rfl fun earlier before => isRunning_of_le running (Nat.le_of_lt before)
    obtain ⟨statement, next⟩ := exists_next? running
    refine ⟨endsAfter_limit_succ running, statement, next, ?_⟩
    rw [after_limit_succ running next]
    refine ⟨rfl, rfl, ?_, steps, ?_⟩
    · simp [Run.events, Run.steps, free]
    · exact fun writable location located => Fault.runDiagnosis?_stepLimit writable located
  · cases running : (free.after limit).isRunning with
    | true => exact ⟨limit + 1, Nat.le_refl _, endsAfter_limit_succ running⟩
    | false =>
        obtain ⟨count, within, ends⟩ := exists_endsAfter running
        exact ⟨count, Nat.le_succ_of_le within, ends.withLimit within⟩

end Job
end PixelBrush
