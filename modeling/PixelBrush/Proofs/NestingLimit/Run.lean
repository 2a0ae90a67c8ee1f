import PixelBrush.Diagnosis
import PixelBrush.Proofs.Grammar.Correctness
import PixelBrush.Proofs.InPlace
import PixelBrush.Proofs.Kinds
import PixelBrush.Proofs.NestingLimit.Evaluation

/-! # The nesting limit of a run

Two runs of a program that differ in their nesting limit are the same run, until the one
with the lower limit comes to a statement that nests too deeply for it.  There it ends,
and all that is left of this statement is that it has been counted.
-/

namespace PixelBrush

namespace State

variable {settings : Settings} {painter : Painter} {budget : Nat} {state : State}
  {statement : Node}

/-- Whatever is found nested too deeply stands somewhere in the text. -/
theorem exists_location_of_tooDeep
    (failed : state.perform settings painter budget statement = .error .tooDeep) :
    ∃ location, statement.location? = some location := by
  cases statement with
  | text | missing => cases failed
  | _ => exact ⟨_, rfl⟩

/-- A step that finds nesting too deep has counted and announced its statement. -/
theorem step_of_tooDeep
    (failed : (state.step settings painter budget statement).fault = some .tooDeep) :
    state.step settings painter budget statement =
        ⟨state.count, state.announcement settings statement, some .tooDeep⟩ ∧
      ∃ location, statement.location? = some location := by
  have attempted := state.attempted settings painter budget statement
  generalize state.step settings painter budget statement = step at attempted failed ⊢
  cases attempted with
  | refused reached =>
      exact absurd (Option.some.inj failed) (Evaluation.ofMishap_ne_tooDeep _ _)
  | failed below fails =>
      obtain rfl := Option.some.inj failed
      exact ⟨rfl, exists_location_of_tooDeep fails⟩
  | completed below carriedOut => cases failed

end State

theorem Fault.runDiagnosis?_tooDeep {statement : Node} {location : Location}
    (stands : statement.location? = some location) :
    tooDeep.runDiagnosis? statement =
      some ⟨.running, "Expression nested too deeply", location⟩ := by
  rw [runDiagnosis?, stands]
  rfl

/-- Whether a run has ended because a statement nests too deeply. -/
def Run.IsCutOff (run : Run) : Prop :=
  ∃ statement, run.outcome = .failed .tooDeep statement

namespace Job

variable {job : Job} {run : Run} {statement : Node} {fault : Fault} {count : Nat}

/-- A run that has failed did so with the last of its statements. -/
theorem exists_last_of_failed (failed : (job.after count).outcome = .failed fault statement) :
    ∃ earlier, earlier < count ∧ job.next? (job.after earlier) = some statement ∧
      (job.stepOf (job.after earlier) statement).fault = some fault ∧
      job.after count = job.after (earlier + 1) := by
  induction count with
  | zero => exact (standing_ne_failed _ _ _ _ failed).elim
  | succ count induction =>
      cases running : (job.after count).isRunning with
      | false =>
          have same : job.after (count + 1) = job.after count := by
            rw [after_succ, advance_of_next?_none (next?_of_not_isRunning running)]
          rw [same] at failed ⊢
          obtain ⟨earlier, before, last⟩ := induction failed
          exact ⟨earlier, Nat.lt_succ_of_lt before, last⟩
      | true =>
          obtain ⟨carriedOut, next⟩ := exists_next? running
          refine ⟨count, Nat.lt_succ_self count, ?_⟩
          rw [after_succ_of_next? next, extend] at failed
          cases found : (job.stepOf (job.after count) carriedOut).fault with
          | none =>
              rw [found] at failed
              exact (standing_ne_failed _ _ _ _ failed).elim
          | some blamed =>
              rw [found] at failed
              cases failed
              exact ⟨next, found, rfl⟩

/-- The same job with another budget for its expressions. -/
def withBudget (job : Job) (budget : Nat) : Job :=
  { job with budget }

theorem advance_withBudget {more : Nat} (atMost : job.budget ≤ more)
    (whole : ¬ (job.advance run).IsCutOff) :
    (job.withBudget more).advance run = job.advance run := by
  cases next : job.next? run with
  | none =>
      have deep : (job.withBudget more).next? run = none := next
      rw [advance_of_next?_none next, advance_of_next?_none deep]
  | some statement =>
      have deep : (job.withBudget more).next? run = some statement := next
      rw [advance_of_next? next] at whole ⊢
      rw [advance_of_next? deep]
      rcases State.step_cutsOff atMost job.settings job.painting run.state statement with
        tooDeep | same
      · exact absurd ⟨statement, by rw [extend, stepOf, tooDeep]⟩ whole
      · have step : (job.withBudget more).stepOf run statement = job.stepOf run statement := same
        rw [step]
        rfl

theorem isCutOff_advance (cutOff : run.IsCutOff) : job.advance run = run := by
  obtain ⟨statement, failed⟩ := cutOff
  apply advance_of_next?_none
  rw [next?, failed]

/-- A run that is not cut off is the run with any larger budget. -/
theorem after_withBudget {more : Nat} (atMost : job.budget ≤ more)
    (whole : ¬ (job.after count).IsCutOff) :
    (job.withBudget more).after count = job.after count := by
  induction count with
  | zero => rfl
  | succ count induction =>
      rw [after_succ] at whole
      have before : ¬ (job.after count).IsCutOff := by
        intro cutOff
        rw [isCutOff_advance cutOff] at whole
        exact whole cutOff
      rw [after_succ, after_succ, induction before]
      exact advance_withBudget atMost whole

theorem not_isCutOff_of_isRunning (running : run.isRunning = true) : ¬ run.IsCutOff := by
  rintro ⟨statement, failed⟩
  rw [Run.isRunning, failed] at running
  cases running

/-- A run that is cut off has counted the statement that nests too deeply, and nothing else
has happened since it came to it. -/
theorem exists_last_of_cutOff (failed : (job.after count).outcome = .failed .tooDeep statement) :
    ∃ earlier location, earlier < count ∧ job.next? (job.after earlier) = some statement ∧
      statement.location? = some location ∧
      (job.after count).state = (job.after earlier).state.count ∧
      (job.after count).notifications = (job.after earlier).notifications ∧
      Action.step job.settings job.painting job.budget statement
          ⟨(job.after earlier).state, (job.after earlier).events⟩ =
        .error .tooDeep ⟨(job.after count).state, (job.after count).events⟩ := by
  obtain ⟨earlier, before, next, fails, last⟩ := exists_last_of_failed failed
  obtain ⟨step, location, stands⟩ := State.step_of_tooDeep fails
  have reached : job.after count =
      job.extend (job.after earlier) statement
        ⟨(job.after earlier).state.count,
          (job.after earlier).state.announcement job.settings statement, some .tooDeep⟩ := by
    rw [last, after_succ_of_next? next, stepOf, step]
  refine ⟨earlier, location, before, next, stands, ?_, ?_, ?_⟩
  · rw [reached]
    rfl
  · rw [reached, notifications_extend, State.notifications_announcement, List.append_nil]
  · rw [Action.step_eq, step, reached, events_extend]
    rfl

end Job

/-- A smaller budget cuts off and never alters.  Reading tokens with it finds them nested too
deeply or comes to what reading them with a larger budget comes to.  A run with it is the run
with the larger budget, unless it is cut off.  Then it has been that run up to a statement that
nests too deeply for it; this is reported for the place of the statement, and all that the
statement has left behind, also if it is carried out in place, is that it has been counted. -/
theorem nestingLimit_cutsOff {budget more : Nat} (atMost : budget ≤ more) :
    (∀ tokens,
      (∃ complaint, parseWithin budget tokens = .error complaint ∧
        complaint.message = "Expression nested too deeply") ∨
      parseWithin more tokens = parseWithin budget tokens) ∧
    ∀ (settings : Settings) (painter : Painter) (statements : List Node),
      let shallow : Job := ⟨settings, painter, statements, budget⟩
      let deep : Job := ⟨settings, painter, statements, more⟩
      (∀ count, ¬ (shallow.after count).IsCutOff → deep.after count = shallow.after count) ∧
      ∀ count statement, (shallow.after count).outcome = .failed .tooDeep statement →
        ∃ earlier location, earlier < count ∧
          (∀ before, before ≤ earlier → deep.after before = shallow.after before) ∧
          shallow.next? (shallow.after earlier) = some statement ∧
          statement.location? = some location ∧
          Fault.tooDeep.runDiagnosis? statement =
            some ⟨.running, "Expression nested too deeply", location⟩ ∧
          (shallow.after count).state =
            { (shallow.after earlier).state with
              steps := (shallow.after earlier).state.steps + 1 } ∧
          (shallow.after count).notifications = (shallow.after earlier).notifications ∧
          Action.step settings painter budget statement
              ⟨(shallow.after earlier).state, (shallow.after earlier).events⟩ =
            .error .tooDeep ⟨(shallow.after count).state, (shallow.after count).events⟩ := by
  refine ⟨fun tokens => ?_, fun settings painter statements => ?_⟩
  · rcases Grammar.parseWithin_cutsOff atMost tokens with ⟨location, failed⟩ | same
    · exact .inl ⟨_, failed, rfl⟩
    · exact .inr same
  intro shallow deep
  have same (count : Nat) (whole : ¬ (shallow.after count).IsCutOff) :
      deep.after count = shallow.after count :=
    Job.after_withBudget atMost whole
  refine ⟨same, ?_⟩
  intro count statement failed
  obtain ⟨earlier, location, before, next, stands, state, silent, inPlace⟩ :=
    Job.exists_last_of_cutOff failed
  refine ⟨earlier, location, before, ?_, next, stands, ?_, state, silent, inPlace⟩
  · intro count order
    have running := Job.isRunning_of_le (Job.isRunning_of_next? next) order
    exact same count (Job.not_isCutOff_of_isRunning running)
  · exact Fault.runDiagnosis?_tooDeep stands

/-- A robot that is spawned and draws a line in a direction that takes an operator to state. -/
def uphillLine : List Node :=
  let number (value : Int) : Node := .literal Kind.number.name (some (.number value)) .nowhere
  [.instruction Command.spawn.code [number 1, number 2] ⟨1, 1⟩,
    .instruction Command.drawLine.code
      [number 0, .unary UnaryOperator.negate.text (number 1) .nowhere, number 1] ⟨2, 1⟩]

/-- Drawing that line with some budget. -/
def uphillJob (budget : Nat) : Job :=
  ⟨⟨4, none, false, Nat.succ_pos 3⟩, ({} : Painting), uphillLine, budget⟩

theorem uphillJob_cutOff :
    3 ≤ 4 ∧ ((uphillJob 3).after 2).IsCutOff ∧ ((uphillJob 4).after 2).outcome = .finished ∧
    ∃ earlier, earlier < 2 ∧ (uphillJob 4).after earlier = (uphillJob 3).after earlier ∧
      ((uphillJob 3).after 2).notifications = ((uphillJob 3).after earlier).notifications ∧
      ((uphillJob 3).after 2).state.steps = ((uphillJob 3).after earlier).state.steps + 1 := by
  have atMost : 3 ≤ 4 := by decide
  have failed : ((uphillJob 3).after 2).outcome = .failed .tooDeep uphillLine[1] := rfl
  obtain ⟨earlier, -, before, same, -, -, -, state, silent, -⟩ :=
    ((nestingLimit_cutsOff atMost).2 (uphillJob 3).settings (uphillJob 3).painting uphillLine).2
      2 uphillLine[1] failed
  refine ⟨atMost, ⟨_, failed⟩, rfl, earlier, before, same earlier (Nat.le_refl earlier), silent, ?_⟩
  exact congrArg State.steps state

end PixelBrush
