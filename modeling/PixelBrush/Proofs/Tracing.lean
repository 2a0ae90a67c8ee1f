import PixelBrush.Proofs.Redefinition
import PixelBrush.Proofs.StepLimit

/-! # Traced runs

A trace is written on the way and read by nobody, so that a traced run comes to
the same as one that is not traced.  Its lines tell the course of that run:
one for each statement that is counted, and one for each jump that is taken.
-/

namespace PixelBrush

/-- The same settings, with or without a trace. -/
def Settings.withTrace (settings : Settings) (trace : Bool) : Settings :=
  { settings with trace }

/-- The same job, with or without a trace. -/
def Job.withTrace (job : Job) (trace : Bool) : Job :=
  { job with settings := job.settings.withTrace trace }

/-- The line on which a node stands. -/
def Node.line (node : Node) : Int :=
  (node.location?.getD .nowhere).line

namespace Event

/-- The events that are no trace lines. -/
def untraced (events : List Event) : List Event :=
  events.filter fun event => event.traceLine?.isNone

@[simp]
theorem untraced_append (first second : List Event) :
    untraced (first ++ second) = untraced first ++ untraced second :=
  List.filter_append ..

@[simp]
theorem untraced_map_traced (lines : List TraceLine) : untraced (lines.map traced) = [] := by
  simp [untraced, traceLine?]

theorem notifications_untraced (events : List Event) :
    notifications (untraced events) = notifications events := by
  unfold notifications untraced
  rw [List.filterMap_filter]
  congr 1
  funext event
  cases event <;> rfl

theorem map_notified_notifications (events : List Event) :
    (notifications events).map notified = untraced events := by
  unfold notifications untraced
  rw [List.map_filterMap, ← List.filterMap_eq_filter]
  congr 1
  funext event
  cases event <;> rfl

theorem traceLines_untraced (events : List Event) : traceLines (untraced events) = [] := by
  simp [traceLines, untraced]

end Event

/-- A step of which only the trace lines have been dropped. -/
def Step.untraced (step : Step) : Step :=
  { step with events := Event.untraced step.events }

/-- A run of which only the trace lines have been dropped. -/
def Run.untraced (run : Run) : Run :=
  { run with trail := run.trail.map Step.untraced }

namespace Run

theorem events_untraced (run : Run) : run.untraced.events = Event.untraced run.events := by
  unfold events steps untraced Event.untraced
  rw [List.filter_flatMap, ← List.map_reverse, List.flatMap_map]
  rfl

theorem notifications_untraced (run : Run) : run.untraced.notifications = run.notifications := by
  unfold notifications
  rw [events_untraced, Event.notifications_untraced]

end Run

namespace State

variable (settings : Settings) (painter : Painter) (budget : Nat) (state : State)
  (statement : Node)

/-- Where a statement leads that has been counted, if it is a jump that is taken: its
label, and the index of that label. -/
def jumpTaken? : Node → Option (Name × Nat)
  | .jump label condition _ =>
      match Evaluation.boolean ⟨settings, painter, some state⟩ budget condition with
      | .ok true => (state.labels.find? label).map fun target => (label, target)
      | _ => none
  | _ => none

/-- The trace line of a jump that is taken. -/
def jumpLines : List TraceLine :=
  ((state.jumpTaken? settings painter budget statement).map fun (label, target) =>
    .jump label target).toList

theorem boolean_withTrace (trace : Bool) (condition : Node) :
    Evaluation.boolean ⟨settings.withTrace trace, painter, some state⟩ budget condition =
      Evaluation.boolean ⟨settings, painter, some state⟩ budget condition := by
  have alike : View.Alike ⟨settings.withTrace trace, painter, some state⟩
      ⟨settings, painter, some state⟩ := View.alike_of_robot painter rfl rfl rfl
  have same := Evaluation.sameWithin_of_alike alike budget
  unfold Evaluation.boolean
  rw [same.evaluate]

theorem jumpTaken?_withTrace (trace : Bool) :
    state.jumpTaken? (settings.withTrace trace) painter budget statement =
      state.jumpTaken? settings painter budget statement := by
  cases statement with
  | jump label condition location => simp only [jumpTaken?, boolean_withTrace]
  | _ => rfl

/-- A trace adds the line of a jump that is taken, and nothing else, to what comes of a
statement. -/
theorem perform_withTrace (trace : Bool) :
    state.perform (settings.withTrace trace) painter budget statement =
      (fun result => (result.1,
        (if trace then (state.jumpLines settings painter budget statement).map .traced else []) ++
          result.2)) <$>
        state.perform (settings.withTrace false) painter budget statement := by
  have alike (trace : Bool) : View.Alike ⟨settings.withTrace trace, painter, some state⟩
      ⟨settings, painter, some state⟩ := View.alike_of_robot painter rfl rfl rfl
  have same (trace : Bool) := Evaluation.sameWithin_of_alike (alike trace) budget
  cases statement with
  | assignment name value location =>
      simp only [perform, (same _).evaluate, jumpLines, jumpTaken?]
      cases Evaluation.evaluate ⟨settings, painter, some state⟩ budget value <;>
        cases trace <;> rfl
  | instruction code arguments location =>
      simp only [perform, (same _).number, (same _).color, jumpLines, jumpTaken?]
      cases code.text?.bind Command.ofCode? with
      | none => rfl
      | some command =>
          change (command.perform settings _ _ _ _ _ >>= _) =
            _ <$> (command.perform settings _ _ _ _ _ >>= _)
          cases command.perform settings state.robot (.instruction code arguments location)
            (Evaluation.number ⟨settings, painter, some state⟩ budget)
            (Evaluation.color ⟨settings, painter, some state⟩ budget
              (.instruction code arguments location)) arguments <;> cases trace <;> rfl
  | jump label condition location =>
      simp only [perform, boolean_withTrace, jumpLines, jumpTaken?]
      cases Evaluation.boolean ⟨settings, painter, some state⟩ budget condition with
      | error fault => rfl
      | ok held =>
          cases held with
          | false => cases trace <;> rfl
          | true => cases state.labels.find? label <;> cases trace <;> rfl
  | _ => cases trace <;> rfl

/-- What a trace says of a statement that is counted: that it is carried out, and where it
leads if it is a jump that is taken. -/
def traceLines : List TraceLine :=
  .statement state.counter statement.typeName statement.line ::
    state.count.jumpLines settings painter budget statement

variable {settings painter budget state statement}

theorem jumpTaken?_of_error {fault : Fault}
    (fails : state.perform settings painter budget statement = .error fault) :
    state.jumpTaken? settings painter budget statement = none := by
  cases statement with
  | jump label condition location =>
      simp only [perform, jumpTaken?] at fails ⊢
      cases held : Evaluation.boolean ⟨settings, painter, some state⟩ budget condition with
      | error fault => rfl
      | ok truth =>
          cases truth with
          | false => rfl
          | true =>
              cases known : state.labels.find? label with
              | none => rfl
              | some target =>
                  rw [held, ok_bind, if_pos rfl, known] at fails
                  cases fails
  | _ => rfl

theorem CarriedOut.counter {reached : State} {events : List Event}
    (carriedOut : CarriedOut settings painter budget state statement reached events) :
    reached.counter =
      ((state.jumpTaken? settings painter budget statement).map Prod.snd).getD state.counter := by
  cases carriedOut with
  | jump held known => simp [jumpTaken?, held, known]
  | pass held => simp [jumpTaken?, held]
  | assignment | instruction | label => rfl

theorem announcement_withTrace (located : statement.location?.isSome = true) :
    state.announcement (settings.withTrace true) statement =
      [.traced (.statement state.counter statement.typeName statement.line)] := by
  obtain ⟨location, stands⟩ := Option.isSome_iff_exists.mp located
  simp [announcement, Settings.withTrace, Node.line, stands]

theorem announcement_withoutTrace :
    state.announcement (settings.withTrace false) statement = [] := rfl

/-- A statement that is counted comes to the same if it is traced, with its trace lines
before whatever else happens. -/
theorem step_withTrace (located : statement.location?.isSome = true) :
    state.step (settings.withTrace true) painter budget statement =
      { state.step (settings.withTrace false) painter budget statement with
        events := (if (state.atLimit settings).isNone then
            (state.traceLines settings painter budget statement).map .traced else []) ++
          (state.step (settings.withTrace false) painter budget statement).events } := by
  have limits (trace : Bool) : state.atLimit (settings.withTrace trace) = state.atLimit settings :=
    rfl
  unfold step
  rw [limits, limits]
  cases state.atLimit settings with
  | some limit => rfl
  | none =>
      dsimp only
      rw [announcement_withTrace located, announcement_withoutTrace, perform_withTrace, traceLines]
      cases performed : state.count.perform (settings.withTrace false) painter budget statement with
      | error fault =>
          have untaken := jumpTaken?_of_error performed
          rw [jumpTaken?_withTrace] at untaken
          simp [jumpLines, untaken]
      | ok result => simp

theorem CarriedOut.untraced {reached : State} {events : List Event}
    (carriedOut : CarriedOut (settings.withTrace false) painter budget state statement reached
      events) :
    Event.untraced events = events := by
  cases carriedOut <;> rfl

theorem untraced_announcement : Event.untraced (state.announcement settings statement) = [] := by
  unfold announcement
  cases settings.trace with
  | false => rfl
  | true => cases statement.location? <;> rfl

variable (settings painter budget state statement) in
/-- But for the trace lines, a traced step is the step without a trace. -/
theorem untraced_step (trace : Bool) :
    (state.step (settings.withTrace trace) painter budget statement).untraced =
      state.step (settings.withTrace false) painter budget statement := by
  have limits (trace : Bool) : state.atLimit (settings.withTrace trace) = state.atLimit settings :=
    rfl
  unfold step
  rw [limits, limits]
  cases state.atLimit settings with
  | some limit => rfl
  | none =>
      dsimp only
      rw [perform_withTrace]
      cases performed : state.count.perform (settings.withTrace false) painter budget statement with
      | error fault =>
          simp [Step.untraced, untraced_announcement, announcement_withoutTrace]
      | ok result =>
          have silent := (carriedOut_of_perform performed).untraced
          cases trace <;>
            simp [Step.untraced, untraced_announcement, announcement_withoutTrace, silent]

end State

namespace Job

variable {job : Job} {run : Run} {statement : Node} {count : Nat}

theorem untraced_extend (trace : Bool) (run : Run) (statement : Node) (step : Step) :
    ((job.withTrace trace).extend run statement step).untraced =
      (job.withTrace false).extend run.untraced statement step.untraced := by
  have stands (state : State) :
      (job.withTrace trace).standing state = (job.withTrace false).standing state := rfl
  unfold extend
  cases fault : step.fault <;> simp [Step.untraced, Run.untraced, fault, stands]

theorem untraced_advance (trace : Bool) (run : Run) :
    ((job.withTrace trace).advance run).untraced = (job.withTrace false).advance run.untraced := by
  cases next : job.next? run with
  | none =>
      have traced : (job.withTrace trace).next? run = none := next
      have plain : (job.withTrace false).next? run.untraced = none := next
      rw [advance_of_next?_none traced, advance_of_next?_none plain]
  | some statement =>
      have traced : (job.withTrace trace).next? run = some statement := next
      have plain : (job.withTrace false).next? run.untraced = some statement := next
      have step := run.state.untraced_step job.settings job.painting job.budget statement trace
      rw [advance_of_next? traced, advance_of_next? plain, untraced_extend]
      exact congrArg _ step

/-- But for the trace lines, a traced run is the run without a trace. -/
theorem untraced_after (job : Job) (trace : Bool) (count : Nat) :
    ((job.withTrace trace).after count).untraced = (job.withTrace false).after count := by
  induction count with
  | zero => rfl
  | succ count induction => rw [after_succ, after_succ, untraced_advance, induction]

theorem stepOf_of_atLimit {limit : Nat} (reached : run.state.atLimit job.settings = some limit) :
    job.stepOf run statement =
      ⟨run.state, [], some (.ofMishap (.stepLimit limit) statement)⟩ :=
  State.step_of_atLimit reached

/-- A statement that does not fail has been carried out. -/
theorem atLimit_of_not_hasFailed (next : job.next? run = some statement)
    (unfailed : (job.advance run).hasFailed = false) : run.state.atLimit job.settings = none := by
  cases reached : run.state.atLimit job.settings with
  | none => rfl
  | some limit =>
      rw [advance_of_next? next, hasFailed_extend, stepOf_of_atLimit reached] at unfailed
      cases unfailed

theorem state_after_withTrace (job : Job) (trace : Bool) (count : Nat) :
    ((job.withTrace trace).after count).state = ((job.withTrace false).after count).state := by
  rw [← untraced_after job trace]
  rfl

theorem next?_after_withTrace (job : Job) (trace : Bool) (count : Nat) :
    (job.withTrace trace).next? ((job.withTrace trace).after count) =
      (job.withTrace false).next? ((job.withTrace false).after count) := by
  rw [← untraced_after job trace]
  rfl

/-- The statements of a run that is running have all been counted. -/
theorem steps_of_isRunning (running : (job.after count).isRunning = true) :
    (job.after count).state.steps = count := by
  induction count with
  | zero => rfl
  | succ count induction =>
      have before := isRunning_of_le running (Nat.le_succ count)
      obtain ⟨statement, next⟩ := exists_next? before
      have unfailed := Run.hasFailed_of_isRunning running
      rw [after_succ] at unfailed
      rw [steps_after_succ next (atLimit_of_not_hasFailed next unfailed), induction before]

theorem events_after_succ (next : job.next? (job.after count) = some statement) :
    (job.after (count + 1)).events =
      (job.after count).events ++ (job.stepOf (job.after count) statement).events := by
  rw [after_succ_of_next? next, events_extend]

/-- A jump that is taken sets the counter to its target; then the counter moves on. -/
theorem counter_after_succ (next : job.next? (job.after count) = some statement)
    (unfailed : (job.after (count + 1)).hasFailed = false) :
    (job.after (count + 1)).state.counter =
      (((job.after count).state.count.jumpTaken? job.settings job.painting job.budget
        statement).map Prod.snd).getD (job.after count).state.counter + 1 := by
  have attempted := (job.after count).state.attempted job.settings job.painting job.budget statement
  rw [after_succ_of_next? next] at unfailed ⊢
  rw [hasFailed_extend] at unfailed
  unfold stepOf at unfailed ⊢
  generalize (job.after count).state.step job.settings job.painting job.budget statement = step
    at attempted unfailed ⊢
  cases attempted with
  | refused reached => cases unfailed
  | failed below fails => cases unfailed
  | completed below carriedOut => exact congrArg Nat.succ carriedOut.counter

/-- What a traced run tells when the run without a trace has come to a statement. -/
def account (job : Job) (run : Run) : List Event :=
  match job.next? run with
  | some statement =>
      (run.state.traceLines job.settings job.painting job.budget statement).map .traced ++
        (job.stepOf run statement).events
  | none => []

theorem events_stepOf_withTrace (located : statement.location?.isSome = true) (count : Nat) :
    ((job.withTrace true).stepOf ((job.withTrace true).after count) statement).events =
      (if (((job.withTrace false).after count).state.atLimit job.settings).isNone then
        (((job.withTrace false).after count).state.traceLines job.settings job.painting job.budget
          statement).map .traced else []) ++
        ((job.withTrace false).stepOf ((job.withTrace false).after count) statement).events := by
  unfold stepOf
  rw [state_after_withTrace]
  exact congrArg Step.events (State.step_withTrace located)

theorem account_of_next? (next : (job.withTrace false).next? run = some statement) :
    (job.withTrace false).account run =
      (run.state.traceLines job.settings job.painting job.budget statement).map .traced ++
        ((job.withTrace false).stepOf run statement).events := by
  have lines : run.state.traceLines (job.settings.withTrace false) job.painting job.budget
      statement = run.state.traceLines job.settings job.painting job.budget statement := by
    simp [State.traceLines, State.jumpLines, State.jumpTaken?_withTrace]
  unfold account
  rw [next, ← lines]
  rfl

/-- A traced run tells of the statements that are counted, one after the other. -/
theorem events_withTrace (located : ∀ statement ∈ job.statements, statement.location?.isSome = true)
    (count : Nat) :
    ((job.withTrace true).after count).events =
      (List.range ((job.withTrace false).after count).state.steps).flatMap fun index =>
        (job.withTrace false).account ((job.withTrace false).after index) := by
  induction count with
  | zero => rfl
  | succ count induction =>
      have nextTraced := job.next?_after_withTrace true count
      cases next : (job.withTrace false).next? ((job.withTrace false).after count) with
      | none =>
          rw [next] at nextTraced
          rw [after_succ, after_succ, advance_of_next?_none next,
            advance_of_next?_none nextTraced, induction]
      | some statement =>
          rw [next] at nextTraced
          have member : statement ∈ job.statements := List.mem_of_getElem? (getElem?_of_next? next)
          rw [events_after_succ nextTraced, induction,
            events_stepOf_withTrace (located statement member)]
          cases reached :
              ((job.withTrace false).after count).state.atLimit (job.withTrace false).settings with
          | some limit =>
              -- A statement beyond the limit is neither told of nor counted.
              have told : ((job.withTrace false).after count).state.atLimit job.settings =
                  some limit := reached
              rw [after_succ_of_next? next, steps_extend, stepOf_of_atLimit reached, told]
              simp
          | none =>
              have told : ((job.withTrace false).after count).state.atLimit job.settings = none :=
                reached
              have counted := steps_of_isRunning (isRunning_of_next? next)
              rw [steps_after_succ next reached, counted, List.range_succ, List.flatMap_append,
                List.flatMap_singleton, account_of_next? next, told]
              simp

/-- A statement that is counted was reached by the run before, and not at the limit. -/
theorem exists_next?_of_lt_steps {index : Nat} (counted : index < (job.after count).state.steps) :
    ∃ statement, job.next? (job.after index) = some statement ∧
      (job.after index).state.atLimit job.settings = none := by
  induction count with
  | zero => exact absurd counted (Nat.not_lt_zero index)
  | succ count induction =>
      cases next : job.next? (job.after count) with
      | none =>
          rw [after_succ, advance_of_next?_none next] at counted
          exact induction counted
      | some statement =>
          cases reached : (job.after count).state.atLimit job.settings with
          | some limit =>
              rw [after_succ_of_next? next, steps_extend, stepOf_of_atLimit reached] at counted
              exact induction counted
          | none =>
              have steps := steps_of_isRunning (isRunning_of_next? next)
              rw [steps_after_succ next reached, steps] at counted
              rw [steps] at induction
              rcases Nat.lt_or_eq_of_le (Nat.le_of_lt_succ counted) with before | rfl
              · exact induction before
              · exact ⟨statement, next, reached⟩

end Job

end PixelBrush
