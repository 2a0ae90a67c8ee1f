import PixelBrush.Proofs.Blame
import PixelBrush.Proofs.Ending
import PixelBrush.Session
import PixelBrush.State.InPlace

/-! # Statements that fail

A statement that is carried out in place has done nothing by the time it fails, for it
looks at everything before it changes anything.  So it comes to the same as a step,
and a statement that fails leaves everything but the count of steps as it was.
-/

namespace PixelBrush

namespace Action

/-- Whether an action comes to what an attempt finds, and does nothing if the attempt
fails. -/
def Yields {α : Type} (scene : Scene) (final : α → Scene) (action : Action Unit)
    (attempt : Except Fault α) : Prop :=
  action scene = match attempt with
    | .ok found => .ok () (final found)
    | .error fault => .error fault scene

theorem get_bind (next : Scene → Action Unit) (scene : Scene) :
    (get >>= next) scene = next scene scene := rfl

namespace Yields

variable {α β : Type} {scene : Scene} {final : β → Scene}

theorem lift {attempt : Except Fault α} {next : α → Action Unit} {later : α → Except Fault β}
    (goesOn : ∀ found, Yields scene final (next found) (later found)) :
    Yields scene final (Action.lift attempt >>= next) (attempt >>= later) := by
  cases attempt with
  | ok found => exact goesOn found
  | error fault => rfl

theorem require {condition : Bool} {cause : Mishap} {node : Node} {next : Unit → Action Unit}
    {later : Unit → Except Fault β}
    (goesOn : Yields scene final (next ()) (later ())) :
    Yields scene final (Action.require condition cause node >>= next)
      (Command.require condition cause node >>= later) :=
  lift fun _ => goesOn

theorem look {settings : Settings} {painter : Painter} {find : View → Except Fault α}
    {next : α → Action Unit} {later : α → Except Fault β}
    (goesOn : ∀ found, Yields scene final (next found) (later found)) :
    Yields scene final (Action.look settings painter find >>= next)
      (find ⟨settings, painter, some scene.state⟩ >>= later) :=
  lift goesOn

theorem get {next : Scene → Action Unit} {attempt : Except Fault β}
    (goesOn : Yields scene final (next scene) attempt) :
    Yields scene final (MonadState.get >>= next) attempt :=
  goesOn

end Yields

/-- The scene in which a command has been carried out. -/
def commanded (scene : Scene) (result : Robot × Notification) : Scene :=
  ⟨{ scene.state with robot := result.1 }, scene.events ++ [.notified result.2]⟩

section

variable (settings : Settings) (painter : Painter) (budget : Nat) (scene : Scene) (node : Node)
  (arguments : List Node)

/-- Each command looks at its arguments, and checks all that it has to check, before it
changes the robot and notifies the painter. -/
theorem command_yields (asked : Command) :
    Yields scene (commanded scene) (command settings painter budget asked node arguments)
      (asked.perform settings scene.state.robot node
        (Evaluation.number ⟨settings, painter, some scene.state⟩ budget)
        (Evaluation.color ⟨settings, painter, some scene.state⟩ budget node) arguments) := by
  cases asked with
  | spawn =>
      refine .require ?_
      rcases arguments with _ | ⟨first, _ | ⟨second, _ | ⟨third, others⟩⟩⟩
      -- With any other number of arguments both come to the same complaint.
      case cons.cons.nil => exact .look fun x => .look fun y => .require rfl
      all_goals rfl
  | color =>
      refine .require ?_
      rcases arguments with _ | ⟨first, _ | ⟨second, others⟩⟩
      case cons.nil => exact .look fun shade => rfl
      all_goals rfl
  | size =>
      refine .require ?_
      rcases arguments with _ | ⟨first, _ | ⟨second, others⟩⟩
      case cons.nil => exact .look fun asked => .require rfl
      all_goals rfl
  | drawLine | drawCircle =>
      refine .require ?_
      rcases arguments with _ | ⟨first, _ | ⟨second, _ | ⟨third, _ | ⟨fourth, others⟩⟩⟩⟩
      case cons.cons.cons.nil =>
        exact .look fun dx => .look fun dy => .look fun reach =>
          .require <| .require <| .require rfl
      all_goals rfl
  | drawRectangle =>
      refine .require ?_
      rcases arguments with
        _ | ⟨first, _ | ⟨second, _ | ⟨third, _ | ⟨fourth, _ | ⟨fifth, _ | ⟨sixth, others⟩⟩⟩⟩⟩⟩
      case cons.cons.cons.cons.cons.nil =>
        exact .look fun dx => .look fun dy => .look fun distance => .look fun width =>
          .look fun height => .require <| .require <| .require rfl
      all_goals rfl
  | fill =>
      refine .require ?_
      cases arguments with
      | nil => rfl
      | cons first others => rfl

end

/-- The scene in which a statement has been carried out. -/
def reached (scene : Scene) (result : State × List Event) : Scene :=
  ⟨result.1, scene.events ++ result.2⟩

theorem reached_nil (scene : Scene) (state : State) :
    reached scene (state, []) = { scene with state := state } := by
  rw [reached, List.append_nil]

section

variable (settings : Settings) (painter : Painter) (budget : Nat) (scene : Scene)
  (statement : Node)

theorem perform_yields :
    Yields scene (reached scene) (perform settings painter budget statement)
      (scene.state.perform settings painter budget statement) := by
  cases statement with
  | assignment name value location =>
      refine .look fun result => ?_
      exact congrArg (EStateM.Result.ok ()) (reached_nil scene _).symm
  | instruction code arguments location =>
      unfold perform State.perform
      dsimp only
      cases code.text?.bind Command.ofCode? with
      | none => rfl
      | some asked =>
          have yields := command_yields settings painter budget scene
            (.instruction code arguments location) arguments asked
          unfold Yields at yields ⊢
          dsimp only at yields ⊢
          rw [yields]
          cases asked.perform settings scene.state.robot (.instruction code arguments location)
            (Evaluation.number ⟨settings, painter, some scene.state⟩ budget)
            (Evaluation.color ⟨settings, painter, some scene.state⟩ budget
              (.instruction code arguments location)) arguments <;> rfl
  | jump label condition location =>
      refine .look fun truth => ?_
      cases truth with
      | false => exact congrArg (EStateM.Result.ok ()) (reached_nil scene _).symm
      | true =>
          refine .get ?_
          rw [if_pos rfl]
          cases scene.state.labels.find? label <;> rfl
  | label name location => exact congrArg (EStateM.Result.ok ()) (reached_nil scene _).symm
  | _ => rfl

/-- The scene after a step, as a statement that is carried out in place leaves it. -/
def stepped (scene : Scene) (step : Step) : EStateM.Result Fault Scene Unit :=
  match step.fault with
  | none => .ok () ⟨step.state, scene.events ++ step.events⟩
  | some fault => .error fault ⟨step.state, scene.events ++ step.events⟩

/-- Carrying out a statement in place comes to the same as a step. -/
theorem step_eq :
    step settings painter budget statement scene =
      stepped scene (scene.state.step settings painter budget statement) := by
  have counted := perform_yields settings painter budget
    ⟨scene.state.count, scene.events ++ scene.state.announcement settings statement⟩ statement
  unfold step State.step
  rw [get_bind]
  cases scene.state.atLimit settings with
  | some limit =>
      unfold stepped
      rw [List.append_nil]
      rfl
  | none =>
      -- By now the statement has been counted and announced, and nothing else has happened.
      change perform settings painter budget statement
        ⟨scene.state.count, scene.events ++ scene.state.announcement settings statement⟩ = _
      rw [counted]
      dsimp only
      cases scene.state.count.perform settings painter budget statement with
      | error fault => rfl
      | ok result =>
          obtain ⟨final, events⟩ := result
          unfold stepped reached
          dsimp only
          rw [List.append_assoc]

theorem step_eq_error_iff {fault : Fault} {after : Scene} :
    step settings painter budget statement scene = .error fault after ↔
      (scene.state.step settings painter budget statement).fault = some fault ∧
      ⟨(scene.state.step settings painter budget statement).state,
        scene.events ++ (scene.state.step settings painter budget statement).events⟩ = after := by
  rw [step_eq, stepped]
  cases (scene.state.step settings painter budget statement).fault <;> simp

end

end Action

/-- What a statement that fails leaves of a state: everything but the count of steps,
which goes up by one unless the limit of steps has kept the statement from being carried
out. -/
structure State.Spared (settings : Settings) (statement : Node) (fault : Fault)
    (before after : State) : Prop where
  same : after = { before with steps := after.steps }
  steps :
    (∃ limit, before.atLimit settings = some limit ∧
      fault = .ofMishap (.stepLimit limit) statement ∧ after.steps = before.steps) ∨
    before.atLimit settings = none ∧ fault.isStepLimit = false ∧ after.steps = before.steps + 1

theorem State.spared_step (settings : Settings) (painting : Painting) (budget : Nat) (state : State)
    (statement : Node) {fault : Fault}
    (failed : (state.step settings painting budget statement).fault = some fault) :
    Spared settings statement fault state (state.step settings painting budget statement).state ∧
      Event.notifications (state.step settings painting budget statement).events = [] := by
  have cause := state.fault_step settings painting budget statement failed
  have attempted := state.attempted settings painting budget statement
  generalize state.step settings painting budget statement = step at attempted failed ⊢
  cases attempted with
  | @refused limit reached =>
      have refused := Option.some.inj failed
      exact ⟨⟨rfl, .inl ⟨limit, reached, refused.symm, rfl⟩⟩, rfl⟩
  | failed below fails =>
      rcases cause with ⟨limit, reached, -⟩ | ⟨-, blamed⟩
      · rw [below] at reached
        cases reached
      · exact ⟨⟨rfl, .inr ⟨below, blamed.isStepLimit, rfl⟩⟩,
          notifications_announcement state statement⟩
  | completed below carriedOut => cases failed

namespace Action

/-- A session that comes to a statement which fails stops there. -/
theorem perform_cons_of_error {session : Session} {state : State} {statement : Node}
    {fault : Fault} {after : Scene} (left : session.state = some state)
    (failed : step session.settings session.painting session.budget statement ⟨state, []⟩ =
      .error fault after) (later : List Node) :
    session.perform (statement :: later) =
      ({ session with state := some after.state }, after.events, some fault) := by
  obtain ⟨fails, rfl⟩ := (step_eq_error_iff ..).mp failed
  have silent :=
    (state.spared_step session.settings session.painting session.budget statement fails).2
  rw [Session.perform, left]
  dsimp only
  rw [fails]
  dsimp only
  rw [Session.record, silent, List.append_nil]
  rfl

/-- A run that comes to a statement which fails stops there. -/
theorem after_of_error {job : Job} {count : Nat} {statement : Node} {fault : Fault}
    {after : Scene} (next : job.next? (job.after count) = some statement)
    (failed : step job.settings job.painting job.budget statement
      ⟨(job.after count).state, (job.after count).events⟩ = .error fault after) (further : Nat) :
    (job.after (count + 1 + further)).outcome = .failed fault statement ∧
      (job.after (count + 1 + further)).state = after.state ∧
      (job.after (count + 1 + further)).events = after.events := by
  obtain ⟨fails, rfl⟩ := (step_eq_error_iff ..).mp failed
  have stepFails : (job.stepOf (job.after count) statement).fault = some fault := fails
  have outcome : (job.after (count + 1)).outcome = .failed fault statement := by
    rw [Job.after_succ_of_next? next, Job.extend, stepFails]
  have ended : (job.after (count + 1)).isRunning = false := by
    rw [Run.isRunning, outcome]
  rw [Job.after_add, Job.proceed_of_not_isRunning ended]
  refine ⟨outcome, ?_, ?_⟩
  · rw [Job.after_succ_of_next? next, Job.extend, stepFails]
    rfl
  · rw [Job.after_succ_of_next? next, Job.events_extend]
    rfl

/-- A statement that is carried out in place and fails has no effect.  Carrying it out
comes to the same as a step, and if it fails, the state is as before, but for the
count of steps, and the painter has not been told anything.  In a session and in a run,
nothing is carried out after it. -/
theorem failing_statement (settings : Settings) (painting : Painting) (budget : Nat)
    (statement : Node) :
    (∀ scene, step settings painting budget statement scene =
      stepped scene (scene.state.step settings painting budget statement)) ∧
    (∀ scene fault after, step settings painting budget statement scene = .error fault after →
      State.Spared settings statement fault scene.state after.state ∧
      Event.notifications after.events = Event.notifications scene.events) ∧
    (∀ session : Session, session.settings = settings → session.painting = painting →
      session.budget = budget → ∀ state fault after, session.state = some state →
        step settings painting budget statement ⟨state, []⟩ = .error fault after →
          ∀ later, session.perform (statement :: later) =
            ({ session with state := some after.state }, after.events, some fault)) ∧
    ∀ statements count fault after,
      let job : Job := ⟨settings, painting, statements, budget⟩
      job.next? (job.after count) = some statement →
      step settings painting budget statement
        ⟨(job.after count).state, (job.after count).events⟩ = .error fault after →
          ∀ further, (job.after (count + 1 + further)).outcome = .failed fault statement ∧
            (job.after (count + 1 + further)).state = after.state ∧
            (job.after (count + 1 + further)).events = after.events := by
  refine ⟨fun scene => step_eq settings painting budget scene statement, ?_, ?_, ?_⟩
  · intro scene fault after failed
    obtain ⟨fails, rfl⟩ := (step_eq_error_iff ..).mp failed
    obtain ⟨spared, silent⟩ :=
      scene.state.spared_step settings painting budget statement fails
    refine ⟨spared, ?_⟩
    rw [Event.notifications_append, silent, List.append_nil]
  · rintro session rfl rfl rfl state fault after left failed later
    exact perform_cons_of_error left failed later
  · intro statements count fault after job next failed further
    exact after_of_error next failed further

/-- A line that leaves a canvas of eight columns. -/
def overlongLine : Node :=
  .instruction Command.drawLine.code [.literal Kind.number.name (some (.number 1)) ⟨2, 10⟩,
    .literal Kind.number.name (some (.number 0)) ⟨2, 13⟩,
    .literal Kind.number.name (some (.number 8)) ⟨2, 16⟩] ⟨2, 1⟩

/-- A traced job that draws it from the cell where the robot is spawned. -/
def overlong : Job where
  settings := ⟨8, none, true, Nat.succ_pos 7⟩
  painting := ({} : Painting)
  statements :=
    [.instruction Command.spawn.code [.literal Kind.number.name (some (.number 1)) ⟨1, 7⟩,
      .literal Kind.number.name (some (.number 2)) ⟨1, 10⟩] ⟨1, 1⟩, overlongLine]

theorem overlong_failing_statement :
    let before : Scene := ⟨(overlong.after 1).state, (overlong.after 1).events⟩
    let fault := Fault.ofMishap (.lineOutside 9 2) overlongLine
    let after : Scene :=
      ⟨{ before.state with steps := 2 },
        before.events ++ [.traced (.statement 1 "Instruction" 2)]⟩
    overlong.next? (overlong.after 1) = some overlongLine ∧
    step overlong.settings ({} : Painting) overlong.budget overlongLine before =
      .error fault after ∧
    State.Spared overlong.settings overlongLine fault before.state after.state ∧
    Event.notifications after.events = [.spawn 1 2] ∧
    ∀ further, (overlong.after (2 + further)).outcome = .failed fault overlongLine ∧
      (overlong.after (2 + further)).state = after.state ∧
      (overlong.after (2 + further)).events = after.events := by
  intro before fault after
  have next : overlong.next? (overlong.after 1) = some overlongLine := rfl
  have failed : step overlong.settings ({} : Painting) overlong.budget overlongLine before =
      .error fault after := rfl
  obtain ⟨-, spared, -, later⟩ :=
    failing_statement overlong.settings {} overlong.budget overlongLine
  obtain ⟨same, silent⟩ := spared before fault after failed
  exact ⟨next, failed, same, silent, later overlong.statements 1 fault after next failed⟩

end Action
end PixelBrush
