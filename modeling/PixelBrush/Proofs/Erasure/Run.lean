import PixelBrush.Proofs.Erasure
import PixelBrush.Proofs.LabelTable
import PixelBrush.Proofs.Run

/-! # Runs without locations

Running a program without its locations is running the program and then leaving
out the locations: of the faults, of the trace lines and of the labels that
were redefined.
-/

namespace PixelBrush

/-- A redefinition without the lines of the two labels. -/
def Redefinition.unlocated (redefinition : Redefinition) : Redefinition :=
  ⟨redefinition.name, 0, 0⟩

def State.unlocated (state : State) : State :=
  { state with redefinitions := state.redefinitions.map Redefinition.unlocated }

/-- A trace line without the line numbers in it. -/
def TraceLine.unlocated : TraceLine → TraceLine
  | redefinition noted => redefinition noted.unlocated
  | statement counter type _ => statement counter type 0
  | jump label target => jump label target

def Event.unlocated : Event → Event
  | traced line => traced line.unlocated
  | notified notification => notified notification

def Step.unlocated (step : Step) : Step :=
  ⟨step.state.unlocated, step.events.map Event.unlocated, step.fault.map Fault.unlocated⟩

def Outcome.unlocated : Outcome → Outcome
  | running => running
  | finished => finished
  | failed fault statement => failed fault.unlocated statement.unlocated

def Run.unlocated (run : Run) : Run :=
  ⟨run.state.unlocated, run.trail.map Step.unlocated, run.outcome.unlocated⟩

def Job.unlocated (job : Job) : Job :=
  { job with statements := Node.unlocatedAll job.statements }

namespace Command

@[simp]
theorem require_unlocated (condition : Bool) (cause : Mishap) (node : Node) :
    require condition cause node.unlocated = unblamed (require condition cause node) := by
  cases condition <;> simp [require]

theorem perform_unlocated (settings : Settings) (robot : Robot) (node : Node)
    {number erasedNumber : Node → Except Fault Int} {color erasedColor : Node → Except Fault Color}
    (numbers : ∀ argument, erasedNumber argument.unlocated = unblamed (number argument))
    (colors : ∀ argument, erasedColor argument.unlocated = unblamed (color argument))
    (command : Command) (arguments : List Node) :
    command.perform settings robot node.unlocated erasedNumber erasedColor
        (Node.unlocatedAll arguments) =
      unblamed (command.perform settings robot node number color arguments) := by
  by_cases fits : arguments.length = command.arity
  · cases command with
    | spawn =>
        obtain ⟨first, second, rfl⟩ := List.length_eq_two.mp fits
        simp [perform, Node.unlocatedAll, numbers]
    | color =>
        obtain ⟨first, rfl⟩ := List.length_eq_one_iff.mp fits
        simp [perform, Node.unlocatedAll, colors]
    | size =>
        obtain ⟨first, rfl⟩ := List.length_eq_one_iff.mp fits
        simp [perform, Node.unlocatedAll, numbers]
    | drawLine | drawCircle =>
        obtain ⟨first, second, third, rfl⟩ := List.length_eq_three.mp fits
        simp [perform, Node.unlocatedAll, numbers]
    | drawRectangle =>
        obtain ⟨first, second, third, fourth, fifth, rfl⟩ := exists_of_length_eq_five fits
        simp [perform, Node.unlocatedAll, numbers]
    | fill =>
        obtain rfl := List.eq_nil_of_length_eq_zero fits
        simp [perform, Node.unlocatedAll]
  · have erasedFits : (Node.unlocatedAll arguments).length ≠ command.arity := by
      rwa [Node.length_unlocatedAll]
    rw [perform_of_length_ne _ _ _ _ _ erasedFits, perform_of_length_ne _ _ _ _ _ fits]
    simp [spawnCheck, apply_ite unblamed]

end Command

namespace State

variable (settings : Settings) (painting : Painting) (budget : Nat) (state : State)
  (statement : Node)

/-- What a statement comes to, without locations. -/
def erased (performed : Except Fault (State × List Event)) : Except Fault (State × List Event) :=
  unblamed ((fun result => (result.1.unlocated, result.2.map Event.unlocated)) <$> performed)

theorem perform_unlocated :
    state.unlocated.perform settings painting budget statement.unlocated =
      erased (state.perform settings painting budget statement) := by
  have alike : View.Alike ⟨settings, painting, some state.unlocated⟩
      ⟨settings, painting, some state⟩ := View.alike_of_robot painting rfl rfl rfl
  have same := Evaluation.sameWithin_of_alike alike budget
  have erases := Evaluation.erasesWithin settings painting state budget
  cases statement with
  | assignment name value location =>
      simp only [perform, Node.unlocated, same.evaluate, erases.evaluate]
      cases Evaluation.evaluate ⟨settings, painting, some state⟩ budget value <;> rfl
  | instruction code arguments location =>
      have erasedColor := erases.color (.instruction code arguments location)
      simp only [perform, Node.unlocated, same.number, same.color]
      cases code.text?.bind Command.ofCode? with
      | none =>
          exact congrArg Except.error
            (Fault.ofMishap_unlocated _ (.instruction code arguments location))
      | some command =>
          have performed := command.perform_unlocated settings state.robot
            (.instruction code arguments location) erases.number erasedColor arguments
          simp only [Node.unlocated] at performed
          dsimp only
          rw [show state.unlocated.robot = state.robot from rfl, performed]
          generalize Command.perform settings state.robot _ _ _ command arguments = result
          cases result <;> rfl
  | jump label condition location =>
      have condition_eq : Evaluation.boolean ⟨settings, painting, some state.unlocated⟩ budget
          condition.unlocated =
          unblamed (Evaluation.boolean ⟨settings, painting, some state⟩ budget condition) := by
        rw [← Evaluation.boolean_unlocated, Evaluation.boolean, same.evaluate]
        rfl
      simp only [perform, Node.unlocated, condition_eq]
      cases Evaluation.boolean ⟨settings, painting, some state⟩ budget condition with
      | error fault => rfl
      | ok held =>
          cases held with
          | false => rfl
          | true =>
              simp only [unblamed_ok, ok_bind, if_true]
              rw [show state.unlocated.labels = state.labels from rfl]
              cases state.labels.find? label with
              | none =>
                  exact congrArg Except.error
                    (Fault.ofMishap_unlocated _ (.jump label condition location))
              | some target => cases settings.trace <;> rfl
  | label name location => rfl
  | program | binary | unary | call | literal | reference | foreign | text | missing =>
      exact congrArg Except.error (Fault.ofMishap_unlocated _ _)

theorem announcement_unlocated :
    state.unlocated.announcement settings statement.unlocated =
      (state.announcement settings statement).map Event.unlocated := by
  unfold announcement
  rw [Node.location?_unlocated, Node.typeName_unlocated]
  cases settings.trace with
  | false => rfl
  | true => cases statement.location? <;> rfl

/-- Carrying out a statement without its locations leaves out the locations of what
comes of it. -/
theorem step_unlocated :
    state.unlocated.step settings painting budget statement.unlocated =
      (state.step settings painting budget statement).unlocated := by
  have limits : state.unlocated.atLimit settings = state.atLimit settings := rfl
  have performed := perform_unlocated settings painting budget state.count statement
  unfold step
  rw [limits, announcement_unlocated]
  cases state.atLimit settings with
  | some limit =>
      dsimp only
      rw [Fault.ofMishap_unlocated]
      rfl
  | none =>
      dsimp only
      rw [show state.unlocated.count = state.count.unlocated from rfl, performed]
      cases state.count.perform settings painting budget statement with
      | error fault => rfl
      | ok result =>
          rw [Step.unlocated, List.map_append]
          rfl

end State

namespace Labels

/-- A label statement whose line is left out. -/
def Definition.unlocated (definition : Definition) : Definition :=
  { definition with line := 0 }

theorem definitions_unlocatedAll (statements : List Node) :
    definitions (Node.unlocatedAll statements) =
      (definitions statements).map Definition.unlocated := by
  unfold definitions
  rw [Node.unlocatedAll_eq_map, List.zipIdx_map, List.filterMap_map, List.map_filterMap]
  congr 1
  funext entry
  obtain ⟨statement, index⟩ := entry
  cases statement <;> rfl

theorem table_unlocated (definitions : List Definition) :
    table (definitions.map Definition.unlocated) = table definitions := by
  unfold table
  rw [List.foldl_map]
  rfl

theorem redefinitions_unlocated (earlier later : List Definition) :
    redefinitions (earlier.map Definition.unlocated) (later.map Definition.unlocated) =
      (redefinitions earlier later).map Redefinition.unlocated := by
  induction later generalizing earlier with
  | nil => rfl
  | cons definition later induction =>
      have found : (earlier.map Definition.unlocated).find?
          (fun previous => previous.name == definition.unlocated.name) =
          (earlier.find? fun previous => previous.name == definition.name).map
            Definition.unlocated :=
        List.find?_map ..
      rw [List.map_cons, redefinitions, redefinitions, found, ← List.map_cons, induction]
      cases earlier.find? fun previous => previous.name == definition.name <;> rfl

end Labels

theorem State.initial_unlocatedAll (statements : List Node) :
    State.initial (Node.unlocatedAll statements) = (State.initial statements).unlocated := by
  unfold State.initial
  dsimp only
  rw [Labels.definitions_unlocatedAll, Labels.table_unlocated]
  exact congrArg (fun redefinitions => State.mk .empty _ redefinitions 0 0 {})
    (Labels.redefinitions_unlocated [] (Labels.definitions statements))

namespace Job

variable {job : Job} {painting : Painting}

theorem standing_unlocated (job : Job) (state : State) :
    job.unlocated.standing state.unlocated = (job.standing state).unlocated := by
  unfold standing
  rw [show job.unlocated.statements.length = job.statements.length from
    Node.length_unlocatedAll job.statements]
  by_cases within : state.counter < job.statements.length
  · rw [if_pos within]
    exact if_pos within
  · rw [if_neg within]
    exact if_neg within

theorem start_unlocated (job : Job) : job.unlocated.start = job.start.unlocated := by
  unfold start
  rw [show State.initial job.unlocated.statements = (State.initial job.statements).unlocated from
    State.initial_unlocatedAll job.statements]
  dsimp only
  rw [standing_unlocated]
  rfl

theorem next?_unlocated (job : Job) (run : Run) :
    job.unlocated.next? run.unlocated = (job.next? run).map Node.unlocated := by
  unfold next? Run.unlocated
  cases run.outcome with
  | running =>
      change (Node.unlocatedAll job.statements)[run.state.counter]? = _
      rw [Node.unlocatedAll_eq_map, List.getElem?_map]
  | finished | failed => rfl

theorem extend_unlocated (job : Job) (run : Run) (statement : Node) (step : Step) :
    job.unlocated.extend run.unlocated statement.unlocated step.unlocated =
      (job.extend run statement step).unlocated := by
  unfold extend
  cases fault : step.fault with
  | some fault => simp [Step.unlocated, Run.unlocated, Outcome.unlocated, fault]
  | none =>
      have stands := job.standing_unlocated step.state.moveOn
      simp only [Step.unlocated, fault, Option.map_none]
      rw [show step.state.unlocated.moveOn = step.state.moveOn.unlocated from rfl, stands]
      simp [Run.unlocated, Step.unlocated, fault]

theorem advance_unlocated (paints : job.painting = Painter.ofPainting painting) (run : Run) :
    job.unlocated.advance run.unlocated = (job.advance run).unlocated := by
  have same := job.next?_unlocated run
  cases next : job.next? run with
  | none =>
      rw [next] at same
      rw [advance_of_next?_none next, advance_of_next?_none same]
  | some statement =>
      rw [next] at same
      have step : job.unlocated.stepOf run.unlocated statement.unlocated =
          (job.stepOf run statement).unlocated := by
        unfold stepOf
        rw [paints]
        change run.state.unlocated.step job.settings job.painting job.budget _ = _
        rw [paints]
        exact State.step_unlocated job.settings painting job.budget run.state statement
      rw [advance_of_next? next, advance_of_next? same, step, extend_unlocated]

/-- Leaving out the locations of a program leaves out those of its run, and changes
nothing else. -/
theorem after_unlocated (paints : job.painting = Painter.ofPainting painting) (count : Nat) :
    job.unlocated.after count = (job.after count).unlocated := by
  induction count with
  | zero => exact job.start_unlocated
  | succ count induction =>
      rw [after_succ, after_succ, induction, advance_unlocated paints]

end Job
end PixelBrush
