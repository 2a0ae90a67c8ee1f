import PixelBrush.Proofs.Effect

/-! # What one statement can do

A statement that is carried out stores a value, has the effect of a command on
the robot, sets the counter to the index of a label, or does nothing.  A step
is the only place where a statement may fail, and then leaves everything but
the count of steps alone.
-/

namespace PixelBrush

/-- Whether a node is a statement that carries out a command. -/
def Node.isInstruction : Node → Bool
  | .instruction .. => true
  | _ => false

section

variable (settings : Settings) (painter : Painter) (budget : Nat) (state : State)

/-- How a statement that does not fail changes the state, and what happens on
the way. -/
inductive State.CarriedOut : Node → State → List Event → Prop
  | assignment {name : Name} {value : Node} {location : Location} {result : Value}
      (evaluated :
        Evaluation.evaluate ⟨settings, painter, some state⟩ budget value = .ok result) :
      CarriedOut (.assignment name value location)
        { state with store := state.store.insert name result } []
  | instruction {code : Name} {arguments : List Node} {location : Location} {robot : Robot}
      {notification : Notification}
      (effect : Effect settings state.robot robot notification) :
      CarriedOut (.instruction code arguments location)
        { state with robot := robot } [.notified notification]
  | jump {label : Name} {condition : Node} {location : Location} {target : Nat}
      (held :
        Evaluation.boolean ⟨settings, painter, some state⟩ budget condition = .ok true)
      (known : state.labels.find? label = some target) :
      CarriedOut (.jump label condition location) { state with counter := target }
        (if settings.trace then [.traced (.jump label target)] else [])
  | pass {label : Name} {condition : Node} {location : Location}
      (held :
        Evaluation.boolean ⟨settings, painter, some state⟩ budget condition = .ok false) :
      CarriedOut (.jump label condition location) state []
  | label {name : Name} {location : Location} : CarriedOut (.label name location) state []

/-- What can come of a statement. -/
inductive State.Attempted (statement : Node) : Step → Prop
  | refused {limit : Nat} (reached : state.atLimit settings = some limit) :
      Attempted statement ⟨state, [], some (.ofMishap (.stepLimit limit) statement)⟩
  | failed {fault : Fault} (below : state.atLimit settings = none)
      (fails : state.count.perform settings painter budget statement = .error fault) :
      Attempted statement
        ⟨state.count, state.announcement settings statement, some fault⟩
  | completed {reached : State} {events : List Event} (below : state.atLimit settings = none)
      (carriedOut : State.CarriedOut settings painter budget state.count statement reached events) :
      Attempted statement
        ⟨reached, state.announcement settings statement ++ events, none⟩

end

/-- What a step means for the robot and for the painter: nothing, or the effect
of a command.  The latter is what instructions are for. -/
inductive State.Reports (settings : Settings) (state : State) (statement : Node)
    (step : Step) : Prop
  | nothing (same : step.state.robot = state.robot)
      (silent : Event.notifications step.events = [])
      (inactive : (statement.isInstruction && step.fault.isNone) = false)
  | effect {notification : Notification}
      (effect : Effect settings state.robot step.state.robot notification)
      (told : Event.notifications step.events = [notification])
      (active : (statement.isInstruction && step.fault.isNone) = true)

variable {settings : Settings} {painter : Painter} {budget : Nat} {state : State}
  {statement : Node}

namespace Event

@[simp]
theorem notifications_append (first second : List Event) :
    notifications (first ++ second) = notifications first ++ notifications second :=
  List.filterMap_append

@[simp]
theorem notifications_notified (notification : Notification) :
    notifications [.notified notification] = [notification] := rfl

@[simp]
theorem notifications_jump (trace : Bool) (label : Name) (target : Nat) :
    notifications (if trace then [.traced (.jump label target)] else []) = [] := by
  cases trace <;> rfl

theorem mem_notifications {events : List Event} {told : Notification} :
    told ∈ notifications events ↔ .notified told ∈ events := by
  unfold notifications
  rw [List.mem_filterMap]
  constructor
  · rintro ⟨event, member, reports⟩
    cases event with
    | traced line => cases reports
    | notified reported =>
        cases reports
        exact member
  · exact fun member => ⟨_, member, rfl⟩

end Event

namespace State

theorem carriedOut_of_perform {reached : State} {events : List Event}
    (done : state.perform settings painter budget statement = .ok (reached, events)) :
    CarriedOut settings painter budget state statement reached events := by
  cases statement with
  | assignment name value location =>
      rcases exists_of_bind_ok done with ⟨result, evaluated, done⟩
      cases done
      exact .assignment evaluated
  | instruction code arguments location =>
      unfold perform at done
      dsimp only at done
      cases named : code.text?.bind Command.ofCode? with
      | none =>
          rw [named] at done
          cases done
      | some command =>
          rw [named] at done
          rcases exists_of_bind_ok done with ⟨⟨robot, notification⟩, performed, done⟩
          cases done
          exact .instruction (.of_perform performed)
  | jump label condition location =>
      rcases exists_of_bind_ok done with ⟨truth, held, done⟩
      cases truth with
      | false =>
          cases done
          exact .pass held
      | true =>
          rw [if_pos rfl] at done
          cases known : state.labels.find? label with
          | none =>
              rw [known] at done
              cases done
          | some target =>
              rw [known] at done
              cases done
              exact .jump held known
  | label name location =>
      cases done
      exact .label
  | _ => cases done

/-- Every step is of one of three kinds. -/
theorem attempted (settings : Settings) (painter : Painter) (budget : Nat) (state : State)
    (statement : Node) :
    Attempted settings painter budget state statement
      (state.step settings painter budget statement) := by
  unfold step
  cases reached : state.atLimit settings with
  | some limit => exact .refused reached
  | none =>
      cases performed : state.count.perform settings painter budget statement with
      | error fault => exact .failed reached performed
      | ok result => exact .completed reached (carriedOut_of_perform performed)

@[simp]
theorem notifications_announcement (state : State) (statement : Node) :
    Event.notifications (state.announcement settings statement) = [] := by
  unfold announcement
  cases settings.trace with
  | false => rfl
  | true => cases statement <;> rfl

theorem Attempted.reports {step : Step}
    (attempted : Attempted settings painter budget state statement step) :
    Reports settings state statement step := by
  cases attempted with
  | refused reached => exact .nothing rfl rfl (Bool.and_false _)
  | failed below fails => exact .nothing rfl (notifications_announcement ..) (Bool.and_false _)
  | completed below carriedOut =>
      cases carriedOut with
      | assignment evaluated => exact .nothing rfl (by simp) rfl
      | instruction effect => exact .effect effect (by simp) rfl
      | jump held known => exact .nothing rfl (by simp) rfl
      | pass held => exact .nothing rfl (by simp) rfl
      | label => exact .nothing rfl (by simp) rfl

theorem reports (settings : Settings) (painter : Painter) (budget : Nat) (state : State)
    (statement : Node) :
    Reports settings state statement (state.step settings painter budget statement) :=
  (attempted settings painter budget state statement).reports

end State
end PixelBrush
