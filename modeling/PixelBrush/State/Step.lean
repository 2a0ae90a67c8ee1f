import PixelBrush.Evaluation
import PixelBrush.State.Event

/-! # Carrying out one statement

A step counts the statement, carries it out, and notifies the painter if the
statement is a command.  If the statement fails, it changes nothing but the
count.  If the limit of steps has been reached, not even that.
-/

namespace PixelBrush

/-- Whether a line may go in a direction: to one of the eight neighbors of a
cell. -/
def isDirection (dx dy : Int) : Bool :=
  decide (dx.natAbs ≤ 1 ∧ dy.natAbs ≤ 1 ∧ ¬(dx = 0 ∧ dy = 0))

/-- The greatest odd number up to a positive number. -/
def oddBrushSize (size : Int) : Int :=
  if size % 2 = 0 then size - 1 else size

namespace Command

/-- Fail unless a condition holds. -/
def require (condition : Bool) (cause : Mishap) (node : Node) : Except Fault Unit :=
  if condition then .ok () else .error (.ofMishap cause node)

/-- Carry out a command: the robot afterwards, and what the painter is told. -/
def perform (settings : Settings) (robot : Robot) (node : Node)
    (number : Node → Except Fault Int) (color : Node → Except Fault Color)
    (command : Command) (arguments : List Node) : Except Fault (Robot × Notification) := do
  if command = .spawn then
    require (!robot.spawned) .spawnRepeated node
  else
    require robot.spawned .spawnMissing node
  match command, arguments with
  | .spawn, [first, second] =>
      let x ← number first
      let y ← number second
      require (settings.inBounds x y) (.spawnOutside x y) node
      return ({ robot with x := x, y := y, spawned := true }, .spawn x y)
  | .color, [first] =>
      let shade ← color first
      return ({ robot with color := shade }, .color shade.name)
  | .size, [first] =>
      let asked ← number first
      require (decide (0 < asked)) .sizeNotPositive node
      let thickness := oddBrushSize asked
      return ({ robot with size := thickness }, .size thickness)
  | .drawLine, [first, second, third] =>
      let dx ← number first
      let dy ← number second
      let distance ← number third
      require (isDirection dx dy) (.invalidDirection dx dy) node
      require (decide (0 < distance)) .distanceNotPositive node
      let x := robot.x + dx * distance
      let y := robot.y + dy * distance
      require (settings.inBounds x y) (.lineOutside x y) node
      return ({ robot with x := x, y := y },
        .line robot.x robot.y x y robot.color.name robot.size)
  | .drawCircle, [first, second, third] =>
      let dx ← number first
      let dy ← number second
      let radius ← number third
      require (isDirection dx dy) (.invalidDirection dx dy) node
      require (decide (0 < radius)) .radiusNotPositive node
      let x := robot.x + dx * radius
      let y := robot.y + dy * radius
      require (settings.inBounds x y) (.circleOutside x y) node
      return ({ robot with x := x, y := y },
        .circle x y radius robot.color.name robot.size)
  | .drawRectangle, [first, second, third, fourth, fifth] =>
      let dx ← number first
      let dy ← number second
      let distance ← number third
      let width ← number fourth
      let height ← number fifth
      require (isDirection dx dy) (.invalidDirection dx dy) node
      require (decide (0 < distance ∧ 0 < width ∧ 0 < height)) .extentNotPositive node
      let x := robot.x + dx * distance
      let y := robot.y + dy * distance
      require (settings.inBounds x y && settings.inBounds (x + width - 1) (y + height - 1))
        .rectangleOutside node
      return ({ robot with x := x, y := y },
        .rectangle x y width height robot.color.name robot.size)
  | .fill, [] =>
      return (robot, .fill robot.x robot.y robot.color.name)
  | command, arguments =>
      .error (.ofMishap (.arity command.title command.arity arguments.length) node)

end Command

/-- What came of a statement: the state afterwards, what happened on the way,
and the fault if it failed. -/
structure Step where
  state : State
  events : List Event := []
  fault : Option Fault := none

namespace State

/-- Carry out a statement that has been counted.  A jump that is taken leaves a
trace line, if a trace is asked for. -/
def perform (settings : Settings) (painter : Painter) (budget : Nat) (state : State)
    (statement : Node) : Except Fault (State × List Event) :=
  let view : View := ⟨settings, painter, some state⟩
  match statement with
  | .assignment name value _ => do
      let result ← Evaluation.evaluate view budget value
      return ({ state with store := state.store.insert name result }, [])
  | .instruction code arguments _ =>
      match code.text?.bind Command.ofCode? with
      | some command => do
          let (robot, notification) ←
            command.perform settings state.robot statement (Evaluation.number view budget)
              (Evaluation.color view budget statement) arguments
          return ({ state with robot := robot }, [.notified notification])
      | none => .error (.ofMishap (.unknownInstruction code) statement)
  | .jump label condition _ => do
      if ← Evaluation.boolean view budget condition then
        match state.labels.find? label with
        | some target =>
            return ({ state with counter := target },
              if settings.trace then [.traced (.jump label target)] else [])
        | none => .error (.ofMishap (.unknownLabel label) statement)
      else
        return (state, [])
  | .label _ _ => .ok (state, [])
  | _ => .error (.ofMishap (.unknownStatement statement.typeName) statement)

/-- The trace line that announces a statement, if a trace is asked for. -/
def announcement (settings : Settings) (state : State) (statement : Node) : List Event :=
  match settings.trace, statement.location? with
  | true, some location =>
      [.traced (.statement state.counter statement.typeName location.line)]
  | _, _ => []

def atLimit (settings : Settings) (state : State) : Option Nat :=
  settings.stepLimit.filter fun limit => decide (limit ≤ state.steps)

/-- The state in which one more statement has been started. -/
def count (state : State) : State :=
  { state with steps := state.steps + 1 }

/-- Count a statement and carry it out. -/
def step (settings : Settings) (painter : Painter) (budget : Nat) (state : State)
    (statement : Node) : Step :=
  match state.atLimit settings with
  | some limit => { state, fault := some (.ofMishap (.stepLimit limit) statement) }
  | none =>
      match state.count.perform settings painter budget statement with
      | .ok (reached, events) =>
          { state := reached, events := state.announcement settings statement ++ events }
      | .error fault =>
          { state := state.count, events := state.announcement settings statement,
            fault := some fault }

/-- The state in which the counter has moved on to the next statement. -/
def moveOn (state : State) : State :=
  { state with counter := state.counter + 1 }

end State
end PixelBrush
