import PixelBrush.State.Step

/-! # Carrying out one statement in place

A statement can also be carried out on the spot: it changes the state and adds
events one after the other, as it comes to them, and what it has done remains
when it fails later on.
-/

namespace PixelBrush

/-- The state of a run and what has happened in it so far. -/
structure Scene where
  state : State
  events : List Event := []

/-- A computation that changes a scene as it goes. -/
abbrev Action := EStateM Fault Scene

namespace Action

/-- Go on with what has been found, if it has been found. -/
def lift {α : Type} : Except Fault α → Action α
  | .ok value => pure value
  | .error fault => throw fault

def robot : Action Robot := do
  return (← get).state.robot

def change (update : State → State) : Action Unit :=
  modify fun scene => { scene with state := update scene.state }

def changeRobot (update : Robot → Robot) : Action Unit :=
  change fun state => { state with robot := update state.robot }

def moveTo (x y : Int) : Action Unit :=
  changeRobot fun robot => { robot with x := x, y := y }

def add (events : List Event) : Action Unit :=
  modify fun scene => { scene with events := scene.events ++ events }

def notify (notification : Notification) : Action Unit :=
  add [.notified notification]

def require (condition : Bool) (cause : Mishap) (node : Node) : Action Unit :=
  lift (Command.require condition cause node)

def wrongArity (command : Command) (node : Node) (arguments : List Node) : Action Unit :=
  throw (.ofMishap (.arity command.title command.arity arguments.length) node)

section

variable (settings : Settings) (painter : Painter) (budget : Nat)

/-- Look at the scene in order to find something. -/
def look {α : Type} (find : View → Except Fault α) : Action α := do
  lift (find ⟨settings, painter, some (← get).state⟩)

def number (argument : Node) : Action Int :=
  look settings painter fun view => Evaluation.number view budget argument

def color (owner argument : Node) : Action Color :=
  look settings painter fun view => Evaluation.color view budget owner argument

def spawn (node : Node) (arguments : List Node) : Action Unit := do
  require (!(← robot).spawned) .spawnRepeated node
  match arguments with
  | [first, second] =>
      let x ← number settings painter budget first
      let y ← number settings painter budget second
      require (settings.inBounds x y) (.spawnOutside x y) node
      moveTo x y
      changeRobot fun robot => { robot with spawned := true }
      notify (.spawn x y)
  | arguments => wrongArity .spawn node arguments

def setColor (node : Node) (arguments : List Node) : Action Unit := do
  require (← robot).spawned .spawnMissing node
  match arguments with
  | [first] =>
      let shade ← color settings painter budget node first
      changeRobot fun robot => { robot with color := shade }
      notify (.color shade.name)
  | arguments => wrongArity .color node arguments

def setSize (node : Node) (arguments : List Node) : Action Unit := do
  require (← robot).spawned .spawnMissing node
  match arguments with
  | [first] =>
      let asked ← number settings painter budget first
      require (decide (0 < asked)) .sizeNotPositive node
      changeRobot fun robot => { robot with size := oddBrushSize asked }
      notify (.size (← robot).size)
  | arguments => wrongArity .size node arguments

/-- Draw up to a place that lies some way off in a direction. -/
def draw (command : Command) (notPositive : Mishap) (outside : Int → Int → Mishap)
    (told : (start : Robot) → (x y reach : Int) → Notification) (node : Node)
    (arguments : List Node) : Action Unit := do
  require (← robot).spawned .spawnMissing node
  match arguments with
  | [first, second, third] =>
      let dx ← number settings painter budget first
      let dy ← number settings painter budget second
      let reach ← number settings painter budget third
      require (isDirection dx dy) (.invalidDirection dx dy) node
      require (decide (0 < reach)) notPositive node
      let start ← robot
      let x := start.x + dx * reach
      let y := start.y + dy * reach
      require (settings.inBounds x y) (outside x y) node
      notify (told start x y reach)
      moveTo x y
  | arguments => wrongArity command node arguments

def drawLine : (node : Node) → (arguments : List Node) → Action Unit :=
  draw settings painter budget .drawLine .distanceNotPositive .lineOutside
    fun start x y _ => .line start.x start.y x y start.color.name start.size

def drawCircle : (node : Node) → (arguments : List Node) → Action Unit :=
  draw settings painter budget .drawCircle .radiusNotPositive .circleOutside
    fun start x y reach => .circle x y reach start.color.name start.size

def drawRectangle (node : Node) (arguments : List Node) : Action Unit := do
  require (← robot).spawned .spawnMissing node
  match arguments with
  | [first, second, third, fourth, fifth] =>
      let dx ← number settings painter budget first
      let dy ← number settings painter budget second
      let distance ← number settings painter budget third
      let width ← number settings painter budget fourth
      let height ← number settings painter budget fifth
      require (isDirection dx dy) (.invalidDirection dx dy) node
      require (decide (0 < distance ∧ 0 < width ∧ 0 < height)) .extentNotPositive node
      let start ← robot
      let x := start.x + dx * distance
      let y := start.y + dy * distance
      require (settings.inBounds x y && settings.inBounds (x + width - 1) (y + height - 1))
        .rectangleOutside node
      notify (.rectangle x y width height start.color.name start.size)
      moveTo x y
  | arguments => wrongArity .drawRectangle node arguments

def fill (node : Node) (arguments : List Node) : Action Unit := do
  require (← robot).spawned .spawnMissing node
  match arguments with
  | [] =>
      let place ← robot
      notify (.fill place.x place.y place.color.name)
  | arguments => wrongArity .fill node arguments

/-- Carry out a command in place. -/
def command : Command → (node : Node) → (arguments : List Node) → Action Unit
  | .spawn => spawn settings painter budget
  | .color => setColor settings painter budget
  | .size => setSize settings painter budget
  | .drawLine => drawLine settings painter budget
  | .drawCircle => drawCircle settings painter budget
  | .drawRectangle => drawRectangle settings painter budget
  | .fill => fill

/-- Carry out a jump in place.  Its trace line is written before it is taken. -/
def jump (node : Node) (label : Name) (condition : Node) : Action Unit := do
  if ← look settings painter fun view => Evaluation.boolean view budget condition then
    match (← get).state.labels.find? label with
    | some target =>
        add (if settings.trace then [.traced (.jump label target)] else [])
        change fun state => { state with counter := target }
    | none => throw (.ofMishap (.unknownLabel label) node)

/-- Carry out a statement in place that has been counted. -/
def perform (statement : Node) : Action Unit :=
  match statement with
  | .assignment name value _ => do
      let result ← look settings painter fun view => Evaluation.evaluate view budget value
      change fun state => { state with store := state.store.insert name result }
  | .instruction code arguments _ =>
      match code.text?.bind Command.ofCode? with
      | some asked => command settings painter budget asked statement arguments
      | none => throw (.ofMishap (.unknownInstruction code) statement)
  | .jump label condition _ => jump settings painter budget statement label condition
  | .label _ _ => pure ()
  | _ => throw (.ofMishap (.unknownStatement statement.typeName) statement)

/-- Count a statement, announce it and carry it out, all in place. -/
def step (statement : Node) : Action Unit := do
  match (← get).state.atLimit settings with
  | some limit => throw (.ofMishap (.stepLimit limit) statement)
  | none =>
      change State.count
      add ((← get).state.announcement settings statement)
      perform settings painter budget statement

end

end Action
end PixelBrush
