import PixelBrush.Color
import PixelBrush.Document
import PixelBrush.Node
import PixelBrush.Table

/-! # Settings and states of a run

The settings stay fixed throughout a run.  The state holds what statements
change: the variables, the robot with its brush, and the position in the
program, together with the labels found before the first statement.
-/

namespace PixelBrush

/-- What a run is told in advance.  The canvas is a square with a positive
side, and the run may be limited to a number of steps. -/
structure Settings where
  canvasSize : Nat
  stepLimit : Option Nat
  trace : Bool
  positive : 0 < canvasSize

/-- Why settings are refused. -/
inductive SettingsError
  | canvasSize (given : Document)
  | stepLimit (given : Document)

namespace SettingsError

def message : SettingsError → String
  | canvasSize given => complete "canvas size must be a positive integer, got " given
  | stepLimit given => complete "max_steps must be a positive integer, got " given
where
  /-- A message that ends with the refused setting. -/
  complete (start : String) (given : Document) : String :=
    match given.inline? with
    | some shown => start ++ shown
    | none => Text.tooLongToWrite

end SettingsError

namespace Settings

/-- The settings that are given, if the sizes are positive integers.  A step
limit may be left out. -/
def check (canvasSize stepLimit : Document) (trace : Bool) : Except SettingsError Settings :=
  match canvasSize with
  | .scalar (some (.number (.ofNat (size + 1)))) =>
      let settings (limit : Option Nat) : Settings := ⟨size + 1, limit, trace, by omega⟩
      match stepLimit with
      | .scalar none => .ok (settings none)
      | .scalar (some (.number (.ofNat (limit + 1)))) => .ok (settings (some (limit + 1)))
      | _ => .error (.stepLimit stepLimit)
  | _ => .error (.canvasSize canvasSize)

def inBounds (settings : Settings) (x y : Int) : Bool :=
  decide (0 ≤ x ∧ x < settings.canvasSize ∧ 0 ≤ y ∧ y < settings.canvasSize)

theorem inBounds_iff {settings : Settings} {x y : Int} :
    settings.inBounds x y = true ↔
      0 ≤ x ∧ x < settings.canvasSize ∧ 0 ≤ y ∧ y < settings.canvasSize :=
  decide_eq_true_iff

end Settings

/-- The robot's place on the canvas and its brush. -/
structure Robot where
  x : Int := 0
  y : Int := 0
  spawned : Bool := false
  color : Color := .transparent
  size : Int := 1
  deriving DecidableEq

/-- A label that is defined although its name is taken. -/
structure Redefinition where
  name : Name
  line : Int
  replacedLine : Int
  deriving DecidableEq

/-- What a run changes. -/
structure State where
  store : Table Name Value := .empty
  labels : Table Name Nat := .empty
  redefinitions : List Redefinition := []
  /-- The index of the statement that is being carried out. -/
  counter : Nat := 0
  /-- How many statements have been started. -/
  steps : Nat := 0
  robot : Robot := {}
  deriving DecidableEq

end PixelBrush
