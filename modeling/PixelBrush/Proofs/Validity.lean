import PixelBrush.Proofs.Progress
import PixelBrush.State.Labels

/-! # Valid robots and states

Whatever statements are carried out or fail, the robot stays on the canvas,
keeps a brush of odd size, and is as it was made until it is spawned.  All of
this can be told from the effects of commands alone.
-/

namespace PixelBrush

variable {settings : Settings}

/-- Whether a text is the canonical name of a color. -/
def Color.Canonical (name : String) : Prop :=
  name ∈ all.map Color.name

theorem Color.canonical_name (color : Color) : Canonical color.name :=
  List.mem_map_of_mem (mem_all color)

theorem oddBrushSize_positive {asked : Int} (positive : 0 < asked) : 1 ≤ oddBrushSize asked := by
  unfold oddBrushSize
  split <;> omega

theorem oddBrushSize_odd (asked : Int) : oddBrushSize asked % 2 = 1 := by
  unfold oddBrushSize
  split <;> omega

/-- What holds of a robot on a canvas at all times. -/
structure Robot.Valid (settings : Settings) (robot : Robot) : Prop where
  inside : settings.inBounds robot.x robot.y = true
  untouched : robot.spawned = false →
    robot.x = 0 ∧ robot.y = 0 ∧ robot.color = .transparent ∧ robot.size = 1
  positive : 1 ≤ robot.size
  odd : robot.size % 2 = 1
  canonical : Color.Canonical robot.color.name

/-- What holds of a state of a run at all times. -/
structure State.Valid (settings : Settings) (state : State) : Prop where
  robot : state.robot.Valid settings
  kinds : ∀ entry ∈ state.store.entries,
    entry.2.kind = .number ∨ entry.2.kind = .boolean ∨ entry.2.kind = .string

theorem Value.kind_cases (value : Value) :
    value.kind = .number ∨ value.kind = .boolean ∨ value.kind = .string := by
  cases value with
  | number value => exact .inl rfl
  | boolean value => exact .inr (.inl rfl)
  | string value => exact .inr (.inr rfl)

theorem Robot.valid_new (settings : Settings) : Robot.Valid settings {} where
  inside := by
    have side : (0 : Int) < settings.canvasSize := Int.natCast_pos.mpr settings.positive
    exact Settings.inBounds_iff.mpr ⟨Int.le_refl 0, side, Int.le_refl 0, side⟩
  untouched _ := ⟨rfl, rfl, rfl, rfl⟩
  positive := by decide
  odd := by decide
  canonical := Color.canonical_name _

namespace Effect

variable {robot after : Robot} {notification : Notification}

theorem spawned (effect : Effect settings robot after notification) : after.spawned = true := by
  cases effect with
  | spawn fresh inside => rfl
  | color spawned | size spawned | line spawned | circle spawned | rectangle spawned
  | fill spawned => exact spawned

theorem valid (effect : Effect settings robot after notification)
    (valid : robot.Valid settings) : after.Valid settings := by
  have touched (fresh : after.spawned = false) : False := by
    rw [effect.spawned] at fresh
    cases fresh
  cases effect with
  | spawn fresh inside =>
      exact ⟨inside, fun fresh => (touched fresh).elim, valid.positive, valid.odd, valid.canonical⟩
  | color spawned =>
      exact ⟨valid.inside, fun fresh => (touched fresh).elim, valid.positive, valid.odd,
        Color.canonical_name _⟩
  | size spawned positive =>
      exact ⟨valid.inside, fun fresh => (touched fresh).elim, oddBrushSize_positive positive,
        oddBrushSize_odd _, valid.canonical⟩
  | line spawned direction positive inside | circle spawned direction positive inside =>
      exact ⟨inside, fun fresh => (touched fresh).elim, valid.positive, valid.odd, valid.canonical⟩
  | rectangle spawned direction positive nearInside farInside =>
      exact ⟨nearInside, fun fresh => (touched fresh).elim, valid.positive, valid.odd,
        valid.canonical⟩
  | fill spawned => exact valid

end Effect

namespace State

variable {painter : Painter} {budget : Nat} {state : State} {statement : Node}

theorem valid_initial (settings : Settings) (statements : List Node) :
    (State.initial statements).Valid settings where
  robot := Robot.valid_new settings
  kinds entry _ := entry.2.kind_cases

theorem Valid.step (valid : state.Valid settings) (painter : Painter) (budget : Nat)
    (statement : Node) :
    (state.step settings painter budget statement).state.Valid settings where
  robot := by
    cases state.reports settings painter budget statement with
    | nothing same silent inactive =>
        rw [same]
        exact valid.robot
    | effect effect told active => exact effect.valid valid.robot
  kinds entry _ := entry.2.kind_cases

theorem spawned_step (spawned : state.robot.spawned = true) (painter : Painter) (budget : Nat)
    (statement : Node) :
    (state.step settings painter budget statement).state.robot.spawned = true := by
  cases state.reports settings painter budget statement with
  | nothing same silent inactive =>
      rw [same]
      exact spawned
  | effect effect told active => exact effect.spawned

/-- Whether a state can be reached from another by single steps, whether they fail
or not, while the painter may change. -/
inductive Reaches (settings : Settings) (first : State) : State → Prop
  | here : Reaches settings first first
  | step {state : State} (before : Reaches settings first state) (painter : Painter)
      (budget : Nat) (statement : Node) :
      Reaches settings first (state.step settings painter budget statement).state

namespace Reaches

variable {first last : State}

theorem valid (reaches : Reaches settings first last) (valid : first.Valid settings) :
    last.Valid settings := by
  induction reaches with
  | here => exact valid
  | step before painter budget statement induction => exact induction.step painter budget statement

theorem spawned (reaches : Reaches settings first last) (spawned : first.robot.spawned = true) :
    last.robot.spawned = true := by
  induction reaches with
  | here => exact spawned
  | step before painter budget statement induction =>
      exact spawned_step induction painter budget statement

end Reaches
end State
end PixelBrush
