import PixelBrush.Proofs.PainterAgreement
import PixelBrush.Proofs.Validity

/-! # What painters can rely on

A painter need not check anything.  It is told of a spawn first and never
again, all that it is told of lies on the canvas, and it is asked for no cell
off the canvas.
-/

namespace PixelBrush

/-- The cells from one cell to another, in a straight line. -/
def cellsBetween (startX startY endX endY : Int) : List (Int × Int) :=
  (List.range (max (endX - startX).natAbs (endY - startY).natAbs + 1)).map fun (step : Nat) =>
    (startX + (endX - startX).sign * step, startY + (endY - startY).sign * step)

/-- Whether a line between two cells is horizontal, vertical or diagonal. -/
def Aligned (startX startY endX endY : Int) : Prop :=
  startX = endX ∨ startY = endY ∨ (endX - startX).natAbs = (endY - startY).natAbs

/-- Whether a number can be the size of a brush. -/
def BrushSize (size : Int) : Prop :=
  1 ≤ size ∧ size % 2 = 1

/-- Whether a notification speaks of cells of the canvas, colors and brushes only. -/
def Notification.Safe (settings : Settings) : Notification → Prop
  | .spawn x y => settings.inBounds x y = true
  | .color shade => Color.Canonical shade
  | .size thickness => BrushSize thickness
  | .line startX startY endX endY shade thickness =>
      (settings.inBounds startX startY = true ∧ settings.inBounds endX endY = true) ∧
      (startX, startY) ≠ (endX, endY) ∧ Aligned startX startY endX endY ∧
      (∀ cell ∈ cellsBetween startX startY endX endY,
        settings.inBounds cell.1 cell.2 = true) ∧
      Color.Canonical shade ∧ BrushSize thickness
  | .circle centerX centerY radius shade thickness =>
      settings.inBounds centerX centerY = true ∧
      (1 ≤ radius ∧ radius < settings.canvasSize) ∧
      Color.Canonical shade ∧ BrushSize thickness
  | .rectangle x y width height shade thickness =>
      settings.inBounds x y = true ∧ (1 ≤ width ∧ 1 ≤ height) ∧
      (x + width ≤ settings.canvasSize ∧ y + height ≤ settings.canvasSize) ∧
      (∀ cellX cellY, x ≤ cellX → cellX < x + width → y ≤ cellY → cellY < y + height →
        settings.inBounds cellX cellY = true) ∧
      Color.Canonical shade ∧ BrushSize thickness
  | .fill x y shade => settings.inBounds x y = true ∧ Color.Canonical shade

section

variable {settings : Settings} {startX startY endX endY : Int}

/-- Steps towards a number lead no further than to the number. -/
theorem sign_mul_between (start finish : Int) (step : Nat)
    (reach : start = finish ∨ step ≤ (finish - start).natAbs) :
    min start finish ≤ start + (finish - start).sign * step ∧
      start + (finish - start).sign * step ≤ max start finish := by
  rcases Int.lt_trichotomy start finish with rises | same | falls
  · rw [Int.sign_eq_one_of_pos (by omega)]
    omega
  · subst same
    rw [Int.sub_self, Int.sign_zero]
    omega
  · rw [Int.sign_eq_neg_one_of_neg (by omega)]
    omega

theorem inBounds_of_mem_cellsBetween (start : settings.inBounds startX startY = true)
    (finish : settings.inBounds endX endY = true) (aligned : Aligned startX startY endX endY)
    {cell : Int × Int} (member : cell ∈ cellsBetween startX startY endX endY) :
    settings.inBounds cell.1 cell.2 = true := by
  unfold cellsBetween at member
  rw [List.mem_map] at member
  rcases member with ⟨step, member, rfl⟩
  rw [List.mem_range] at member
  unfold Aligned at aligned
  have horizontal := sign_mul_between startX endX step (by omega)
  have vertical := sign_mul_between startY endY step (by omega)
  rw [Settings.inBounds_iff] at start finish ⊢
  dsimp only
  omega

example : cellsBetween 1 4 3 2 = [(1, 4), (2, 3), (3, 2)] := by decide

theorem direction_cases {dx dy : Int} (direction : isDirection dx dy = true) :
    (dx = -1 ∨ dx = 0 ∨ dx = 1) ∧ (dy = -1 ∨ dy = 0 ∨ dy = 1) ∧ ¬(dx = 0 ∧ dy = 0) := by
  unfold isDirection at direction
  rw [decide_eq_true_iff] at direction
  omega

variable {x y dx dy distance : Int}

theorem aligned_of_direction (direction : isDirection dx dy = true) (x y distance : Int) :
    Aligned x y (x + dx * distance) (y + dy * distance) := by
  unfold Aligned
  rcases direction_cases direction with ⟨rfl | rfl | rfl, rfl | rfl | rfl, moves⟩ <;> omega

theorem ne_of_direction (direction : isDirection dx dy = true) (positive : 0 < distance) :
    (x, y) ≠ (x + dx * distance, y + dy * distance) := by
  rw [Ne, Prod.mk.injEq]
  rcases direction_cases direction with ⟨rfl | rfl | rfl, rfl | rfl | rfl, moves⟩ <;> omega

/-- No way on the canvas is as long as its side. -/
theorem distance_lt_of_inBounds (direction : isDirection dx dy = true)
    (start : settings.inBounds x y = true)
    (finish : settings.inBounds (x + dx * distance) (y + dy * distance) = true) :
    distance < settings.canvasSize := by
  rw [Settings.inBounds_iff] at start finish
  rcases direction_cases direction with ⟨rfl | rfl | rfl, rfl | rfl | rfl, moves⟩ <;> omega

end

variable {settings : Settings} {robot after : Robot} {notification : Notification}
  {log : List Notification}

theorem Effect.safe (effect : Effect settings robot after notification)
    (valid : robot.Valid settings) : notification.Safe settings := by
  have brush : BrushSize robot.size := ⟨valid.positive, valid.odd⟩
  cases effect with
  | spawn fresh inside => exact inside
  | color spawned => exact Color.canonical_name _
  | size spawned positive => exact ⟨oddBrushSize_positive positive, oddBrushSize_odd _⟩
  | @line dx dy distance spawned direction positive inside =>
      have aligned := aligned_of_direction direction robot.x robot.y distance
      exact ⟨⟨valid.inside, inside⟩, ne_of_direction direction positive, aligned,
        fun cell member => inBounds_of_mem_cellsBetween valid.inside inside aligned member,
        valid.canonical, brush⟩
  | circle spawned direction positive inside =>
      have short := distance_lt_of_inBounds direction valid.inside inside
      exact ⟨inside, ⟨positive, short⟩, valid.canonical, brush⟩
  | rectangle spawned direction positive nearInside farInside =>
      have near := Settings.inBounds_iff.mp nearInside
      have far := Settings.inBounds_iff.mp farInside
      refine ⟨nearInside, ⟨positive.2.1, positive.2.2⟩, ⟨by omega, by omega⟩, ?_,
        valid.canonical, brush⟩
      intro cellX cellY left right above below
      rw [Settings.inBounds_iff]
      omega
  | fill spawned => exact ⟨valid.inside, valid.canonical⟩

theorem Effect.eq_spawn (effect : Effect settings robot after notification)
    (fresh : robot.spawned = false) : ∃ x y, notification = .spawn x y := by
  cases effect with
  | spawn fresh inside => exact ⟨_, _, rfl⟩
  | color spawned | size spawned | line spawned | circle spawned | rectangle spawned
  | fill spawned =>
      rw [fresh] at spawned
      cases spawned

theorem Effect.ne_spawn (effect : Effect settings robot after notification)
    (spawned : robot.spawned = true) (x y : Int) : notification ≠ .spawn x y := by
  intro isSpawn
  cases effect with
  | spawn fresh inside =>
      rw [spawned] at fresh
      cases fresh
  | color | size | line | circle | rectangle | fill => cases isSpawn

/-- Whether a log starts with its only spawn, if it is not empty. -/
def Opened (log : List Notification) : Prop :=
  log = [] ∨ ∃ x y later, log = .spawn x y :: later ∧
    ∀ notification ∈ later, ∀ x y, notification ≠ .spawn x y

/-- What a log has to do with the robot for the painter to rely on it. -/
structure Reliable (settings : Settings) (robot : Robot) (log : List Notification) : Prop where
  valid : robot.Valid settings
  safe : ∀ notification ∈ log, notification.Safe settings
  opened : Opened log
  silent : robot.spawned = false → log = []
  told : robot.spawned = true → log ≠ []

namespace Reliable

theorem nil (settings : Settings) : Reliable settings {} [] where
  valid := Robot.valid_new settings
  safe notification member := by cases member
  opened := .inl rfl
  silent _ := rfl
  told spawned := by cases spawned

theorem concat (reliable : Reliable settings robot log)
    (effect : Effect settings robot after notification) :
    Reliable settings after (log ++ [notification]) where
  valid := effect.valid reliable.valid
  safe logged member := by
    rcases List.mem_append.mp member with earlier | last
    · exact reliable.safe logged earlier
    · rw [List.mem_singleton.mp last]
      exact effect.safe reliable.valid
  opened := by
    refine .inr ?_
    cases spawned : robot.spawned with
    | false =>
        rcases effect.eq_spawn spawned with ⟨x, y, rfl⟩
        rw [reliable.silent spawned]
        exact ⟨x, y, [], rfl, fun logged member => by cases member⟩
    | true =>
        rcases reliable.opened with empty | ⟨x, y, later, rfl, others⟩
        · exact absurd empty (reliable.told spawned)
        · refine ⟨x, y, later ++ [notification], rfl, ?_⟩
          intro logged member
          rcases List.mem_append.mp member with earlier | last
          · exact others logged earlier
          · rw [List.mem_singleton.mp last]
            exact effect.ne_spawn spawned
  silent fresh := by
    rw [effect.spawned] at fresh
    cases fresh
  told _ := List.concat_ne_nil _ _

end Reliable

namespace Job

theorem reliable_after (job : Job) (count : Nat) :
    Reliable job.settings (job.after count).state.robot (job.after count).notifications := by
  apply notifications_induction (.nil job.settings)
  intro robot after notification log reliable effect
  exact reliable.concat effect

/-- However far a run goes, and however it ends, the painter is told of a spawn first
and then never again, and all that it is told is safe.  The run is the same
with a painter that refuses to answer for cells off the canvas, so that it asks
for none of them. -/
theorem safe_after (job : Job) (count : Nat) :
    Opened (job.after count).notifications ∧
    (∀ notification ∈ (job.after count).notifications, notification.Safe job.settings) ∧
    (job.withPainter (job.painting.within job.settings)).after count = job.after count := by
  have reliable := job.reliable_after count
  exact ⟨reliable.opened, reliable.safe,
    after_withPainter (Painter.agreeOn_within job.settings job.painting) count⟩

end Job
end PixelBrush
