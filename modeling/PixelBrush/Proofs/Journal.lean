import PixelBrush.Proofs.Run
import PixelBrush.Session

/-! # Notifications as a journal of the robot

Whoever keeps the notifications of a run, and nothing else, knows at any time
where the robot stands and which brush it holds.
-/

namespace PixelBrush

/-- The robot, as a reader of notifications imagines it. -/
structure Pen where
  x : Int := 0
  y : Int := 0
  spawned : Bool := false
  color : String := "transparent"
  size : Int := 1

namespace Pen

/-- The pen after one more notification. -/
def follow (pen : Pen) : Notification → Pen
  | .spawn x y => { pen with x := x, y := y, spawned := true }
  | .color color => { pen with color := color }
  | .size size => { pen with size := size }
  | .line _ _ endX endY _ _ => { pen with x := endX, y := endY }
  | .circle centerX centerY _ _ _ => { pen with x := centerX, y := centerY }
  | .rectangle x y _ _ _ _ => { pen with x := x, y := y }
  | .fill _ _ _ => pen

/-- The pen after all notifications of a log. -/
def replay (log : List Notification) : Pen :=
  log.foldl follow {}

/-- Whether a notification starts where the pen stands, if it has a start, and
speaks of the brush as it is. -/
def Fits (pen : Pen) : Notification → Prop
  | .spawn _ _ | .color _ | .size _ => True
  | .line startX startY _ _ color size =>
      startX = pen.x ∧ startY = pen.y ∧ color = pen.color ∧ size = pen.size
  | .circle _ _ _ color size | .rectangle _ _ _ _ color size =>
      color = pen.color ∧ size = pen.size
  | .fill x y color => x = pen.x ∧ y = pen.y ∧ color = pen.color

theorem replay_concat (log : List Notification) (notification : Notification) :
    replay (log ++ [notification]) = (replay log).follow notification := by
  unfold replay
  rw [List.foldl_append]
  rfl

end Pen

/-- The pen that a robot holds. -/
def Robot.pen (robot : Robot) : Pen :=
  ⟨robot.x, robot.y, robot.spawned, robot.color.name, robot.size⟩

variable {settings : Settings} {robot after : Robot} {notification : Notification}

theorem Effect.follow (effect : Effect settings robot after notification) :
    robot.pen.follow notification = after.pen := by
  cases effect <;> rfl

theorem Effect.fits (effect : Effect settings robot after notification) :
    robot.pen.Fits notification := by
  cases effect with
  | spawn fresh inside => trivial
  | color spawned => trivial
  | size spawned positive => trivial
  | line spawned direction positive inside => exact ⟨rfl, rfl, rfl, rfl⟩
  | circle spawned direction positive inside => exact ⟨rfl, rfl⟩
  | rectangle spawned direction positive nearInside farInside => exact ⟨rfl, rfl⟩
  | fill spawned => exact ⟨rfl, rfl, rfl⟩

/-- A log that tells the robot, and in which every notification fits what
those before it tell. -/
structure Faithful (robot : Robot) (log : List Notification) : Prop where
  replayed : Pen.replay log = robot.pen
  fitting : ∀ (index : Nat) (notification : Notification), log[index]? = some notification →
    (Pen.replay (log.take index)).Fits notification

namespace Faithful

variable {log : List Notification}

theorem nil : Faithful {} [] where
  replayed := rfl
  fitting index notification found := by simp at found

theorem concat (faithful : Faithful robot log)
    (effect : Effect settings robot after notification) :
    Faithful after (log ++ [notification]) where
  replayed := by
    rw [Pen.replay_concat, faithful.replayed]
    exact effect.follow
  fitting index logged found := by
    by_cases within : index < log.length
    · rw [List.getElem?_append_left within] at found
      rw [List.take_append_of_le_length (by omega)]
      exact faithful.fitting index logged found
    · -- Only the last notification is left, and all others come before it.
      have last : index = log.length := by
        have bound := (List.getElem?_eq_some_iff.mp found).1
        simp at bound
        omega
      subst last
      rw [List.take_left, faithful.replayed]
      rw [List.getElem?_concat_length] at found
      cases found
      exact effect.fits

end Faithful

namespace Job

theorem faithful_after (job : Job) (count : Nat) :
    Faithful (job.after count).state.robot (job.after count).notifications := by
  apply notifications_induction .nil
  intro robot after notification log faithful effect
  exact faithful.concat effect

theorem notifications_after_succ {job : Job} {count : Nat} {statement : Node}
    (next : job.next? (job.after count) = some statement) :
    ∃ added, (job.after (count + 1)).notifications = (job.after count).notifications ++ added ∧
      added.length =
        if statement.isInstruction && !(job.after (count + 1)).hasFailed then 1 else 0 := by
  rw [after_succ, advance_of_next? next, notifications_extend, hasFailed_extend]
  refine ⟨_, rfl, ?_⟩
  have reports := (job.after count).state.reports job.settings job.painting job.budget statement
  rw [Option.not_isSome, stepOf]
  cases reports with
  | nothing same silent inactive => rw [silent, inactive]; rfl
  | effect effect told active => rw [told, active]; rfl

/-- The notifications of a run tell the robot: replayed, they give its place and
its brush, each of them fits the replay of those before it, and a statement adds
one to them exactly if it carries out a command and does not fail.  A session
appends them to its log. -/
theorem notifications_tell_robot (job : Job) (count : Nat) :
    Pen.replay (job.after count).notifications = (job.after count).state.robot.pen ∧
    (∀ (index : Nat) (notification : Notification),
      (job.after count).notifications[index]? = some notification →
      (Pen.replay ((job.after count).notifications.take index)).Fits notification) ∧
    (∀ statement, job.next? (job.after count) = some statement →
      ∃ added,
        (job.after (count + 1)).notifications = (job.after count).notifications ++ added ∧
        added.length =
          if statement.isInstruction && !(job.after (count + 1)).hasFailed then 1 else 0) ∧
    (job.next? (job.after count) = none → job.after (count + 1) = job.after count) ∧
    ∀ session : Session,
      (session.conclude (job.after count)).log =
        session.log ++ (job.after count).notifications := by
  have faithful := job.faithful_after count
  refine ⟨faithful.replayed, faithful.fitting, ?_, ?_, ?_⟩
  · intro statement next
    exact notifications_after_succ next
  · intro ended
    rw [after_succ, advance_of_next?_none ended]
  · intro session
    rfl

end Job
end PixelBrush
