import PixelBrush.Proofs.Painting
import PixelBrush.Proofs.PainterAgreement
import PixelBrush.Proofs.Spelling
import PixelBrush.Proofs.Tracing
import PixelBrush.Session

/-! # The runs of a session

A session hands nothing on from one run to the next but its cells, and no run
or single statement changes these.  So a run depends on the program, on the
settings and on the colors of the cells on the canvas, and on nothing that has
happened in the session before.
-/

namespace PixelBrush

theorem Painter.agreeOn_ofPainting {settings : Settings} {first second : Painting}
    (cells : ∀ x y, settings.inBounds x y = true → first.color? x y = second.color? x y) :
    AgreeOn settings first second := by
  intro x y inside
  rw [color?_ofPainting, color?_ofPainting, cells x y inside]

namespace Job

variable {job other : Job}

theorem untraced_after_self (job : Job) (count : Nat) :
    (job.after count).untraced = (job.withTrace false).after count :=
  job.untraced_after job.settings.trace count

/-- Two jobs on canvases of one size, with cells of the same colors, come to the same but
for the trace lines. -/
theorem untraced_after_of_agreeOn (size : job.settings.canvasSize = other.settings.canvasSize)
    (limit : job.settings.stepLimit = other.settings.stepLimit)
    (statements : job.statements = other.statements) (budget : job.budget = other.budget)
    (agree : Painter.AgreeOn job.settings other.painting job.painting) (count : Nat) :
    (job.after count).untraced = (other.after count).untraced := by
  have same : other.withTrace false = (job.withTrace false).withPainter other.painting := by
    obtain ⟨⟨canvasSize, stepLimit, trace, positive⟩, painting, statements, budget⟩ := job
    obtain ⟨⟨otherSize, otherLimit, otherTrace, otherPositive⟩, otherPainting, others,
      otherBudget⟩ := other
    simp only at size limit statements budget
    subst size limit statements budget
    rfl
  have agreePlain : Painter.AgreeOn (job.withTrace false).settings other.painting
      (job.withTrace false).painting := agree
  rw [untraced_after_self, untraced_after_self, same, after_withPainter agreePlain]

end Job

namespace Session

/-- Whether a session comes about from another one by runs, of any program and any
length, and by single statements. -/
inductive Reaches (first : Session) : Session → Prop
  | here : Reaches first first
  | run {session : Session} {tree : Node} {job : Job} (before : Reaches first session)
      (asked : session.job? tree = some job) (count : Nat) :
      Reaches first (session.conclude (job.after count))
  | perform {session : Session} (before : Reaches first session) (statements : List Node) :
      Reaches first (session.perform statements).1

/-- What a session keeps while programs are run and statements are carried out in it. -/
structure Keeps (first last : Session) : Prop where
  settings : last.settings = first.settings
  painting : last.painting = first.painting
  budget : last.budget = first.budget
  log : first.log <+: last.log

namespace Keeps

variable {first session last : Session}

theorem refl (session : Session) : session.Keeps session :=
  ⟨rfl, rfl, rfl, List.prefix_rfl⟩

theorem trans (earlier : first.Keeps session) (later : session.Keeps last) : first.Keeps last where
  settings := later.settings.trans earlier.settings
  painting := later.painting.trans earlier.painting
  budget := later.budget.trans earlier.budget
  log := earlier.log.trans later.log

theorem conclude (session : Session) (run : Run) : session.Keeps (session.conclude run) :=
  ⟨rfl, rfl, rfl, List.prefix_append ..⟩

theorem perform (session : Session) (statements : List Node) :
    session.Keeps (session.perform statements).1 := by
  induction statements generalizing session with
  | nil => exact refl session
  | cons statement later induction =>
      unfold Session.perform
      cases session.state with
      | none => exact refl session
      | some state =>
          dsimp only
          have stepped (step : Step) :
              session.Keeps { session.record step.events with state := some step.state } :=
            ⟨rfl, rfl, rfl, List.prefix_append ..⟩
          cases (state.step session.settings session.painting session.budget statement).fault with
          | some fault => exact stepped _
          | none => exact (stepped _).trans (induction _)

end Keeps

theorem Reaches.keeps {first last : Session} (reaches : first.Reaches last) : first.Keeps last := by
  induction reaches with
  | here => exact .refl first
  | run before asked count induction => exact induction.trans (.conclude _ _)
  | perform before statements induction => exact induction.trans (.perform _ _)

/-- What two sessions make of a run each that comes to the same. -/
structure ConcludeAlike (first second : Session) (run other : Run) : Prop where
  outcome : run.outcome = other.outcome
  state : (first.conclude run).state = (second.conclude other).state
  /-- The same notifications are added to both logs. -/
  log : ∃ added, (first.conclude run).log = first.log ++ added ∧
    (second.conclude other).log = second.log ++ added
  painting : (first.conclude run).painting = first.painting
  otherPainting : (second.conclude other).painting = second.painting

theorem concludeAlike_of_untraced {run other : Run} (first second : Session)
    (same : run.untraced = other.untraced) : first.ConcludeAlike second run other where
  outcome := by
    change run.untraced.outcome = other.untraced.outcome
    rw [same]
  state := by
    change some run.untraced.state = some other.untraced.state
    rw [same]
  log := by
    have told : run.notifications = other.notifications := by
      rw [← Run.notifications_untraced, same, Run.notifications_untraced]
    refine ⟨run.notifications, rfl, ?_⟩
    rw [told]
    rfl
  painting := rfl
  otherPainting := rfl

/-- Whether every program runs alike in two sessions. -/
def RunsAlike (first second : Session) : Prop :=
  ∀ statements location, ∃ job rival,
    first.job? (.program statements location) = some job ∧
    second.job? (.program statements location) = some rival ∧
    ∀ count, first.ConcludeAlike second (job.after count) (rival.after count)

variable {first second : Session}

theorem runsAlike_of_color? (size : first.settings.canvasSize = second.settings.canvasSize)
    (limit : first.settings.stepLimit = second.settings.stepLimit)
    (budget : first.budget = second.budget)
    (cells : ∀ x y, first.settings.inBounds x y = true →
      first.painting.color? x y = second.painting.color? x y) : first.RunsAlike second := by
  intro statements location
  refine ⟨_, _, rfl, rfl, fun count => ?_⟩
  apply concludeAlike_of_untraced
  apply Job.untraced_after_of_agreeOn
  · exact size
  · exact limit
  · rfl
  · exact budget
  · exact Painter.agreeOn_ofPainting fun x y inside => (cells x y inside).symm

theorem color?_setCell (session : Session) (x y : Int) (text : Option String)
    (otherX otherY : Int) :
    (session.setCell x y text).painting.color? otherX otherY =
      if otherX = x ∧ otherY = y then text.bind Color.parse?
      else session.painting.color? otherX otherY := by
  unfold setCell Painting.setCell Painting.color? Painting.cell
  by_cases same : otherX = x ∧ otherY = y
  · simp [same]
  · have apart : ((otherX, otherY) == (x, y)) = false := by simpa using same
    simp [List.lookup_cons, same, apart]

/-- The spelling of a color does not matter. -/
theorem runsAlike_setCell_of_isSpelled (session : Session) (x y : Int) {color : Color}
    {text other : String} (spelled : color.IsSpelled text) (respelled : color.IsSpelled other) :
    (session.setCell x y (some text)).RunsAlike (session.setCell x y (some other)) := by
  have named := Color.parse?_eq_some_iff.mpr spelled
  have renamed := Color.parse?_eq_some_iff.mpr respelled
  refine runsAlike_of_color? rfl rfl rfl fun otherX otherY inside => ?_
  rw [color?_setCell, color?_setCell, Option.bind_some, Option.bind_some, named, renamed]

/-- A cell off the canvas does not matter. -/
theorem runsAlike_setCell_of_outside (session : Session) {x y : Int} (text : Option String)
    (outside : session.settings.inBounds x y = false) :
    (session.setCell x y text).RunsAlike session := by
  refine runsAlike_of_color? rfl rfl rfl fun otherX otherY inside => ?_
  have onCanvas : session.settings.inBounds otherX otherY = true := inside
  have apart : ¬ (otherX = x ∧ otherY = y) := by
    rintro ⟨rfl, rfl⟩
    rw [outside] at onCanvas
    cases onCanvas
  rw [color?_setCell, if_neg apart]

/-- Whatever has been run or carried out in two sessions before, and whatever their logs
hold: if their canvases are of one size and the cells on it have the same colors, every
program runs alike in both, under the same limits.  How a color is spelled makes no
difference, nor does a cell off the canvas, nor a trace.  No run and no statement changes
the cells. -/
theorem runsAlike_of_reaches {earlier other : Session} (reaches : earlier.Reaches first)
    (reachesOther : other.Reaches second)
    (size : earlier.settings.canvasSize = other.settings.canvasSize)
    (limit : earlier.settings.stepLimit = other.settings.stepLimit)
    (budget : earlier.budget = other.budget)
    (cells : ∀ x y, earlier.settings.inBounds x y = true →
      earlier.painting.color? x y = other.painting.color? x y) :
    first.painting = earlier.painting ∧ second.painting = other.painting ∧
    first.RunsAlike second ∧
    (∀ x y color text respelled, Color.IsSpelled color text → color.IsSpelled respelled →
      (first.setCell x y (some text)).RunsAlike (first.setCell x y (some respelled))) ∧
    ∀ x y text, first.settings.inBounds x y = false →
      (first.setCell x y text).RunsAlike first := by
  have keeps := reaches.keeps
  have keepsOther := reachesOther.keeps
  refine ⟨keeps.painting, keepsOther.painting, ?_, ?_, ?_⟩
  · apply runsAlike_of_color?
    · rw [keeps.settings, keepsOther.settings, size]
    · rw [keeps.settings, keepsOther.settings, limit]
    · rw [keeps.budget, keepsOther.budget, budget]
    · rw [keeps.settings, keeps.painting, keepsOther.painting]
      exact cells
  · intro x y color text respelled
    exact first.runsAlike_setCell_of_isSpelled x y
  · intro x y text
    exact first.runsAlike_setCell_of_outside text

/-- A session on a canvas of four cells, one of which has been painted red, with a cell
painted off the canvas. -/
def spattered : Session where
  settings := ⟨2, none, false, by decide⟩
  painting := { cells := [((1, 0), some "\tRED "), ((7, 7), some "blue")] }
  log := [.fill 7 7 "blue"]

/-- A session with a trace and without a past, with the same colors on the canvas. -/
def tidy : Session where
  settings := ⟨2, none, true, by decide⟩
  painting := { background := some "White", cells := [((1, 0), some "red")] }

/-- The robot is spawned where the cell right of the corner says. -/
def spawnByColor : List Node :=
  [.instruction Command.spawn.code
    [.call Query.isCanvasColor.code [.literal Kind.string.name (some (.string "red")) .nowhere,
        .literal Kind.number.name (some (.number 0)) .nowhere,
        .literal Kind.number.name (some (.number 1)) .nowhere] .nowhere,
      .literal Kind.number.name (some (.number 0)) .nowhere] .nowhere]

/-- A run in the spattered session that fails at once. -/
def hopeless : Job where
  settings := spattered.settings
  painting := spattered.painting
  statements := [.instruction Command.fill.code [] .nowhere]

/-- The spattered session after that run, with the statement carried out once. -/
def reused : Session :=
  ((spattered.conclude (hopeless.after 1)).perform spawnByColor).1

theorem reused_runsAlike_tidy :
    spattered.Reaches reused ∧ tidy.Reaches tidy ∧
    (∀ x y, spattered.settings.inBounds x y = true →
      spattered.painting.color? x y = tidy.painting.color? x y) ∧
    (hopeless.after 1).hasFailed = true ∧ reused.painting = spattered.painting ∧
    reused.RunsAlike tidy := by
  have asked : spattered.job? (.program hopeless.statements .nowhere) = some hopeless := rfl
  have reaches : spattered.Reaches reused := .perform (.run .here asked 1) spawnByColor
  have fresh : tidy.Reaches tidy := .here
  have cells : ∀ x y, spattered.settings.inBounds x y = true →
      spattered.painting.color? x y = tidy.painting.color? x y := by
    intro x y inside
    have bounds : (x = 0 ∨ x = 1) ∧ (y = 0 ∨ y = 1) := by
      rw [Settings.inBounds_iff] at inside
      have side : spattered.settings.canvasSize = 2 := rfl
      omega
    obtain ⟨rfl | rfl, rfl | rfl⟩ := bounds <;> decide
  obtain ⟨painting, -, alike, -⟩ :=
    runsAlike_of_reaches reaches fresh rfl rfl rfl cells
  exact ⟨reaches, fresh, cells, rfl, painting, alike⟩

end Session
end PixelBrush
