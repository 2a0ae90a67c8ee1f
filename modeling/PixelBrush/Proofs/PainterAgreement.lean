import Mathlib.Data.List.Basic
import PixelBrush.Proofs.EvaluationAgreement
import PixelBrush.Proofs.Run

/-! # Painters that agree on the canvas

An expression asks the painter only for cells of the canvas, and only for the
colors that their texts name.  Two painters that agree on these cannot be told
apart by any expression.
-/

namespace PixelBrush

theorem Painting.mem_between {first last number : Int} :
    number ∈ between first last ↔ min first last ≤ number ∧ number ≤ max first last := by
  unfold between
  rw [List.mem_map]
  constructor
  · rintro ⟨step, member, rfl⟩
    rw [List.mem_range] at member
    change _ ≤ min first last + (step : Int) ∧ min first last + (step : Int) ≤ _
    omega
  · rintro ⟨least, greatest⟩
    refine ⟨(number - min first last).toNat, ?_, ?_⟩
    · rw [List.mem_range]
      omega
    · change min first last + ((number - min first last).toNat : Int) = number
      omega

theorem foldlM_congr_of_mem {m : Type → Type} [Monad m] {α β : Type} {items : List α}
    {first second : β → α → m β} (start : β)
    (same : ∀ item ∈ items, ∀ value, first value item = second value item) :
    items.foldlM first start = items.foldlM second start := by
  induction items generalizing start with
  | nil => rfl
  | cons item later induction =>
      rw [List.foldlM_cons, List.foldlM_cons, same item List.mem_cons_self]
      congr 1
      funext value
      exact induction value fun item member => same item (List.mem_cons_of_mem _ member)

namespace Painter

/-- The painter that refuses to tell what the cells off the canvas hold. -/
def within (settings : Settings) (painter : Painter) : Painter :=
  ⟨fun x y => if settings.inBounds x y then painter.cell x y else .error (.noCell x y)⟩

/-- Whether two painters give the cells of the canvas the same colors. -/
def AgreeOn (settings : Settings) (first second : Painter) : Prop :=
  ∀ x y, settings.inBounds x y = true → first.color? x y = second.color? x y

variable {settings : Settings} {first second : Painter}

theorem agreeOn_within (settings : Settings) (painter : Painter) :
    AgreeOn settings (painter.within settings) painter := by
  intro x y inside
  unfold color? within
  dsimp only
  rw [if_pos inside]

theorem AgreeOn.countColor_eq (agree : AgreeOn settings first second) (color : Color)
    {x₁ y₁ x₂ y₂ : Int} (near : settings.inBounds x₁ y₁ = true)
    (far : settings.inBounds x₂ y₂ = true) :
    first.countColor color x₁ y₁ x₂ y₂ = second.countColor color x₁ y₁ x₂ y₂ := by
  unfold countColor
  apply foldlM_congr_of_mem
  intro x memberX count
  apply foldlM_congr_of_mem
  intro y memberY count
  -- The cell lies between the corners, and so it is on the canvas as they are.
  have inside : settings.inBounds x y = true := by
    rw [Painting.mem_between] at memberX memberY
    rw [Settings.inBounds_iff] at near far ⊢
    omega
  rw [agree x y inside]

end Painter

theorem View.alike_of_agreeOn {settings : Settings} {first second : Painter}
    (agree : Painter.AgreeOn settings first second) (state : Option State) :
    View.Alike ⟨settings, first, state⟩ ⟨settings, second, state⟩ where
  store := rfl
  answer := by
    funext node number color query arguments
    unfold Evaluation.answer
    split
    · rfl
    · rfl
    · rfl
    · -- The number of cells of a color.
      apply bind_congr; intro shade
      apply bind_congr; intro x₁
      apply bind_congr; intro y₁
      apply bind_congr; intro x₂
      apply bind_congr; intro y₂
      cases state with
      | none => rfl
      | some state =>
          change ite _ _ _ = ite _ _ _
          by_cases inside : (settings.inBounds x₁ y₁ && settings.inBounds x₂ y₂) = true
          · have corners := Bool.and_eq_true_iff.mp inside
            rw [if_pos inside, if_pos inside, agree.countColor_eq shade corners.1 corners.2]
          · rw [if_neg inside, if_neg inside]
    · rfl
    · rfl
    · -- The color of one cell.
      apply bind_congr; intro shade
      apply bind_congr; intro vertical
      apply bind_congr; intro horizontal
      apply bind_congr; intro robot
      change ite _ _ _ = ite _ _ _
      by_cases inside :
          settings.inBounds (robot.x + horizontal) (robot.y + vertical) = true
      · rw [if_pos inside, if_pos inside, agree _ _ inside]
      · rw [if_neg inside, if_neg inside]
    · rfl

variable {settings : Settings} {first second : Painter}

theorem State.step_eq_of_agreeOn (agree : Painter.AgreeOn settings first second) (budget : Nat)
    (state : State) (statement : Node) :
    state.step settings first budget statement = state.step settings second budget statement := by
  have same := Evaluation.sameWithin_of_alike
    (View.alike_of_agreeOn agree (some state.count)) budget
  have performed : state.count.perform settings first budget statement =
      state.count.perform settings second budget statement := by
    unfold perform Evaluation.boolean
    dsimp only
    rw [same.evaluate, same.number, same.color]
  unfold step
  rw [performed]

namespace Job

/-- The same job with another painter. -/
def withPainter (job : Job) (painter : Painter) : Job :=
  { job with painting := painter }

theorem after_withPainter {job : Job} {painter : Painter}
    (agree : painter.AgreeOn job.settings job.painting) (count : Nat) :
    (job.withPainter painter).after count = job.after count := by
  induction count with
  | zero => rfl
  | succ count induction =>
      rw [after_succ, after_succ, induction]
      cases next : job.next? (job.after count) with
      | none =>
          have other : (job.withPainter painter).next? (job.after count) = none := next
          rw [advance_of_next?_none next, advance_of_next?_none other]
      | some statement =>
          have other : (job.withPainter painter).next? (job.after count) = some statement := next
          have step : (job.withPainter painter).stepOf (job.after count) statement =
              job.stepOf (job.after count) statement :=
            State.step_eq_of_agreeOn agree job.budget (job.after count).state statement
          rw [advance_of_next? next, advance_of_next? other, step]
          rfl

end Job
end PixelBrush
