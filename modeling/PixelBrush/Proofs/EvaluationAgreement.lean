import PixelBrush.Evaluation

/-! # What an expression depends on

An expression looks up variables and asks queries, and a query sees no more of
the surroundings than the painter, the robot and the size of the canvas.  Two
views that agree on these cannot be told apart by any expression, whatever
their labels, counters and limits.
-/

namespace PixelBrush

/-- Whether two views give the same answers to all queries, and show the same
variables. -/
structure View.Alike (first second : View) : Prop where
  store : first.current.map State.store = second.current.map State.store
  answer : Evaluation.answer first = Evaluation.answer second

namespace Evaluation

/-- All evaluators, each with the same budget, find the same in two views. -/
structure SameWithin (first second : View) (budget : Nat) : Prop where
  evaluate : evaluate first budget = evaluate second budget
  binary : binary first budget = binary second budget
  unary : unary first budget = unary second budget
  call : call first budget = call second budget
  number : number first budget = number second budget
  color : color first budget = color second budget
  string : string first budget = string second budget

theorem sameWithin_of_alike {first second : View} (alike : first.Alike second) (budget : Nat) :
    SameWithin first second budget := by
  induction budget with
  | zero => constructor <;> rfl
  | succ budget same =>
      constructor
      · funext node
        cases node with
        | reference name location =>
            unfold evaluate
            have stores := alike.store
            generalize first.current = shown at stores ⊢
            generalize second.current = seen at stores ⊢
            cases shown with
            | error fault =>
                cases seen with
                | error other =>
                    cases stores
                    rfl
                | ok other => cases stores
            | ok state =>
                cases seen with
                | error other => cases stores
                | ok other =>
                    have store : state.store = other.store := Except.ok.inj stores
                    dsimp only [bind, Except.bind]
                    rw [store]
        | _ =>
            unfold evaluate
            rw [same.binary, same.unary, same.call]
      · funext node operator left right
        unfold binary
        rw [same.evaluate]
      · funext node operator operand
        unfold unary
        rw [same.evaluate]
      · funext node query arguments
        unfold call
        rw [same.number, same.color, alike.answer]
      · funext argument
        unfold number
        rw [same.evaluate]
      · funext owner argument
        unfold color
        rw [same.string]
      · funext argument
        unfold string
        rw [same.evaluate]

end Evaluation

/-- Views of canvases of one size look alike if they show the same variables and the
same robot. -/
theorem View.alike_of_robot {settings others : Settings} {state other : State} (painter : Painter)
    (size : settings.canvasSize = others.canvasSize) (store : state.store = other.store)
    (robot : state.robot = other.robot) :
    View.Alike ⟨settings, painter, some state⟩ ⟨others, painter, some other⟩ where
  store := by
    rw [current_mk, current_mk]
    exact congrArg Except.ok store
  answer := by
    have inBounds : settings.inBounds = others.inBounds := by
      funext x y
      unfold Settings.inBounds
      rw [size]
    funext node number color query arguments
    unfold Evaluation.answer
    simp only [robot_mk, canvas_mk, robot]
    split
    · rfl
    · rfl
    · -- The size of the canvas.
      change Except.ok (Value.number settings.canvasSize) = .ok (.number others.canvasSize)
      rw [size]
    · -- The number of cells of a color.
      apply bind_congr; intro shade
      apply bind_congr; intro x₁
      apply bind_congr; intro y₁
      apply bind_congr; intro x₂
      apply bind_congr; intro y₂
      change (if settings.inBounds x₁ y₁ && settings.inBounds x₂ y₂ then _ else _) =
        (if others.inBounds x₁ y₁ && others.inBounds x₂ y₂ then _ else _)
      rw [inBounds]
    · rfl
    · rfl
    · -- The color of one cell.
      rw [inBounds]
    · rfl

end PixelBrush
