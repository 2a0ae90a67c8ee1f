import PixelBrush.Proofs.Arity

/-! # The nesting limit of evaluating

A smaller budget can only cut an evaluation off, as it does with reading.  What is
found nested too deeply fails as a whole: no evaluator, query, command or statement
puts anything else in its place.
-/

namespace PixelBrush

/-- The first attempt finds nesting too deep or comes to what the second one comes to. -/
def CutsOff {α : Type} (shallow deep : Except Fault α) : Prop :=
  shallow = .error .tooDeep ∨ deep = shallow

namespace CutsOff

variable {α β : Type} {shallow deep : Except Fault α} {shallowNext deepNext : α → Except Fault β}

theorem refl (attempt : Except Fault α) : CutsOff attempt attempt :=
  .inr rfl

theorem tooDeep (deep : Except Fault α) : CutsOff (.error .tooDeep) deep :=
  .inl rfl

theorem bind (cuts : CutsOff shallow deep)
    (cutsNext : ∀ result, CutsOff (shallowNext result) (deepNext result)) :
    CutsOff (shallow >>= shallowNext) (deep >>= deepNext) := by
  rcases cuts with rfl | rfl
  · exact .inl rfl
  · cases deep with
    | ok result => exact cutsNext result
    | error fault => exact .inr rfl

theorem bind_same {attempt : Except Fault α}
    (cutsNext : ∀ result, CutsOff (shallowNext result) (deepNext result)) :
    CutsOff (attempt >>= shallowNext) (attempt >>= deepNext) :=
  (refl attempt).bind cutsNext

end CutsOff

section

variable {number deepNumber : Node → Except Fault Int} {color deepColor : Node → Except Fault Color}
  (numbers : ∀ argument, CutsOff (number argument) (deepNumber argument))
  (colors : ∀ argument, CutsOff (color argument) (deepColor argument))

include numbers colors

/-- An argument that is cut off cuts the answer to its query off. -/
theorem Evaluation.answer_cutsOff (view : View) (node : Node) (query : Query)
    (arguments : List Node) :
    CutsOff (answer view node number color query arguments)
      (answer view node deepNumber deepColor query arguments) := by
  by_cases fits : arguments.length = query.arity
  · cases query with
    | actualX | actualY | canvasSize =>
        obtain rfl := List.eq_nil_of_length_eq_zero fits
        exact .refl _
    | colorCount =>
        obtain ⟨first, second, third, fourth, fifth, rfl⟩ := exists_of_length_eq_five fits
        exact (colors first).bind fun _ => (numbers second).bind fun _ =>
          (numbers third).bind fun _ => (numbers fourth).bind fun _ =>
          (numbers fifth).bind fun _ => .refl _
    | isBrushColor =>
        obtain ⟨first, rfl⟩ := List.length_eq_one_iff.mp fits
        exact (colors first).bind fun _ => .refl _
    | isBrushSize =>
        obtain ⟨first, rfl⟩ := List.length_eq_one_iff.mp fits
        exact (numbers first).bind fun _ => .refl _
    | isCanvasColor =>
        obtain ⟨first, second, third, rfl⟩ := List.length_eq_three.mp fits
        exact (colors first).bind fun _ => (numbers second).bind fun _ =>
          (numbers third).bind fun _ => .refl _
  · rw [answer_of_length_ne _ _ _ _ fits, answer_of_length_ne _ _ _ _ fits]
    exact .refl _

/-- An argument that is cut off cuts its command off. -/
theorem Command.perform_cutsOff (settings : Settings) (robot : Robot) (node : Node)
    (command : Command) (arguments : List Node) :
    CutsOff (command.perform settings robot node number color arguments)
      (command.perform settings robot node deepNumber deepColor arguments) := by
  by_cases fits : arguments.length = command.arity
  · cases command with
    | spawn =>
        obtain ⟨first, second, rfl⟩ := List.length_eq_two.mp fits
        exact .bind_same fun _ => (numbers first).bind fun _ => (numbers second).bind fun _ =>
          .refl _
    | color =>
        obtain ⟨first, rfl⟩ := List.length_eq_one_iff.mp fits
        exact .bind_same fun _ => (colors first).bind fun _ => .refl _
    | size =>
        obtain ⟨first, rfl⟩ := List.length_eq_one_iff.mp fits
        exact .bind_same fun _ => (numbers first).bind fun _ => .refl _
    | drawLine | drawCircle =>
        obtain ⟨first, second, third, rfl⟩ := List.length_eq_three.mp fits
        exact .bind_same fun _ => (numbers first).bind fun _ => (numbers second).bind fun _ =>
          (numbers third).bind fun _ => .refl _
    | drawRectangle =>
        obtain ⟨first, second, third, fourth, fifth, rfl⟩ := exists_of_length_eq_five fits
        exact .bind_same fun _ => (numbers first).bind fun _ => (numbers second).bind fun _ =>
          (numbers third).bind fun _ => (numbers fourth).bind fun _ =>
          (numbers fifth).bind fun _ => .refl _
    | fill =>
        obtain rfl := List.eq_nil_of_length_eq_zero fits
        exact .refl _
  · rw [perform_of_length_ne _ _ _ _ _ fits, perform_of_length_ne _ _ _ _ _ fits]
    exact .refl _

end

namespace Evaluation

/-- Every evaluator that takes from a budget is cut off by it at most. -/
structure CutsOffWithin (view : View) (budget more : Nat) : Prop where
  evaluate : ∀ node, CutsOff (evaluate view budget node) (evaluate view more node)
  binary : ∀ node operator left right,
    CutsOff (binary view budget node operator left right)
      (binary view more node operator left right)
  unary : ∀ node operator operand,
    CutsOff (unary view budget node operator operand) (unary view more node operator operand)
  call : ∀ node query arguments,
    CutsOff (call view budget node query arguments) (call view more node query arguments)
  number : ∀ argument, CutsOff (number view budget argument) (number view more argument)
  color : ∀ owner argument,
    CutsOff (color view budget owner argument) (color view more owner argument)
  string : ∀ argument, CutsOff (string view budget argument) (string view more argument)

theorem CutsOffWithin.succ {view : View} {budget more : Nat}
    (cuts : CutsOffWithin view budget more) : CutsOffWithin view (budget + 1) (more + 1) where
  evaluate node := by
    unfold Evaluation.evaluate
    cases node with
    | binary operator left right location => exact cuts.binary _ _ _ _
    | unary operator operand location => exact cuts.unary _ _ _
    | call code arguments location =>
        dsimp only
        cases code.text?.bind Query.ofCode? with
        | none => exact .refl _
        | some query => exact cuts.call _ _ _
    | _ => exact .refl _
  binary node operator left right :=
    (cuts.evaluate left).bind fun _ => (cuts.evaluate right).bind fun _ => .refl _
  unary node operator operand := (cuts.evaluate operand).bind fun _ => .refl _
  call node query arguments :=
    answer_cutsOff cuts.number (cuts.color node) view node query arguments
  number argument := (cuts.evaluate argument).bind fun _ => .refl _
  color owner argument := (cuts.string argument).bind fun _ => .refl _
  string argument := (cuts.evaluate argument).bind fun _ => .refl _

theorem cutsOffWithin (view : View) {budget more : Nat} (atMost : budget ≤ more) :
    CutsOffWithin view budget more := by
  induction budget generalizing more with
  | zero => constructor <;> intros <;> exact .tooDeep _
  | succ budget induction =>
      obtain ⟨fewer, rfl⟩ : ∃ fewer, more = fewer + 1 := ⟨more - 1, by omega⟩
      exact (induction (by omega)).succ

end Evaluation

namespace State

variable {budget more : Nat} (atMost : budget ≤ more) (settings : Settings) (painter : Painter)
  (state : State) (statement : Node)

include atMost

theorem perform_cutsOff :
    CutsOff (state.perform settings painter budget statement)
      (state.perform settings painter more statement) := by
  have cuts := Evaluation.cutsOffWithin ⟨settings, painter, some state⟩ atMost
  cases statement with
  | assignment name value location => exact (cuts.evaluate value).bind fun _ => .refl _
  | instruction code arguments location =>
      unfold perform
      dsimp only
      cases code.text?.bind Command.ofCode? with
      | none => exact .refl _
      | some command =>
          exact (Command.perform_cutsOff cuts.number (cuts.color _) settings state.robot _ command
            arguments).bind fun _ => .refl _
  | jump label condition location =>
      exact ((cuts.evaluate condition).bind fun _ => .refl _).bind fun _ => .refl _
  | _ => exact .refl _

/-- A step with a smaller budget finds nesting too deep, or it is the step with the larger
one. -/
theorem step_cutsOff :
    (state.step settings painter budget statement).fault = some .tooDeep ∨
      state.step settings painter more statement =
        state.step settings painter budget statement := by
  unfold step
  cases state.atLimit settings with
  | some limit => exact .inr rfl
  | none =>
      rcases perform_cutsOff atMost settings painter state.count statement with tooDeep | same
      · exact .inl (by rw [tooDeep])
      · exact .inr (by rw [same])

end State
end PixelBrush
