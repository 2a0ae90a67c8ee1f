import PixelBrush.Proofs.Arity
import PixelBrush.Proofs.Painting

/-! # What attempts fail with

An attempt that is made of others fails with what one of them fails with.  So it is
told once for all evaluators and commands which faults they add to those of their
arguments, and which argument is evaluated in which way.
-/

namespace PixelBrush

namespace Mishap

/-- Whether a mishap needs a tree that no program text gives rise to. -/
def isInternal : Mishap → Bool
  | unknownInstruction _ | unknownStatement _ | unknownFunction _ | unknownExpression _
  | unsupportedLiteral _ | literalMismatch _ _ | unsupportedOperator _ | unsupportedUnary _ => true
  | _ => false

/-- Whether a mishap is that a statement is not carried out at all. -/
def isStepLimit : Mishap → Bool
  | stepLimit _ => true
  | _ => false

/-- Whether a mishap can come from operators, queries and commands as such. -/
def isOrdinary (cause : Mishap) : Bool :=
  !cause.isInternal && !cause.isStepLimit

theorem isInternal_of_isOrdinary {cause : Mishap} (ordinary : cause.isOrdinary = true) :
    cause.isInternal = false := by
  simpa using (Bool.and_eq_true_iff.mp ordinary).1

theorem isStepLimit_of_isOrdinary {cause : Mishap} (ordinary : cause.isOrdinary = true) :
    cause.isStepLimit = false := by
  simpa using (Bool.and_eq_true_iff.mp ordinary).2

end Mishap

/-- Whether an attempt can only fail with certain faults. -/
def FailsOnly {α : Type} (allowed : Fault → Prop) (attempt : Except Fault α) : Prop :=
  ∀ fault, attempt = .error fault → allowed fault

namespace FailsOnly

variable {α β : Type} {allowed : Fault → Prop} {attempt : Except Fault α}
  {next : α → Except Fault β}

theorem ok (value : α) : FailsOnly allowed (.ok value) := fun _ failed => by cases failed

theorem error {fault : Fault} (holds : allowed fault) :
    FailsOnly allowed (.error fault : Except Fault α) := by
  intro _ failed
  rw [← Except.error.inj failed]
  exact holds

/-- What follows is only attempted with what has been found. -/
theorem bind (first : FailsOnly allowed attempt)
    (later : ∀ value, attempt = .ok value → FailsOnly allowed (next value)) :
    FailsOnly allowed (attempt >>= next) := by
  cases attempt with
  | ok value => exact later value rfl
  | error fault => exact error (first fault rfl)

theorem ite {condition : Prop} [Decidable condition] {one other : Except Fault α}
    (whenTrue : FailsOnly allowed one) (whenFalse : FailsOnly allowed other) :
    FailsOnly allowed (if condition then one else other) := by
  by_cases holds : condition
  · rwa [if_pos holds]
  · rwa [if_neg holds]

end FailsOnly

/-- The kinds that the arguments of a query have to be of.  A color is given as a string. -/
def Query.signature : Query → List Kind
  | actualX | actualY | canvasSize => []
  | colorCount => [.string, .number, .number, .number, .number]
  | isBrushColor => [.string]
  | isBrushSize => [.number]
  | isCanvasColor => [.string, .number, .number]

theorem Query.length_signature (query : Query) : query.signature.length = query.arity := by
  cases query <;> rfl

section

variable {allowed : Fault → Prop} {node : Node}

namespace Evaluation

section Values

variable (own : ∀ cause : Mishap, cause.isOrdinary = true → allowed (.ofMishap cause node))

include own

theorem asNumber_failsOnly (value : Value) : FailsOnly allowed (asNumber node value) := by
  cases value with
  | number value => exact .ok value
  | boolean | string => exact .error (own _ rfl)

theorem asBoolean_failsOnly (value : Value) : FailsOnly allowed (asBoolean node value) := by
  cases value with
  | boolean value => exact .ok value
  | number | string => exact .error (own _ rfl)

theorem asString_failsOnly (value : Value) : FailsOnly allowed (asString node value) := by
  cases value with
  | string value => exact .ok value
  | number | boolean => exact .error (own _ rfl)

theorem asColor_failsOnly (text : String) : FailsOnly allowed (asColor node text) := by
  unfold asColor
  cases Color.parse? text with
  | none => exact .error (own _ rfl)
  | some color => exact .ok color

theorem onBooleans_failsOnly (operator : BinaryOperator) (result : Bool → Bool → Bool)
    (left right : Value) : FailsOnly allowed (onBooleans node operator result left right) := by
  cases left <;> cases right <;> first | exact .ok _ | exact .error (own _ rfl)

theorem onNumbers_failsOnly (operator : BinaryOperator)
    (result : Int → Int → Except Arithmetic.Undefined Value) (left right : Value) :
    FailsOnly allowed (onNumbers node operator result left right) := by
  cases left <;> cases right <;> simp only [onNumbers]
  case number.number left right =>
    cases result left right with
    | ok value => exact .ok value
    | error undefined => exact .error (own _ rfl)
  all_goals exact .error (own _ rfl)

theorem applyBinary_failsOnly (operator : BinaryOperator) (left right : Value) :
    FailsOnly allowed (applyBinary node operator left right) := by
  unfold applyBinary
  cases operator with
  | and | or => exact onBooleans_failsOnly own _ _ left right
  | _ => exact onNumbers_failsOnly own _ _ left right

theorem applyUnary_failsOnly (operator : UnaryOperator) (value : Value) :
    FailsOnly allowed (applyUnary node operator value) := by
  cases operator <;> cases value <;> first | exact .ok _ | exact .error (own _ rfl)

end Values

section Queries

variable {settings : Settings} {painting : Painting} {state : State}
  {number : Node → Except Fault Int} {color : Node → Except Fault Color} {query : Query}
  {arguments : List Node}

/-- A query fails if the number of its arguments is wrong, if one of them fails, or if
the robot is to be found and has not been spawned. -/
theorem answer_failsOnly
    (arity : arguments.length ≠ query.arity →
      allowed (.ofMishap (.arity query.title query.arity arguments.length) node))
    (spawnMissing : allowed (.ofMishap .spawnMissing node))
    (numbers : ∀ argument, (argument, Kind.number) ∈ arguments.zip query.signature →
      FailsOnly allowed (number argument))
    (colors : ∀ argument, (argument, Kind.string) ∈ arguments.zip query.signature →
      FailsOnly allowed (color argument)) :
    FailsOnly allowed
      (answer ⟨settings, painting, some state⟩ node number color query arguments) := by
  by_cases fits : arguments.length = query.arity
  · cases query with
    | actualX | actualY =>
        obtain rfl := List.eq_nil_of_length_eq_zero fits
        exact .ite (.ok _) (.error spawnMissing)
    | canvasSize =>
        obtain rfl := List.eq_nil_of_length_eq_zero fits
        exact .ok _
    | colorCount =>
        obtain ⟨first, second, third, fourth, fifth, rfl⟩ := exists_of_length_eq_five fits
        refine .bind (colors first (by simp [Query.signature])) fun _ _ =>
          .bind (numbers second (by simp [Query.signature])) fun _ _ =>
          .bind (numbers third (by simp [Query.signature])) fun _ _ =>
          .bind (numbers fourth (by simp [Query.signature])) fun _ _ =>
          .bind (numbers fifth (by simp [Query.signature])) fun _ _ => ?_
        simp only [View.canvas_mk, Painter.countColor_ofPainting, ok_bind]
        exact .ite (.ok _) (.ok _)
    | isBrushColor =>
        obtain ⟨first, rfl⟩ := List.length_eq_one_iff.mp fits
        exact .bind (colors first (by simp [Query.signature])) fun _ _ => .ok _
    | isBrushSize =>
        obtain ⟨first, rfl⟩ := List.length_eq_one_iff.mp fits
        exact .bind (numbers first (by simp [Query.signature])) fun _ _ => .ok _
    | isCanvasColor =>
        obtain ⟨first, second, third, rfl⟩ := List.length_eq_three.mp fits
        refine .bind (colors first (by simp [Query.signature])) fun _ _ =>
          .bind (numbers second (by simp [Query.signature])) fun _ _ =>
          .bind (numbers third (by simp [Query.signature])) fun _ _ => ?_
        simp only [View.robot_mk, Painter.color?_ofPainting, ok_bind]
        exact .ite (.ok _) (.ok _)
  · rw [answer_of_length_ne _ _ _ _ fits]
    exact .error (arity fits)

/-- A query that is answered is answered by a number, and its arguments have been
evaluated as its signature says. -/
theorem answer_ok {view : View} {value : Value}
    (answered : answer view node number color query arguments = .ok value) :
    value.kind = .number ∧ arguments.length = query.arity ∧
    (∀ argument, (argument, Kind.number) ∈ arguments.zip query.signature →
      ∃ found, number argument = .ok found) ∧
    ∀ argument, (argument, Kind.string) ∈ arguments.zip query.signature →
      ∃ found, color argument = .ok found := by
  by_cases fits : arguments.length = query.arity
  · cases query with
    | actualX | actualY =>
        obtain rfl := List.eq_nil_of_length_eq_zero fits
        obtain ⟨robot, -, answered⟩ := exists_of_bind_ok answered
        by_cases spawned : robot.spawned = true
        · rw [if_pos spawned] at answered
          cases answered
          exact ⟨rfl, rfl, by simp, by simp⟩
        · rw [if_neg spawned] at answered
          cases answered
    | canvasSize =>
        obtain rfl := List.eq_nil_of_length_eq_zero fits
        obtain ⟨canvas, -, answered⟩ := exists_of_bind_ok answered
        cases answered
        exact ⟨rfl, rfl, by simp, by simp⟩
    | colorCount =>
        obtain ⟨first, second, third, fourth, fifth, rfl⟩ := exists_of_length_eq_five fits
        obtain ⟨shade, shades, answered⟩ := exists_of_bind_ok answered
        obtain ⟨x₁, isX₁, answered⟩ := exists_of_bind_ok answered
        obtain ⟨y₁, isY₁, answered⟩ := exists_of_bind_ok answered
        obtain ⟨x₂, isX₂, answered⟩ := exists_of_bind_ok answered
        obtain ⟨y₂, isY₂, answered⟩ := exists_of_bind_ok answered
        obtain ⟨canvas, -, answered⟩ := exists_of_bind_ok answered
        refine ⟨?_, rfl, by simp [Query.signature, isX₁, isY₁, isX₂, isY₂],
          by simp [Query.signature, shades]⟩
        by_cases inside : (canvas.inBounds x₁ y₁ && canvas.inBounds x₂ y₂) = true
        · rw [if_pos inside] at answered
          obtain ⟨count, -, answered⟩ := exists_of_bind_ok answered
          cases answered
          rfl
        · rw [if_neg inside] at answered
          cases answered
          rfl
    | isBrushColor =>
        obtain ⟨first, rfl⟩ := List.length_eq_one_iff.mp fits
        obtain ⟨shade, shades, answered⟩ := exists_of_bind_ok answered
        obtain ⟨robot, -, answered⟩ := exists_of_bind_ok answered
        cases answered
        exact ⟨rfl, rfl, by simp [Query.signature], by simp [Query.signature, shades]⟩
    | isBrushSize =>
        obtain ⟨first, rfl⟩ := List.length_eq_one_iff.mp fits
        obtain ⟨size, isSize, answered⟩ := exists_of_bind_ok answered
        obtain ⟨robot, -, answered⟩ := exists_of_bind_ok answered
        cases answered
        exact ⟨rfl, rfl, by simp [Query.signature, isSize], by simp [Query.signature]⟩
    | isCanvasColor =>
        obtain ⟨first, second, third, rfl⟩ := List.length_eq_three.mp fits
        obtain ⟨shade, shades, answered⟩ := exists_of_bind_ok answered
        obtain ⟨vertical, isVertical, answered⟩ := exists_of_bind_ok answered
        obtain ⟨horizontal, isHorizontal, answered⟩ := exists_of_bind_ok answered
        obtain ⟨robot, -, answered⟩ := exists_of_bind_ok answered
        refine ⟨?_, rfl, by simp [Query.signature, isVertical, isHorizontal],
          by simp [Query.signature, shades]⟩
        by_cases inside : view.settings.inBounds (robot.x + horizontal)
            (robot.y + vertical) = true
        · rw [if_pos inside] at answered
          obtain ⟨cell, -, answered⟩ := exists_of_bind_ok answered
          cases answered
          rfl
        · rw [if_neg inside] at answered
          cases answered
          rfl
  · rw [answer_of_length_ne _ _ _ _ fits] at answered
    cases answered

end Queries

end Evaluation

namespace Command

theorem require_failsOnly (condition : Bool) {cause : Mishap}
    (own : allowed (.ofMishap cause node)) : FailsOnly allowed (require condition cause node) :=
  .ite (.ok ()) (.error own)

variable (own : ∀ cause : Mishap, cause.isOrdinary = true → allowed (.ofMishap cause node))

include own

theorem spawnCheck_failsOnly (robot : Robot) (command : Command) :
    FailsOnly allowed (spawnCheck robot node command) :=
  .ite (require_failsOnly _ (own _ rfl)) (require_failsOnly _ (own _ rfl))

/-- A command fails for reasons of its own or because of one of its arguments. -/
theorem perform_failsOnly {number : Node → Except Fault Int} {color : Node → Except Fault Color}
    (settings : Settings) (robot : Robot) {arguments : List Node}
    (numbers : ∀ argument ∈ arguments, FailsOnly allowed (number argument))
    (colors : ∀ argument ∈ arguments, FailsOnly allowed (color argument)) (command : Command) :
    FailsOnly allowed (command.perform settings robot node number color arguments) := by
  have requires (condition : Bool) {cause : Mishap} (ordinary : cause.isOrdinary = true) :=
    require_failsOnly condition (own cause ordinary)
  by_cases fits : arguments.length = command.arity
  · cases command with
    | spawn =>
        obtain ⟨first, second, rfl⟩ := List.length_eq_two.mp fits
        simp only [List.forall_mem_cons] at numbers
        exact .bind (requires _ rfl) fun _ _ => .bind numbers.1 fun _ _ =>
          .bind numbers.2.1 fun _ _ => .bind (requires _ rfl) fun _ _ => .ok _
    | color =>
        obtain ⟨first, rfl⟩ := List.length_eq_one_iff.mp fits
        exact .bind (requires _ rfl) fun _ _ =>
          .bind (colors first List.mem_cons_self) fun _ _ => .ok _
    | size =>
        obtain ⟨first, rfl⟩ := List.length_eq_one_iff.mp fits
        refine .bind (requires _ rfl) fun _ _ => ?_
        exact .bind (numbers first List.mem_cons_self) fun _ _ =>
          .bind (requires _ rfl) fun _ _ => .ok _
    | drawLine | drawCircle =>
        obtain ⟨first, second, third, rfl⟩ := List.length_eq_three.mp fits
        simp only [List.forall_mem_cons] at numbers
        exact .bind (requires _ rfl) fun _ _ => .bind numbers.1 fun _ _ =>
          .bind numbers.2.1 fun _ _ => .bind numbers.2.2.1 fun _ _ =>
          .bind (requires _ rfl) fun _ _ => .bind (requires _ rfl) fun _ _ =>
          .bind (requires _ rfl) fun _ _ => .ok _
    | drawRectangle =>
        obtain ⟨first, second, third, fourth, fifth, rfl⟩ := exists_of_length_eq_five fits
        simp only [List.forall_mem_cons] at numbers
        exact .bind (requires _ rfl) fun _ _ => .bind numbers.1 fun _ _ =>
          .bind numbers.2.1 fun _ _ => .bind numbers.2.2.1 fun _ _ =>
          .bind numbers.2.2.2.1 fun _ _ => .bind numbers.2.2.2.2.1 fun _ _ =>
          .bind (requires _ rfl) fun _ _ => .bind (requires _ rfl) fun _ _ =>
          .bind (requires _ rfl) fun _ _ => .ok _
    | fill =>
        obtain rfl := List.eq_nil_of_length_eq_zero fits
        exact .bind (requires _ rfl) fun _ _ => .ok _
  · rw [perform_of_length_ne _ _ _ _ _ fits]
    exact .bind (spawnCheck_failsOnly own robot command) fun _ _ => .error (own _ rfl)

end Command
end
end PixelBrush
