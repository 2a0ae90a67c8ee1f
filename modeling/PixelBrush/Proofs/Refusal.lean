import PixelBrush.Proofs.Failing
import PixelBrush.Proofs.Source

/-! # What expressions of a program text fail of

Not every mishap can befall a program that was read from a text: some need a
tree that names an operation, or holds a literal, which no text gives rise to.
All others are reported, unless the message has to show a number with too many
digits.
-/

namespace PixelBrush

namespace Text

/-- How many digits an integer is written with. -/
def digitCount (value : Int) : Nat :=
  (Nat.toDigits 10 value.natAbs).length

theorem decimal?_eq_none_iff (value : Int) :
    decimal? value = none ↔ digitLimit < digitCount value := by
  have short : digitCount value ≤ digitLimit ↔ value.natAbs < 10 ^ digitLimit :=
    Nat.length_toDigits_le_iff (by decide) (by decide)
  rw [← Nat.not_le, short]
  unfold decimal?
  exact ite_eq_right_iff.trans (by simp [Nat.pow_eq])

end Text

/-- The integer that a payload is shown as, if it is shown as one. -/
def Payload.numbers : Payload → List Int
  | some (.number value) => [value]
  | _ => []

theorem Payload.plain?_eq_none_iff (payload : Payload) :
    payload.plain? = none ↔
      ∃ number ∈ payload.numbers, Text.digitLimit < Text.digitCount number := by
  match payload with
  | none | some (.boolean true) | some (.boolean false) | some (.string _) =>
      simp [plain?, numbers]
  | some (.number value) => simp [plain?, numbers, Text.decimal?_eq_none_iff]

theorem Payload.quoted?_eq_none_iff (payload : Payload) :
    payload.quoted? = none ↔
      ∃ number ∈ payload.numbers, Text.digitLimit < Text.digitCount number := by
  match payload with
  | some (.string _) => simp [quoted?, numbers]
  | none => exact plain?_eq_none_iff none
  | some (.boolean truth) => exact plain?_eq_none_iff (some (.boolean truth))
  | some (.number value) => exact plain?_eq_none_iff (some (.number value))

theorem Notification.point?_eq_none_iff (x y : Int) :
    point? x y = none ↔ ∃ number ∈ [x, y], Text.digitLimit < Text.digitCount number := by
  cases shownX : Text.decimal? x <;> cases shownY : Text.decimal? y <;>
    simp [point?, ← Text.decimal?_eq_none_iff, shownX, shownY]

namespace Mishap

/-- The integers that the message about a mishap shows. -/
def numbers : Mishap → List Int
  | stepLimit limit => [limit]
  | arity _ expected got => if expected = 0 then [] else [expected, got]
  | invalidDirection x y | spawnOutside x y | lineOutside x y | circleOutside x y => [x, y]
  | unknownInstruction name | unknownLabel name | undefinedVariable name | unknownFunction name
  | unsupportedLiteral name | unsupportedOperator name | unsupportedUnary name =>
      name.payload.numbers
  | literalMismatch value _ => value.numbers
  | _ => []

theorem arityMessage?_eq_none_iff (title : String) (expected got : Nat) :
    arityMessage? title expected got = none ↔
      ∃ number ∈ (arity title expected got).numbers, Text.digitLimit < Text.digitCount number := by
  by_cases none : expected = 0
  · simp [arityMessage?, numbers, none]
  · cases shownExpected : Text.decimal? expected <;> cases shownGot : Text.decimal? got <;>
      simp [arityMessage?, numbers, none, ← Text.decimal?_eq_none_iff, shownExpected, shownGot]

theorem return_eq_none_iff (shown : Option String) (message : String → String) :
    (do return message (← shown)) = none ↔ shown = none := by
  cases shown <;> simp

/-- A message cannot be written exactly if a number in it has too many digits. -/
theorem message?_eq_none_iff (cause : Mishap) :
    cause.message? = none ↔
      ∃ number ∈ cause.numbers, Text.digitLimit < Text.digitCount number := by
  cases cause with
  | stepLimit limit =>
      refine (return_eq_none_iff _ _).trans ?_
      simp [numbers, Text.decimal?_eq_none_iff]
  | arity title expected got => exact arityMessage?_eq_none_iff title expected got
  | invalidDirection x y | spawnOutside x y | lineOutside x y | circleOutside x y =>
      exact (return_eq_none_iff _ _).trans (Notification.point?_eq_none_iff x y)
  | unknownInstruction name | unknownLabel name | undefinedVariable name | unknownFunction name
  | unsupportedLiteral name | unsupportedOperator name | unsupportedUnary name =>
      exact (return_eq_none_iff _ _).trans (Payload.plain?_eq_none_iff name.payload)
  | literalMismatch value kind =>
      exact (return_eq_none_iff _ _).trans (Payload.quoted?_eq_none_iff value)
  | _ => simp [message?, numbers]

end Mishap

/-- The faults that programs read from a text can fail with: that an expression nests
too deeply, and mishaps that are not internal, with a message or without. -/
inductive Fault.Regular : Fault → Prop
  | mishap {cause : Mishap} {location : Location} {message : String}
      (ordinary : cause.isInternal = false) (reported : cause.message? = some message) :
      Regular (.mishap cause location)
  | tooDeep : Regular .tooDeep
  | unwritable {cause : Mishap} (ordinary : cause.isInternal = false)
      (unreported : cause.message? = none) : Regular (.unwritable cause)

theorem Fault.regular_ofMishap {cause : Mishap} {node : Node}
    (ordinary : cause.isInternal = false) (located : node.location?.isSome = true) :
    (ofMishap cause node).Regular := by
  obtain ⟨location, stands⟩ := Option.isSome_iff_exists.mp located
  unfold ofMishap
  rw [stands]
  cases reported : cause.message? with
  | none => exact .unwritable ordinary reported
  | some message => exact .mishap ordinary reported

/-- Whether an attempt can only fail with regular faults. -/
def FailsRegularly {α : Type} (attempt : Except Fault α) : Prop :=
  ∀ fault, attempt = .error fault → fault.Regular

namespace FailsRegularly

variable {α β : Type} {attempt : Except Fault α} {next : α → Except Fault β}

theorem bind (first : FailsRegularly attempt) (later : ∀ value, FailsRegularly (next value)) :
    FailsRegularly (attempt >>= next) :=
  FailsOnly.bind first fun value _ => later value

/-- A mishap that a text can give rise to, at a node that stands somewhere. -/
theorem mishap {cause : Mishap} {node : Node} (located : node.location?.isSome = true)
    (ordinary : cause.isInternal = false) :
    FailsRegularly (.error (.ofMishap cause node) : Except Fault α) :=
  FailsOnly.error (Fault.regular_ofMishap ordinary located)

end FailsRegularly

theorem Fault.regular_of_isOrdinary {node : Node} (located : node.location?.isSome = true)
    (cause : Mishap) (ordinary : cause.isOrdinary = true) : (ofMishap cause node).Regular :=
  regular_ofMishap (Mishap.isInternal_of_isOrdinary ordinary) located

theorem Node.WellFormedExpression.located {node : Node} (formed : node.WellFormedExpression) :
    node.location?.isSome = true := by
  cases formed <;> rfl

theorem Node.WellFormedStatement.located {node : Node} (formed : node.WellFormedStatement) :
    node.location?.isSome = true := by
  cases formed <;> rfl

namespace Evaluation

/-- A literal that is read from a text is of its kind. -/
theorem literal_of_kind (node : Node) (value : Value) :
    literal node value.kind.name (some value) = .ok value := by
  simp [literal]

section

variable (settings : Settings) (painting : Painting) (state : State)

/-- All evaluators, each with the same budget, fail regularly on what can be read from
a text. -/
structure FailsRegularlyWithin (view : View) (budget : Nat) : Prop where
  evaluate : ∀ node, node.WellFormedExpression → FailsRegularly (evaluate view budget node)
  binary : ∀ node (operator : BinaryOperator) left right, node.location?.isSome = true →
    left.WellFormedExpression → right.WellFormedExpression →
      FailsRegularly (binary view budget node operator.text left right)
  unary : ∀ node (operator : UnaryOperator) operand, node.location?.isSome = true →
    operand.WellFormedExpression →
      FailsRegularly (unary view budget node operator.text operand)
  call : ∀ node query arguments, node.location?.isSome = true →
    (∀ argument ∈ arguments, argument.WellFormedExpression) →
      FailsRegularly (call view budget node query arguments)
  number : ∀ argument, argument.WellFormedExpression →
    FailsRegularly (number view budget argument)
  color : ∀ owner argument, owner.location?.isSome = true → argument.WellFormedExpression →
    FailsRegularly (color view budget owner argument)
  string : ∀ argument, argument.WellFormedExpression →
    FailsRegularly (string view budget argument)

variable {settings painting state} in
theorem FailsRegularlyWithin.succ {budget : Nat}
    (regular : FailsRegularlyWithin ⟨settings, painting, some state⟩ budget) :
    FailsRegularlyWithin ⟨settings, painting, some state⟩ (budget + 1) where
  evaluate := by
    intro node formed
    have located := formed.located
    cases formed with
    | @literal value location writable =>
        unfold Evaluation.evaluate
        dsimp only
        rw [literal_of_kind]
        exact FailsOnly.ok value
    | @reference name location identifier =>
        unfold Evaluation.evaluate
        dsimp only
        rw [View.current_mk, ok_bind]
        cases state.store.find? name with
        | none => exact .mishap located rfl
        | some value => exact FailsOnly.ok value
    | binary leftFormed rightFormed =>
        exact regular.binary _ _ _ _ located leftFormed rightFormed
    | unary operandFormed => exact regular.unary _ _ _ located operandFormed
    | @call query arguments location each =>
        unfold Evaluation.evaluate
        dsimp only
        rw [Name.text?_ofText, Option.bind_some, Query.ofCode?_code]
        exact regular.call _ _ _ located each
  binary := by
    intro node operator left right located leftFormed rightFormed
    refine .bind (regular.evaluate left leftFormed) fun leftValue =>
      .bind (regular.evaluate right rightFormed) fun rightValue => ?_
    rw [Name.text?_ofText, Option.bind_some, BinaryOperator.ofText?_text]
    exact applyBinary_failsOnly (Fault.regular_of_isOrdinary located) operator leftValue rightValue
  unary := by
    intro node operator operand located operandFormed
    refine .bind (regular.evaluate operand operandFormed) fun value => ?_
    rw [Name.text?_ofText, Option.bind_some, UnaryOperator.ofText?_text]
    exact applyUnary_failsOnly (Fault.regular_of_isOrdinary located) operator value
  call node query arguments located each :=
    answer_failsOnly (fun _ => Fault.regular_of_isOrdinary located _ rfl)
      (Fault.regular_of_isOrdinary located _ rfl)
      (fun argument among => regular.number argument (each argument (List.of_mem_zip among).1))
      (fun argument among =>
        regular.color node argument located (each argument (List.of_mem_zip among).1))
  number argument formed :=
    .bind (regular.evaluate argument formed)
      (asNumber_failsOnly (Fault.regular_of_isOrdinary formed.located))
  color owner argument located formed :=
    .bind (regular.string argument formed)
      (asColor_failsOnly (Fault.regular_of_isOrdinary located))
  string argument formed :=
    .bind (regular.evaluate argument formed)
      (asString_failsOnly (Fault.regular_of_isOrdinary formed.located))

theorem failsRegularlyWithin (budget : Nat) :
    FailsRegularlyWithin ⟨settings, painting, some state⟩ budget := by
  induction budget with
  | zero => constructor <;> intros <;> exact FailsOnly.error .tooDeep
  | succ budget regular => exact regular.succ

end

end Evaluation
end PixelBrush
