import Mathlib.Data.List.Forall2
import PixelBrush.Proofs.Blame

/-! # Kinds of expressions

The kind of an expression follows from the kinds of the variables in it.  An
expression with a kind can only be evaluated to a value of that kind, and what it can
fail with does not depend on kinds; an expression without a kind cannot be evaluated.
-/

namespace PixelBrush

namespace BinaryOperator

/-- The kind that both operands have to be of. -/
def operandKind : BinaryOperator → Kind
  | and | or => .boolean
  | _ => .number

def resultKind : BinaryOperator → Kind
  | add | subtract | multiply | divide | remainder | power => .number
  | _ => .boolean

end BinaryOperator

/-- The kind of the operand and of the result. -/
def UnaryOperator.kind : UnaryOperator → Kind
  | negate => .number
  | not => .boolean

theorem Query.boolean_notMem_signature (query : Query) : Kind.boolean ∉ query.signature := by
  cases query <;> decide

namespace Node

mutual

/-- The kind of an expression, given the kinds of the variables that are defined. -/
def kind? (stored : Name → Option Kind) : Node → Option Kind
  | literal kind value _ =>
      if kind.text?.bind Kind.ofName? = value.map Value.kind then value.map Value.kind else none
  | reference name _ => stored name
  | binary operator left right _ =>
      (operator.text?.bind BinaryOperator.ofText?).bind fun operator =>
        if left.kind? stored = some operator.operandKind ∧
            right.kind? stored = some operator.operandKind then
          some operator.resultKind
        else none
  | unary operator operand _ =>
      (operator.text?.bind UnaryOperator.ofText?).bind fun operator =>
        if operand.kind? stored = some operator.kind then some operator.kind else none
  | call code arguments _ =>
      (code.text?.bind Query.ofCode?).bind fun query =>
        if kinds stored arguments = query.signature.map some then some .number else none
  | _ => none

def kinds (stored : Name → Option Kind) : List Node → List (Option Kind)
  | [] => []
  | node :: others => node.kind? stored :: kinds stored others

end

theorem kinds_eq_map (stored : Name → Option Kind) (nodes : List Node) :
    kinds stored nodes = nodes.map (kind? stored) := by
  induction nodes with
  | nil => rfl
  | cons node others induction => rw [kinds, induction, List.map_cons]

/-- Arguments suit a query if each of them is of the kind that its place asks for. -/
theorem kinds_eq_signature_iff {stored : Name → Option Kind} {arguments : List Node}
    {query : Query} :
    kinds stored arguments = query.signature.map some ↔
      arguments.length = query.arity ∧
      ∀ argument kind, (argument, kind) ∈ arguments.zip query.signature →
        argument.kind? stored = some kind := by
  rw [kinds_eq_map, ← List.forall₂_eq_eq_eq, List.forall₂_map_left_iff,
    List.forall₂_map_right_iff, List.forall₂_iff_zip, query.length_signature]

end Node

/-- The kind of the value of a variable, if it has one. -/
def State.kindOf (state : State) (name : Name) : Option Kind :=
  (state.store.find? name).map Value.kind

/-- The faults that do not come from the kinds of values: they depend on the values
themselves and on whether the robot has been spawned. -/
inductive Fault.Accidental : Fault → Prop
  | divisionByZero {location : Location} : Accidental (.mishap .divisionByZero location)
  | spawnMissing {location : Location} : Accidental (.mishap .spawnMissing location)
  | invalidColor {text : String} {location : Location} :
      Accidental (.mishap (.invalidColor text) location)
  | tooDeep : Accidental .tooDeep

namespace Evaluation

/-- Whether an attempt to find something of a kind comes out as the kind of the
expression says, if it has one. -/
structure AgreesAs {α : Type} (kind : Kind) (expected : Option Kind) (attempt : Except Fault α) :
    Prop where
  ok : ∀ found, attempt = .ok found → expected = some kind
  error : expected = some kind → FailsOnly Fault.Accidental attempt

/-- Whether an attempt to evaluate an expression comes out as its kind says, if it has
one. -/
structure Agrees (expected : Option Kind) (attempt : Except Fault Value) : Prop where
  ok : ∀ value, attempt = .ok value → expected = some value.kind
  error : expected.isSome = true → FailsOnly Fault.Accidental attempt

theorem AgreesAs.of_accidental {α : Type} {kind : Kind} {expected : Option Kind} {fault : Fault}
    (accidental : fault.Accidental) :
    AgreesAs kind expected (.error fault : Except Fault α) where
  ok _ found := by cases found
  error _ := .error accidental

namespace Agrees

variable {expected : Option Kind} {attempt : Except Fault Value}

theorem of_error {fault : Fault} : Agrees none (.error fault) where
  ok _ found := by cases found
  error isSome := by cases isSome

theorem of_ok (value : Value) : Agrees (some value.kind) (.ok value) where
  ok found done := by rw [Except.ok.inj done]
  error _ := .ok value

theorem of_accidental {fault : Fault} (accidental : fault.Accidental) :
    Agrees expected (.error fault) where
  ok _ found := by cases found
  error _ := .error accidental

/-- The value of an operand is only of use if the operand has a kind. -/
theorem bind {operand : Option Kind} {next : Value → Except Fault Value}
    (first : Agrees operand attempt) (needed : expected.isSome = true → operand.isSome = true)
    (later : ∀ value, operand = some value.kind → Agrees expected (next value)) :
    Agrees expected (attempt >>= next) where
  ok value done := by
    obtain ⟨found, evaluated, done⟩ := exists_of_bind_ok done
    exact (later found (first.ok found evaluated)).ok value done
  error isSome :=
    .bind (first.error (needed isSome)) fun found evaluated =>
      (later found (first.ok found evaluated)).error isSome

end Agrees

/-- A value is taken for something of a kind: this goes well for every value of that
kind, and for no other. -/
theorem AgreesAs.of_value {α : Type} {kind : Kind} {expected : Option Kind}
    {attempt : Except Fault Value} {next : Value → Except Fault α} (first : Agrees expected attempt)
    (right : ∀ value, value.kind = kind → FailsOnly Fault.Accidental (next value))
    (wrong : ∀ value found, next value = .ok found → value.kind = kind) :
    AgreesAs kind expected (attempt >>= next) where
  ok found done := by
    obtain ⟨value, evaluated, done⟩ := exists_of_bind_ok done
    rw [first.ok value evaluated, wrong value found done]
  error hasKind := by
    refine .bind (first.error (by rw [hasKind]; rfl)) fun value evaluated => right value ?_
    rw [first.ok value evaluated] at hasKind
    exact Option.some.inj hasKind

section Values

variable {node : Node}

theorem accidental_ofMishap {cause : Mishap} (located : node.location?.isSome = true)
    (accidental : ∀ location, (Fault.mishap cause location).Accidental)
    (written : cause.message?.isSome = true) : (Fault.ofMishap cause node).Accidental := by
  obtain ⟨location, stands⟩ := Option.isSome_iff_exists.mp located
  obtain ⟨message, reported⟩ := Option.isSome_iff_exists.mp written
  unfold Fault.ofMishap
  rw [stands, reported]
  exact accidental location

theorem literal_agrees (kind : Name) (value : Payload) :
    Agrees
      (if kind.text?.bind Kind.ofName? = value.map Value.kind then value.map Value.kind else none)
      (literal node kind value) := by
  unfold literal
  cases kind.text?.bind Kind.ofName? with
  | none => cases value <;> exact .of_error
  | some expected =>
      cases value with
      | none => exact .of_error
      | some value =>
          simp only [Option.map_some, Option.some.injEq, @eq_comm _ expected]
          by_cases same : value.kind = expected
          · simp only [if_pos same]
            exact .of_ok value
          · simp only [if_neg same]
            exact .of_error

theorem onBooleans_agrees (operator : BinaryOperator) (result : Bool → Bool → Bool)
    (left right : Value) :
    Agrees (if left.kind = .boolean ∧ right.kind = .boolean then some .boolean else none)
      (onBooleans node operator result left right) := by
  cases left <;> cases right <;> first | exact .of_ok (.boolean _) | exact .of_error

theorem applyUnary_agrees (operator : UnaryOperator) (value : Value) :
    Agrees (if value.kind = operator.kind then some operator.kind else none)
      (applyUnary node operator value) := by
  cases operator with
  | negate => cases value <;> first | exact .of_ok (.number _) | exact .of_error
  | not => cases value <;> first | exact .of_ok (.boolean _) | exact .of_error

variable (located : node.location?.isSome = true)

include located

theorem onNumbers_agrees (operator : BinaryOperator) (kind : Kind)
    {result : Int → Int → Except Arithmetic.Undefined Value}
    (kinds : ∀ left right value, result left right = .ok value → value.kind = kind)
    (left right : Value) :
    Agrees (if left.kind = .number ∧ right.kind = .number then some kind else none)
      (onNumbers node operator result left right) := by
  cases left <;> cases right <;> simp only [onNumbers]
  case number.number left right =>
    rw [if_pos ⟨rfl, rfl⟩]
    cases found : result left right with
    | ok value =>
        rw [← kinds left right value found]
        exact .of_ok value
    | error undefined =>
        exact .of_accidental (accidental_ofMishap located (fun _ => .divisionByZero) rfl)
  all_goals exact .of_error

theorem applyBinary_agrees (operator : BinaryOperator) (left right : Value) :
    Agrees
      (if left.kind = operator.operandKind ∧ right.kind = operator.operandKind then
        some operator.resultKind
      else none)
      (applyBinary node operator left right) := by
  have attempted (result : Int → Int → Except Arithmetic.Undefined Int) (first second value) :
      (result first second).map Value.number = .ok value → value.kind = .number := by
    cases result first second with
    | ok found => exact fun done => by rw [← Except.ok.inj done]; rfl
    | error undefined => exact fun done => by cases done
  have certain (kind : Kind) (result : Int → Int → Value)
      (kinds : ∀ first second, (result first second).kind = kind) (first second value) :
      (Except.ok (result first second) : Except Arithmetic.Undefined Value) = .ok value →
        value.kind = kind :=
    fun done => by rw [← Except.ok.inj done, kinds]
  cases operator with
  | and | or => exact onBooleans_agrees _ _ left right
  | divide | remainder | power => exact onNumbers_agrees located _ .number (attempted _) left right
  | add | subtract | multiply =>
      exact onNumbers_agrees located _ .number (certain _ _ fun _ _ => rfl) left right
  | _ => exact onNumbers_agrees located _ .boolean (certain _ _ fun _ _ => rfl) left right

end Values

section Families

variable {settings : Settings} {painting : Painting} {state : State}

/-- All evaluators, each with the same budget, agree with the kinds of expressions. -/
structure KindsWithin (view : View) (stored : Name → Option Kind) (budget : Nat) : Prop where
  evaluate : ∀ node, Agrees (node.kind? stored) (evaluate view budget node)
  binary : ∀ operator left right location,
    Agrees ((Node.binary operator left right location).kind? stored)
      (binary view budget (.binary operator left right location) operator left right)
  unary : ∀ operator operand location,
    Agrees ((Node.unary operator operand location).kind? stored)
      (unary view budget (.unary operator operand location) operator operand)
  call : ∀ code arguments location query, code.text?.bind Query.ofCode? = some query →
    Agrees ((Node.call code arguments location).kind? stored)
      (call view budget (.call code arguments location) query arguments)
  number : ∀ argument, AgreesAs .number (argument.kind? stored) (number view budget argument)
  color : ∀ owner argument, owner.location?.isSome = true →
    AgreesAs .string (argument.kind? stored) (color view budget owner argument)
  string : ∀ argument, AgreesAs .string (argument.kind? stored) (string view budget argument)

theorem KindsWithin.succ {budget : Nat}
    (agrees : KindsWithin ⟨settings, painting, some state⟩ state.kindOf budget) :
    KindsWithin ⟨settings, painting, some state⟩ state.kindOf (budget + 1) where
  evaluate node := by
    unfold Evaluation.evaluate
    cases node with
    | literal kind value location => exact literal_agrees kind value
    | reference name location =>
        dsimp only
        rw [View.current_mk, ok_bind, Node.kind?, State.kindOf]
        cases state.store.find? name with
        | none => exact .of_error
        | some value => exact .of_ok value
    | binary operator left right location => exact agrees.binary operator left right location
    | unary operator operand location => exact agrees.unary operator operand location
    | call code arguments location =>
        dsimp only
        cases named : code.text?.bind Query.ofCode? with
        | none =>
            rw [Node.kind?, named]
            exact .of_error
        | some query => exact agrees.call code arguments location query named
    | _ => exact .of_error
  binary operator left right location := by
    unfold Evaluation.binary
    rw [Node.kind?]
    cases operator.text?.bind BinaryOperator.ofText? with
    | none =>
        have unneeded (operand : Option Kind) : (none : Option Kind).isSome = true →
            operand.isSome = true := fun isSome => by cases isSome
        exact .bind (agrees.evaluate left) (unneeded _) fun _ _ =>
          .bind (agrees.evaluate right) (unneeded _) fun _ _ => .of_error
    | some operator =>
        rw [Option.bind_some]
        refine .bind (agrees.evaluate left) (fun isSome => ?_) fun leftValue leftKind =>
          .bind (agrees.evaluate right) (fun isSome => ?_) fun rightValue rightKind => ?_
        · rw [(Option.isSome_ite.mp isSome).1, Option.isSome_some]
        · rw [(Option.isSome_ite.mp isSome).2, Option.isSome_some]
        · rw [leftKind, rightKind]
          simp only [Option.some.injEq]
          exact applyBinary_agrees rfl operator leftValue rightValue
  unary operator operand location := by
    unfold Evaluation.unary
    rw [Node.kind?]
    cases operator.text?.bind UnaryOperator.ofText? with
    | none =>
        exact .bind (agrees.evaluate operand) (fun isSome => by cases isSome) fun _ _ => .of_error
    | some operator =>
        rw [Option.bind_some]
        refine .bind (agrees.evaluate operand) (fun isSome => ?_) fun value kind => ?_
        · rw [Option.isSome_ite.mp isSome, Option.isSome_some]
        · rw [kind]
          simp only [Option.some.injEq]
          exact applyUnary_agrees operator value
  call code arguments location query named := by
    rw [Node.kind?, named, Option.bind_some]
    constructor
    · intro value answered
      obtain ⟨isNumber, fits, numbers, colors⟩ := answer_ok answered
      rw [isNumber, if_pos (Node.kinds_eq_signature_iff.mpr ⟨fits, fun argument kind among => ?_⟩)]
      cases kind with
      | number =>
          obtain ⟨found, evaluated⟩ := numbers argument among
          exact (agrees.number argument).ok found evaluated
      | boolean => exact absurd (List.of_mem_zip among).2 query.boolean_notMem_signature
      | string =>
          obtain ⟨found, evaluated⟩ := colors argument among
          exact (agrees.color _ argument rfl).ok found evaluated
    · intro isSome
      obtain ⟨fits, each⟩ := Node.kinds_eq_signature_iff.mp (Option.isSome_ite.mp isSome)
      exact answer_failsOnly (fun wrong => absurd fits wrong)
        (accidental_ofMishap rfl (fun _ => .spawnMissing) rfl)
        (fun argument among => (agrees.number argument).error (each argument .number among))
        (fun argument among => (agrees.color _ argument rfl).error (each argument .string among))
  number argument :=
    .of_value (agrees.evaluate argument)
      (fun value isNumber => by cases value <;> first | exact .ok _ | cases isNumber)
      (fun value found done => by cases value <;> first | rfl | cases done)
  color owner argument located := by
    constructor
    · intro shade done
      obtain ⟨text, evaluated, -⟩ := exists_of_bind_ok done
      exact (agrees.string argument).ok text evaluated
    · intro isString
      refine .bind ((agrees.string argument).error isString) fun text _ => ?_
      unfold asColor
      cases Color.parse? text with
      | none => exact .error (accidental_ofMishap located (fun _ => .invalidColor) rfl)
      | some shade => exact .ok shade
  string argument :=
    .of_value (agrees.evaluate argument)
      (fun value isString => by cases value <;> first | exact .ok _ | cases isString)
      (fun value found done => by cases value <;> first | rfl | cases done)

theorem kindsWithin (settings : Settings) (painting : Painting) (state : State) (budget : Nat) :
    KindsWithin ⟨settings, painting, some state⟩ state.kindOf budget := by
  induction budget with
  | zero =>
      constructor <;> intros <;> exact .of_accidental .tooDeep
  | succ budget agrees => exact agrees.succ

end Families

theorem ofMishap_ne_tooDeep (cause : Mishap) (node : Node) :
    Fault.ofMishap cause node ≠ .tooDeep := by
  unfold Fault.ofMishap
  split <;> nofun

/-- A budget of twice the depth of a tree suffices to evaluate it. -/
theorem evaluate_ne_tooDeep (settings : Settings) (painting : Painting) (state : State)
    {budget : Nat} {node : Node} (within : 2 * node.levels ≤ budget) :
    evaluate ⟨settings, painting, some state⟩ budget node ≠ .error .tooDeep :=
  fun failed =>
    (@failsWithin (· ≠ .tooDeep) nofun settings painting state budget).evaluate node
      (fun part _ cause _ => ofMishap_ne_tooDeep cause part)
      (fun deep => absurd within (Nat.not_le_of_lt deep)) .tooDeep failed rfl

/-- Evaluating an expression with a kind gives a value of that kind or fails for reasons
that have nothing to do with kinds. -/
theorem evaluate_of_kind? (settings : Settings) (painting : Painting) (state : State)
    (budget : Nat) {node : Node} {kind : Kind} (known : node.kind? state.kindOf = some kind) :
    (∃ value, evaluate ⟨settings, painting, some state⟩ budget node = .ok value ∧
      value.kind = kind) ∨
    ∃ fault, evaluate ⟨settings, painting, some state⟩ budget node = .error fault ∧
      fault.Accidental := by
  have agrees := (kindsWithin settings painting state budget).evaluate node
  rw [known] at agrees
  cases evaluated : evaluate ⟨settings, painting, some state⟩ budget node with
  | ok value => exact .inl ⟨value, rfl, (Option.some.inj (agrees.ok value evaluated)).symm⟩
  | error fault => exact .inr ⟨fault, rfl, agrees.error rfl fault evaluated⟩

/-- The kind of an expression tells what can come of evaluating it.  A value is of that
kind, and if there is a kind, then evaluating only fails with a division by zero, a robot
that has not been spawned, a text that is no color, or a tree that is too deep for the
budget.  So an expression that has a value in one state only fails in these ways in any
other state in which the variables are of the same kinds. -/
theorem evaluate_kind_sound (settings : Settings) (painting : Painting) (state : State)
    (budget : Nat) (node : Node) :
    let outcome := evaluate ⟨settings, painting, some state⟩ budget node
    (∀ value, outcome = .ok value → node.kind? state.kindOf = some value.kind) ∧
    (∀ kind, node.kind? state.kindOf = some kind →
      (∃ value, outcome = .ok value ∧ value.kind = kind) ∨
      ∃ fault, outcome = .error fault ∧ fault.Accidental) ∧
    (2 * node.levels ≤ budget → outcome ≠ .error .tooDeep) ∧
    ∀ (others : Settings) (drawn : Painting) (other : State) (more : Nat),
      other.kindOf = state.kindOf → ∀ value, outcome = .ok value →
        (∃ found, evaluate ⟨others, drawn, some other⟩ more node = .ok found ∧
          found.kind = value.kind) ∨
        ∃ fault, evaluate ⟨others, drawn, some other⟩ more node = .error fault ∧
          fault.Accidental := by
  intro outcome
  have sound := ((kindsWithin settings painting state budget).evaluate node).ok
  refine ⟨sound, fun kind => evaluate_of_kind? settings painting state budget,
    evaluate_ne_tooDeep settings painting state, ?_⟩
  intro others drawn other more sameKinds value evaluated
  have known := sound value evaluated
  rw [← sameKinds] at known
  exact evaluate_of_kind? others drawn other more known

end Evaluation
end PixelBrush
