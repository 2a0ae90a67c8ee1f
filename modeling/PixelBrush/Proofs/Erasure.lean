import PixelBrush.Proofs.Arity
import PixelBrush.Proofs.EvaluationAgreement
import PixelBrush.Proofs.Painting
import PixelBrush.Proofs.Source

/-! # Evaluation without locations

Locations serve to blame a node for a mishap, and for nothing else.  A tree
without its locations evaluates to the same value, or fails for the same reason
at no place.
-/

namespace PixelBrush

/-- A fault without the location that it blames. -/
def Fault.unlocated : Fault → Fault
  | mishap cause _ => mishap cause .nowhere
  | fault => fault

/-- What an attempt comes to, without the location that a fault blames. -/
def unblamed {α : Type} (attempt : Except Fault α) : Except Fault α :=
  attempt.mapError Fault.unlocated

section

variable {α β : Type}

@[simp]
theorem unblamed_ok (value : α) : unblamed (.ok value) = .ok value := rfl

@[simp]
theorem unblamed_pure (value : α) : unblamed (pure value : Except Fault α) = pure value := rfl

@[simp]
theorem unblamed_error (fault : Fault) :
    unblamed (.error fault : Except Fault α) = .error fault.unlocated := rfl

@[simp]
theorem unblamed_throw (fault : Fault) :
    unblamed (throw fault : Except Fault α) = throw fault.unlocated := rfl

@[simp]
theorem unblamed_bind (attempt : Except Fault α) (next : α → Except Fault β) :
    unblamed (attempt >>= next) = unblamed attempt >>= fun value => unblamed (next value) := by
  cases attempt <;> rfl

@[simp]
theorem unblamed_map (result : α → β) (attempt : Except Fault α) :
    unblamed (result <$> attempt) = result <$> unblamed attempt := by
  cases attempt <;> rfl

end

namespace Node

@[simp]
theorem typeName_unlocated (node : Node) : node.unlocated.typeName = node.typeName := by
  cases node <;> rfl

@[simp]
theorem location?_unlocated (node : Node) :
    node.unlocated.location? = node.location?.map fun _ => .nowhere := by
  cases node <;> rfl

end Node

@[simp]
theorem Fault.ofMishap_unlocated (cause : Mishap) (node : Node) :
    ofMishap cause node.unlocated = (ofMishap cause node).unlocated := by
  unfold ofMishap
  rw [Node.location?_unlocated]
  cases cause.message? with
  | none => rfl
  | some message => cases node.location? <;> rfl

namespace Evaluation

@[simp]
theorem asNumber_unlocated (argument : Node) (value : Value) :
    asNumber argument.unlocated value = unblamed (asNumber argument value) := by
  cases value <;> simp [asNumber]

@[simp]
theorem asBoolean_unlocated (argument : Node) (value : Value) :
    asBoolean argument.unlocated value = unblamed (asBoolean argument value) := by
  cases value <;> simp [asBoolean]

@[simp]
theorem asString_unlocated (argument : Node) (value : Value) :
    asString argument.unlocated value = unblamed (asString argument value) := by
  cases value <;> simp [asString]

@[simp]
theorem asColor_unlocated (owner : Node) (text : String) :
    asColor owner.unlocated text = unblamed (asColor owner text) := by
  unfold asColor
  cases Color.parse? text <;> simp

@[simp]
theorem literal_unlocated (node : Node) (kind : Name) (value : Payload) :
    literal node.unlocated kind value = unblamed (literal node kind value) := by
  unfold literal
  cases kind.text?.bind Kind.ofName? with
  | none => simp
  | some expected =>
      cases value with
      | none => rfl
      | some value => by_cases same : value.kind = expected <;> simp [same]

theorem onBooleans_unlocated (node : Node) (operator : BinaryOperator)
    (result : Bool → Bool → Bool) (left right : Value) :
    onBooleans node.unlocated operator result left right =
      unblamed (onBooleans node operator result left right) := by
  cases left <;> cases right <;> simp [onBooleans]

theorem onNumbers_unlocated (node : Node) (operator : BinaryOperator)
    (result : Int → Int → Except Arithmetic.Undefined Value) (left right : Value) :
    onNumbers node.unlocated operator result left right =
      unblamed (onNumbers node operator result left right) := by
  cases left <;> cases right <;> simp only [onNumbers, Fault.ofMishap_unlocated, unblamed_error]
  case number.number left right => cases result left right <;> simp

@[simp]
theorem applyBinary_unlocated (node : Node) (operator : BinaryOperator) (left right : Value) :
    applyBinary node.unlocated operator left right =
      unblamed (applyBinary node operator left right) := by
  unfold applyBinary
  cases operator with
  | and | or => exact onBooleans_unlocated node _ _ left right
  | _ => exact onNumbers_unlocated node _ _ left right

@[simp]
theorem applyUnary_unlocated (node : Node) (operator : UnaryOperator) (value : Value) :
    applyUnary node.unlocated operator value = unblamed (applyUnary node operator value) := by
  cases operator <;> cases value <;> simp [applyUnary]

section

variable (settings : Settings) (painting : Painting) (state : State)

theorem answer_unlocated (node : Node) {number erasedNumber : Node → Except Fault Int}
    {color erasedColor : Node → Except Fault Color}
    (numbers : ∀ argument, erasedNumber argument.unlocated = unblamed (number argument))
    (colors : ∀ argument, erasedColor argument.unlocated = unblamed (color argument))
    (query : Query) (arguments : List Node) :
    answer ⟨settings, painting, some state⟩ node.unlocated erasedNumber erasedColor query
        (Node.unlocatedAll arguments) =
      unblamed (answer ⟨settings, painting, some state⟩ node number color query arguments) := by
  by_cases fits : arguments.length = query.arity
  · cases query with
    | actualX | actualY =>
        obtain rfl := List.eq_nil_of_length_eq_zero fits
        simp [answer, Node.unlocatedAll, apply_ite unblamed]
    | canvasSize =>
        obtain rfl := List.eq_nil_of_length_eq_zero fits
        rfl
    | colorCount =>
        obtain ⟨first, second, third, fourth, fifth, rfl⟩ := exists_of_length_eq_five fits
        simp [answer, Node.unlocatedAll, numbers, colors, apply_ite unblamed]
    | isBrushColor =>
        obtain ⟨first, rfl⟩ := List.length_eq_one_iff.mp fits
        simp [answer, Node.unlocatedAll, colors]
    | isBrushSize =>
        obtain ⟨first, rfl⟩ := List.length_eq_one_iff.mp fits
        simp [answer, Node.unlocatedAll, numbers]
    | isCanvasColor =>
        obtain ⟨first, second, third, rfl⟩ := List.length_eq_three.mp fits
        simp [answer, Node.unlocatedAll, numbers, colors, apply_ite unblamed]
  · have erasedFits : (Node.unlocatedAll arguments).length ≠ query.arity := by
      rwa [Node.length_unlocatedAll]
    rw [answer_of_length_ne _ _ _ _ erasedFits, answer_of_length_ne _ _ _ _ fits]
    simp

/-- All evaluators, each with the same budget, find the same without locations. -/
structure ErasesWithin (view : View) (budget : Nat) : Prop where
  evaluate : ∀ node,
    evaluate view budget node.unlocated = unblamed (evaluate view budget node)
  binary : ∀ node operator left right,
    binary view budget node.unlocated operator left.unlocated right.unlocated =
      unblamed (binary view budget node operator left right)
  unary : ∀ node operator operand,
    unary view budget node.unlocated operator operand.unlocated =
      unblamed (unary view budget node operator operand)
  call : ∀ node query arguments,
    call view budget node.unlocated query (Node.unlocatedAll arguments) =
      unblamed (call view budget node query arguments)
  number : ∀ argument,
    number view budget argument.unlocated = unblamed (number view budget argument)
  color : ∀ owner argument,
    color view budget owner.unlocated argument.unlocated =
      unblamed (color view budget owner argument)
  string : ∀ argument,
    string view budget argument.unlocated = unblamed (string view budget argument)

theorem erasesWithin (budget : Nat) : ErasesWithin ⟨settings, painting, some state⟩ budget := by
  induction budget with
  | zero => constructor <;> intros <;> rfl
  | succ budget erases =>
      constructor
      · intro node
        cases node with
        | literal kind value location => exact literal_unlocated (.literal kind value location) _ _
        | reference name location =>
            unfold evaluate
            simp only [View.current_mk, ok_bind, Node.unlocated]
            cases state.store.find? name with
            | none =>
                exact congrArg Except.error
                  (Fault.ofMishap_unlocated _ (.reference name location))
            | some value => rfl
        | binary operator left right location => exact erases.binary _ operator left right
        | unary operator operand location => exact erases.unary _ operator operand
        | call code arguments location =>
            unfold evaluate
            simp only [Node.unlocated]
            cases code.text?.bind Query.ofCode? with
            | none =>
                exact congrArg Except.error
                  (Fault.ofMishap_unlocated _ (.call code arguments location))
            | some query => exact erases.call (.call code arguments location) query arguments
        | program | label | assignment | instruction | jump | foreign | text | missing =>
            exact congrArg Except.error (Fault.ofMishap_unlocated _ _)
      · intro node operator left right
        unfold binary
        rw [erases.evaluate, erases.evaluate, unblamed_bind]
        congr 1
        funext leftValue
        rw [unblamed_bind]
        congr 1
        funext rightValue
        cases operator.text?.bind BinaryOperator.ofText? <;> simp
      · intro node operator operand
        unfold unary
        rw [erases.evaluate, unblamed_bind]
        congr 1
        funext value
        cases operator.text?.bind UnaryOperator.ofText? <;> simp
      · intro node query arguments
        exact answer_unlocated settings painting state node erases.number (erases.color node) query
          arguments
      · intro argument
        unfold number
        rw [erases.evaluate, unblamed_bind]
        simp only [asNumber_unlocated]
      · intro owner argument
        unfold color
        rw [erases.string, unblamed_bind]
        simp only [asColor_unlocated]
      · intro argument
        unfold string
        rw [erases.evaluate, unblamed_bind]
        simp only [asString_unlocated]

theorem boolean_unlocated (budget : Nat) (condition : Node) :
    boolean ⟨settings, painting, some state⟩ budget condition.unlocated =
      unblamed (boolean ⟨settings, painting, some state⟩ budget condition) := by
  unfold boolean
  rw [(erasesWithin settings painting state budget).evaluate, unblamed_bind]
  simp only [asBoolean_unlocated]

end

end Evaluation
end PixelBrush
