import PixelBrush.Proofs.Outline

/-! # What faults are blamed on

Evaluating an expression fails at one of its nodes, unless it nests too deeply.  A
statement fails at one of its nodes too, or it is not carried out because the limit
of steps has been reached.
-/

namespace PixelBrush

namespace Node

theorem levels_pos (node : Node) : 0 < node.levels := by
  cases node <;> simp [levels]

/-- An item of a list is one level further down than the list. -/
theorem levels_lt_levelsOfAll {node : Node} {nodes : List Node} (among : node ∈ nodes) :
    node.levels < levelsOfAll nodes := by
  induction nodes with
  | nil => cases among
  | cons first others induction =>
      rw [levelsOfAll]
      rcases List.mem_cons.mp among with rfl | among
      · omega
      · have below := induction among
        omega

end Node

/-- Whether any mishap at a node is allowed, but for one that keeps statements from
being carried out. -/
def Blames (allowed : Fault → Prop) (node : Node) : Prop :=
  ∀ cause : Mishap, cause.isStepLimit = false → allowed (.ofMishap cause node)

theorem Blames.own {allowed : Fault → Prop} {node : Node} (blames : Blames allowed node)
    (cause : Mishap) (ordinary : cause.isOrdinary = true) : allowed (.ofMishap cause node) :=
  blames cause (Mishap.isStepLimit_of_isOrdinary ordinary)

namespace Evaluation

variable {allowed : Fault → Prop} {settings : Settings} {painting : Painting} {state : State}

theorem literal_failsOnly {node : Node} (blames : Blames allowed node)
    (notAValue : allowed .notAValue) (kind : Name) (value : Payload) :
    FailsOnly allowed (literal node kind value) := by
  unfold literal
  cases kind.text?.bind Kind.ofName? with
  | none => cases value <;> exact .error (blames _ rfl)
  | some expected =>
      cases value with
      | none => exact .error notAValue
      | some value => exact .ite (.ok value) (.error (blames _ rfl))

/-- All evaluators, each with the same budget, fail at one of the nodes that they are
given.  Evaluating nests at most twice as deep as printing. -/
structure FailsWithin (allowed : Fault → Prop) (view : View) (budget : Nat) : Prop where
  evaluate : ∀ node, (∀ part ∈ node.parts, Blames allowed part) →
    (budget < 2 * node.levels → allowed .tooDeep) → FailsOnly allowed (evaluate view budget node)
  binary : ∀ node operator left right, Blames allowed node →
    (∀ part ∈ left.parts, Blames allowed part) → (∀ part ∈ right.parts, Blames allowed part) →
    (budget ≤ 2 * max left.levels right.levels → allowed .tooDeep) →
      FailsOnly allowed (binary view budget node operator left right)
  unary : ∀ node operator operand, Blames allowed node →
    (∀ part ∈ operand.parts, Blames allowed part) →
    (budget ≤ 2 * operand.levels → allowed .tooDeep) →
      FailsOnly allowed (unary view budget node operator operand)
  call : ∀ node query arguments, Blames allowed node →
    (∀ argument ∈ arguments, ∀ part ∈ argument.parts, Blames allowed part) →
    (budget ≤ 2 * Node.levelsOfAll arguments → allowed .tooDeep) →
      FailsOnly allowed (call view budget node query arguments)
  number : ∀ argument, (∀ part ∈ argument.parts, Blames allowed part) →
    (budget ≤ 2 * argument.levels → allowed .tooDeep) →
      FailsOnly allowed (number view budget argument)
  color : ∀ owner argument, Blames allowed owner →
    (∀ part ∈ argument.parts, Blames allowed part) →
    (budget ≤ 2 * argument.levels + 1 → allowed .tooDeep) →
      FailsOnly allowed (color view budget owner argument)
  string : ∀ argument, (∀ part ∈ argument.parts, Blames allowed part) →
    (budget ≤ 2 * argument.levels → allowed .tooDeep) →
      FailsOnly allowed (string view budget argument)

theorem FailsWithin.succ {budget : Nat} (notAValue : allowed .notAValue)
    (fails : FailsWithin allowed ⟨settings, painting, some state⟩ budget) :
    FailsWithin allowed ⟨settings, painting, some state⟩ (budget + 1) where
  evaluate node blames tooDeep := by
    have own := blames node node.mem_parts_self
    unfold Evaluation.evaluate
    cases node with
    | literal kind value location => exact literal_failsOnly own notAValue kind value
    | reference name location =>
        dsimp only
        rw [View.current_mk, ok_bind]
        cases state.store.find? name with
        | none => exact .error (own _ rfl)
        | some value => exact .ok value
    | binary operator left right location =>
        simp only [Node.parts, List.forall_mem_append, List.forall_mem_cons] at blames
        obtain ⟨leftBlames, -, rightBlames⟩ := blames
        rw [Node.levels] at tooDeep
        exact fails.binary _ operator left right own leftBlames rightBlames
          fun deep => tooDeep (by omega)
    | unary operator operand location =>
        simp only [Node.parts, List.forall_mem_cons] at blames
        rw [Node.levels] at tooDeep
        exact fails.unary _ operator operand own blames.2 fun deep => tooDeep (by omega)
    | call code arguments location =>
        dsimp only
        cases code.text?.bind Query.ofCode? with
        | none => exact .error (own _ rfl)
        | some query =>
            simp only [Node.parts, List.forall_mem_cons, Node.forall_mem_partsOfAll] at blames
            rw [Node.levels] at tooDeep
            exact fails.call _ query arguments own blames.2 fun deep => tooDeep (by omega)
    | _ => exact .error (own _ rfl)
  binary node operator left right own leftBlames rightBlames tooDeep := by
    refine .bind (fails.evaluate left leftBlames fun deep => tooDeep (by omega)) fun leftValue _ =>
      .bind (fails.evaluate right rightBlames fun deep => tooDeep (by omega)) fun rightValue _ => ?_
    cases operator.text?.bind BinaryOperator.ofText? with
    | none => exact .error (own _ rfl)
    | some operator => exact applyBinary_failsOnly own.own operator leftValue rightValue
  unary node operator operand own blames tooDeep := by
    refine .bind (fails.evaluate operand blames fun deep => tooDeep (by omega)) fun value _ => ?_
    cases operator.text?.bind UnaryOperator.ofText? with
    | none => exact .error (own _ rfl)
    | some operator => exact applyUnary_failsOnly own.own operator value
  call node query arguments own blames tooDeep := by
    refine answer_failsOnly (fun _ => own _ rfl) (own _ rfl)
      (fun argument among => ?_) (fun argument among => ?_)
    all_goals
      have member := (List.of_mem_zip among).1
      have below := Node.levels_lt_levelsOfAll member
    · exact fails.number argument (blames argument member) fun deep => tooDeep (by omega)
    · exact fails.color node argument own (blames argument member) fun deep => tooDeep (by omega)
  number argument blames tooDeep :=
    .bind (fails.evaluate argument blames fun deep => tooDeep (by omega)) fun value _ =>
      asNumber_failsOnly (blames argument argument.mem_parts_self).own value
  color owner argument own blames tooDeep :=
    .bind (fails.string argument blames fun deep => tooDeep (by omega)) fun text _ =>
      asColor_failsOnly own.own text
  string argument blames tooDeep :=
    .bind (fails.evaluate argument blames fun deep => tooDeep (by omega)) fun value _ =>
      asString_failsOnly (blames argument argument.mem_parts_self).own value

theorem failsWithin (notAValue : allowed .notAValue) (settings : Settings) (painting : Painting)
    (state : State) (budget : Nat) :
    FailsWithin allowed ⟨settings, painting, some state⟩ budget := by
  induction budget with
  | zero =>
      have exhausted {bound : Nat} {α : Type} (tooDeep : 0 ≤ bound → allowed .tooDeep) :
          FailsOnly allowed (.error .tooDeep : Except Fault α) :=
        .error (tooDeep bound.zero_le)
      exact
        { evaluate := fun node _ tooDeep =>
            .error (tooDeep (Nat.mul_pos Nat.two_pos node.levels_pos))
          binary := fun _ _ _ _ _ _ _ => exhausted
          unary := fun _ _ _ _ _ => exhausted
          call := fun _ _ _ _ _ => exhausted
          number := fun _ _ => exhausted
          color := fun _ _ _ _ => exhausted
          string := fun _ _ => exhausted }
  | succ budget fails => exact fails.succ notAValue

theorem boolean_failsOnly {condition : Node}
    (blames : ∀ part ∈ condition.parts, Blames allowed part)
    (notAValue : allowed .notAValue) (tooDeep : allowed .tooDeep) (budget : Nat) :
    FailsOnly allowed (boolean ⟨settings, painting, some state⟩ budget condition) :=
  .bind ((failsWithin notAValue _ _ _ budget).evaluate condition blames fun _ => tooDeep)
    fun value _ => asBoolean_failsOnly (blames condition condition.mem_parts_self).own value

end Evaluation

/-- The faults that carrying out a statement may end in. -/
inductive Fault.BlamedOn (statement : Node) : Fault → Prop
  | part {part : Node} {cause : Mishap} (within : part ∈ statement.parts)
      (carriedOut : cause.isStepLimit = false) : BlamedOn statement (.ofMishap cause part)
  | tooDeep : BlamedOn statement .tooDeep
  | notAValue : BlamedOn statement .notAValue

/-- Whether a fault is that a statement is not carried out at all. -/
def Fault.isStepLimit : Fault → Bool
  | mishap cause _ | unwritable cause => cause.isStepLimit
  | _ => false

theorem Fault.isStepLimit_ofMishap {cause : Mishap} (carriedOut : cause.isStepLimit = false)
    (node : Node) : (ofMishap cause node).isStepLimit = false := by
  unfold ofMishap
  split
  · exact carriedOut
  · exact carriedOut
  · rfl

theorem Fault.BlamedOn.isStepLimit {statement : Node} {fault : Fault}
    (blamed : fault.BlamedOn statement) : fault.isStepLimit = false := by
  cases blamed with
  | part within carriedOut => exact isStepLimit_ofMishap carriedOut _
  | tooDeep | notAValue => rfl

namespace State

variable (settings : Settings) (painting : Painting) (budget : Nat) (state : State)
  (statement : Node)

theorem perform_failsOnly :
    FailsOnly (Fault.BlamedOn statement) (state.perform settings painting budget statement) := by
  have blames (part) (within : part ∈ statement.parts) : Blames (Fault.BlamedOn statement) part :=
    fun _ carriedOut => .part within carriedOut
  have own := blames statement statement.mem_parts_self
  have fails := @Evaluation.failsWithin (Fault.BlamedOn statement) .notAValue settings
    painting state budget
  cases statement with
  | assignment name value location =>
      simp only [Node.parts, List.forall_mem_cons] at blames
      exact .bind (fails.evaluate value blames.2 fun _ => .tooDeep) fun result _ => .ok _
  | instruction code arguments location =>
      unfold perform
      dsimp only
      cases code.text?.bind Command.ofCode? with
      | none => exact .error (own _ rfl)
      | some command =>
          simp only [Node.parts, List.forall_mem_cons, Node.forall_mem_partsOfAll] at blames
          exact .bind
            (Command.perform_failsOnly own.own settings state.robot
              (fun argument among =>
                fails.number argument (blames.2 argument among) fun _ => .tooDeep)
              (fun argument among =>
                fails.color _ argument own (blames.2 argument among) fun _ => .tooDeep) command)
            fun _ _ => .ok _
  | jump label condition location =>
      simp only [Node.parts, List.forall_mem_cons] at blames
      refine .bind (Evaluation.boolean_failsOnly blames.2 .notAValue .tooDeep budget)
        fun truth _ => .ite ?_ (.ok _)
      cases state.labels.find? label with
      | none => exact .error (own _ rfl)
      | some target => exact .ok _
  | label name location => exact .ok _
  | _ => exact .error (own _ rfl)

/-- A step fails because the limit of steps has been reached, or the statement fails at
one of its nodes. -/
theorem fault_step {fault : Fault}
    (failed : (state.step settings painting budget statement).fault = some fault) :
    (∃ limit, state.atLimit settings = some limit ∧
      fault = .ofMishap (.stepLimit limit) statement) ∨
    state.atLimit settings = none ∧ fault.BlamedOn statement := by
  unfold step at failed
  cases reached : state.atLimit settings with
  | some limit =>
      rw [reached] at failed
      exact .inl ⟨limit, rfl, (Option.some.inj failed).symm⟩
  | none =>
      simp only [reached] at failed
      refine .inr ⟨rfl, ?_⟩
      cases performed : state.count.perform settings painting budget statement with
      | ok result =>
          rw [performed] at failed
          cases failed
      | error other =>
          rw [performed] at failed
          obtain rfl := Option.some.inj failed
          exact state.count.perform_failsOnly settings painting budget statement other performed

end State
end PixelBrush
