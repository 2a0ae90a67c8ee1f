import PixelBrush.Proofs.Arity
import PixelBrush.Proofs.Ending
import PixelBrush.Proofs.Parts

/-! # Larger canvases

A larger canvas refuses nothing that a smaller one allows.  A program that asks
neither for the size of the canvas nor for what its cells hold cannot tell the
two apart, as long as nothing is refused.
-/

namespace PixelBrush

/-- Whether the answer to a query depends on the canvas: on its size, or on its cells. -/
def Query.concernsCanvas : Query → Bool
  | canvasSize | colorCount | isCanvasColor => true
  | actualX | actualY | isBrushColor | isBrushSize => false

/-- Whether no part of a tree asks about the canvas. -/
def Node.IgnoresCanvas (tree : Node) : Prop :=
  ∀ part ∈ tree.parts, ∀ query ∈ part.query?, query.concernsCanvas = false

instance (tree : Node) : Decidable tree.IgnoresCanvas :=
  inferInstanceAs (Decidable (∀ part ∈ tree.parts, ∀ query ∈ part.query?,
    query.concernsCanvas = false))

namespace Node.IgnoresCanvas

variable {name : Name} {tree value left right : Node} {arguments : List Node}
  {location : Location}

theorem of_parts (ignores : tree.IgnoresCanvas)
    (within : ∀ part ∈ value.parts, part ∈ tree.parts) : value.IgnoresCanvas :=
  fun part member => ignores part (within part member)

theorem argument (ignores : tree.IgnoresCanvas)
    (within : ∀ part ∈ partsOfAll arguments, part ∈ tree.parts) :
    ∀ argument ∈ arguments, argument.IgnoresCanvas :=
  fun _ member => ignores.of_parts fun part inside =>
    within part (mem_partsOfAll.mpr ⟨_, member, inside⟩)

theorem assignment (ignores : (assignment name value location).IgnoresCanvas) :
    value.IgnoresCanvas :=
  ignores.of_parts fun _ member => by simp [parts, member]

theorem instruction (ignores : (instruction name arguments location).IgnoresCanvas) :
    ∀ argument ∈ arguments, argument.IgnoresCanvas :=
  ignores.argument fun _ member => by simp [parts, member]

theorem jump (ignores : (jump name value location).IgnoresCanvas) : value.IgnoresCanvas :=
  ignores.of_parts fun _ member => by simp [parts, member]

theorem leftOperand (ignores : (binary name left right location).IgnoresCanvas) :
    left.IgnoresCanvas :=
  ignores.of_parts fun _ member => by simp [parts, member]

theorem rightOperand (ignores : (binary name left right location).IgnoresCanvas) :
    right.IgnoresCanvas :=
  ignores.of_parts fun _ member => by simp [parts, member]

theorem operand (ignores : (unary name value location).IgnoresCanvas) :
    value.IgnoresCanvas :=
  ignores.of_parts fun _ member => by simp [parts, member]

theorem call (ignores : (call name arguments location).IgnoresCanvas) :
    ∀ argument ∈ arguments, argument.IgnoresCanvas :=
  ignores.argument fun _ member => by simp [parts, member]

theorem query (ignores : tree.IgnoresCanvas) {query : Query} (asks : tree.query? = some query) :
    query.concernsCanvas = false :=
  ignores tree tree.mem_parts_self query asks

end Node.IgnoresCanvas

/-- Whether two attempts come to the same if the first one succeeds. -/
def MatchedBy {α : Type} (attempt other : Except Fault α) : Prop :=
  ∀ result, attempt = .ok result → other = .ok result

namespace MatchedBy

variable {α β : Type} {attempt other : Except Fault α}

theorem of_eq (same : attempt = other) : MatchedBy attempt other := by
  intro result done
  rw [← same, done]

theorem bind {next otherNext : α → Except Fault β} (first : MatchedBy attempt other)
    (later : ∀ value, MatchedBy (next value) (otherNext value)) :
    MatchedBy (attempt >>= next) (other >>= otherNext) := by
  intro result done
  obtain ⟨value, found, done⟩ := exists_of_bind_ok done
  rw [first value found]
  exact later value result done

/-- A requirement may be replaced by a weaker one. -/
theorem require {condition weaker : Bool} {cause : Mishap} {node : Node}
    (weakens : condition = true → weaker = true) :
    MatchedBy (Command.require condition cause node) (Command.require weaker cause node) := by
  intro result done
  cases condition with
  | false => cases done
  | true => rwa [weakens rfl]

end MatchedBy

namespace Settings

variable {settings : Settings} {size : Nat}

/-- The same settings with a larger canvas. -/
def enlarged (settings : Settings) (larger : settings.canvasSize ≤ size) : Settings :=
  { settings with
    canvasSize := size
    positive := Nat.lt_of_lt_of_le settings.positive larger }

theorem inBounds_enlarged (larger : settings.canvasSize ≤ size) {x y : Int}
    (inside : settings.inBounds x y = true) :
    (settings.enlarged larger).inBounds x y = true := by
  have atMost : (settings.canvasSize : Int) ≤ size := Int.ofNat_le.mpr larger
  have side : (settings.enlarged larger).canvasSize = size := rfl
  rw [inBounds_iff] at inside ⊢
  rw [side]
  omega

end Settings

namespace Evaluation

variable {settings others : Settings} {painter other : Painter} {state : State}

theorem answer_of_ignores {node : Node} {number otherNumber : Node → Except Fault Int}
    {color otherColor : Node → Except Fault Color} {query : Query} {arguments : List Node}
    (ignores : query.concernsCanvas = false)
    (numbers : ∀ argument ∈ arguments, number argument = otherNumber argument)
    (colors : ∀ argument ∈ arguments, color argument = otherColor argument) :
    answer ⟨settings, painter, some state⟩ node number color query arguments =
      answer ⟨others, other, some state⟩ node otherNumber otherColor query arguments := by
  by_cases fits : arguments.length = query.arity
  · cases query with
    | canvasSize | colorCount | isCanvasColor => cases ignores
    | actualX | actualY =>
        obtain rfl := List.eq_nil_of_length_eq_zero fits
        rfl
    | isBrushColor =>
        obtain ⟨first, rfl⟩ := List.length_eq_one_iff.mp fits
        unfold answer
        dsimp only
        rw [colors first List.mem_cons_self]
        rfl
    | isBrushSize =>
        obtain ⟨first, rfl⟩ := List.length_eq_one_iff.mp fits
        unfold answer
        dsimp only
        rw [numbers first List.mem_cons_self]
        rfl
  · rw [answer_of_length_ne _ _ _ _ fits, answer_of_length_ne _ _ _ _ fits]

/-- All evaluators, each with the same budget, find the same in two views if they are not
asked about the canvas. -/
structure AgreesWithin (first second : View) (budget : Nat) : Prop where
  evaluate : ∀ node, node.IgnoresCanvas →
    evaluate first budget node = evaluate second budget node
  binary : ∀ node operator left right, left.IgnoresCanvas → right.IgnoresCanvas →
    binary first budget node operator left right = binary second budget node operator left right
  unary : ∀ node operator operand, operand.IgnoresCanvas →
    unary first budget node operator operand = unary second budget node operator operand
  call : ∀ node query arguments, query.concernsCanvas = false →
    (∀ argument ∈ arguments, argument.IgnoresCanvas) →
      call first budget node query arguments = call second budget node query arguments
  number : ∀ argument, argument.IgnoresCanvas →
    number first budget argument = number second budget argument
  color : ∀ owner argument, argument.IgnoresCanvas →
    color first budget owner argument = color second budget owner argument
  string : ∀ argument, argument.IgnoresCanvas →
    string first budget argument = string second budget argument

theorem agreesWithin (settings others : Settings) (painter other : Painter) (state : State)
    (budget : Nat) :
    AgreesWithin ⟨settings, painter, some state⟩ ⟨others, other, some state⟩ budget := by
  induction budget with
  | zero => constructor <;> intros <;> rfl
  | succ budget agrees =>
      constructor
      · intro node ignores
        unfold evaluate
        cases node with
        | binary operator left right location =>
            exact agrees.binary _ _ _ _ ignores.leftOperand ignores.rightOperand
        | unary operator operand location => exact agrees.unary _ _ _ ignores.operand
        | call code arguments location =>
            dsimp only
            cases asks : code.text?.bind Query.ofCode? with
            | none => rfl
            | some query => exact agrees.call _ _ _ (ignores.query asks) ignores.call
        | _ => rfl
      · intro node operator left right leftIgnores rightIgnores
        unfold binary
        rw [agrees.evaluate left leftIgnores, agrees.evaluate right rightIgnores]
      · intro node operator operand ignores
        unfold unary
        rw [agrees.evaluate operand ignores]
      · intro node query arguments queryIgnores ignores
        unfold call
        apply answer_of_ignores queryIgnores
        · intro argument member
          exact agrees.number argument (ignores argument member)
        · intro argument member
          exact agrees.color node argument (ignores argument member)
      · intro argument ignores
        unfold number
        rw [agrees.evaluate argument ignores]
      · intro owner argument ignores
        unfold color
        rw [agrees.string argument ignores]
      · intro argument ignores
        unfold string
        rw [agrees.evaluate argument ignores]

end Evaluation

namespace Command

variable {settings : Settings} {size : Nat}

/-- A command that is carried out is carried out on a larger canvas as well. -/
theorem perform_matchedBy (larger : settings.canvasSize ≤ size) (robot : Robot) (node : Node)
    {number otherNumber : Node → Except Fault Int} {color otherColor : Node → Except Fault Color}
    (command : Command) {arguments : List Node}
    (numbers : ∀ argument ∈ arguments, number argument = otherNumber argument)
    (colors : ∀ argument ∈ arguments, color argument = otherColor argument) :
    MatchedBy (command.perform settings robot node number color arguments)
      (command.perform (settings.enlarged larger) robot node otherNumber otherColor
        arguments) := by
  have inside {x y : Int} := settings.inBounds_enlarged larger (x := x) (y := y)
  have corners {x y farX farY : Int}
      (both : (settings.inBounds x y && settings.inBounds farX farY) = true) :
      ((settings.enlarged larger).inBounds x y &&
        (settings.enlarged larger).inBounds farX farY) = true := by
    rw [Bool.and_eq_true] at both ⊢
    exact ⟨inside both.1, inside both.2⟩
  by_cases fits : arguments.length = command.arity
  · cases command with
    | spawn =>
        obtain ⟨first, second, rfl⟩ := List.length_eq_two.mp fits
        simp only [List.forall_mem_cons] at numbers
        exact .bind (.require id) fun _ => .bind (.of_eq numbers.1) fun _ =>
          .bind (.of_eq numbers.2.1) fun _ => .bind (.require inside) fun _ => .of_eq rfl
    | color =>
        obtain ⟨first, rfl⟩ := List.length_eq_one_iff.mp fits
        exact .bind (.require id) fun _ =>
          .bind (.of_eq (colors first List.mem_cons_self)) fun _ => .of_eq rfl
    | size =>
        obtain ⟨first, rfl⟩ := List.length_eq_one_iff.mp fits
        exact .bind (.require id) fun _ =>
          .bind (.of_eq (numbers first List.mem_cons_self)) fun _ => .of_eq rfl
    | drawLine | drawCircle =>
        obtain ⟨first, second, third, rfl⟩ := List.length_eq_three.mp fits
        simp only [List.forall_mem_cons] at numbers
        exact .bind (.require id) fun _ => .bind (.of_eq numbers.1) fun _ =>
          .bind (.of_eq numbers.2.1) fun _ => .bind (.of_eq numbers.2.2.1) fun _ =>
          .bind (.require id) fun _ => .bind (.require id) fun _ =>
          .bind (.require inside) fun _ => .of_eq rfl
    | drawRectangle =>
        obtain ⟨first, second, third, fourth, fifth, rfl⟩ := exists_of_length_eq_five fits
        simp only [List.forall_mem_cons] at numbers
        exact .bind (.require id) fun _ => .bind (.of_eq numbers.1) fun _ =>
          .bind (.of_eq numbers.2.1) fun _ => .bind (.of_eq numbers.2.2.1) fun _ =>
          .bind (.of_eq numbers.2.2.2.1) fun _ =>
          .bind (.of_eq numbers.2.2.2.2.1) fun _ =>
          .bind (.require id) fun _ => .bind (.require id) fun _ =>
          .bind (.require corners) fun _ => .of_eq rfl
    | fill =>
        obtain rfl := List.eq_nil_of_length_eq_zero fits
        exact .bind (.require id) fun _ => .of_eq rfl
  · rw [perform_of_length_ne _ _ _ _ _ fits, perform_of_length_ne _ _ _ _ _ fits]
    exact .of_eq rfl

end Command

namespace State

variable {settings : Settings} {size : Nat} {statement : Node}

theorem perform_matchedBy (larger : settings.canvasSize ≤ size) (painter other : Painter)
    (budget : Nat) (state : State) (ignores : statement.IgnoresCanvas) :
    MatchedBy (state.perform settings painter budget statement)
      (state.perform (settings.enlarged larger) other budget statement) := by
  have agrees := Evaluation.agreesWithin settings (settings.enlarged larger) painter other state
    budget
  cases statement with
  | assignment name value location =>
      exact .bind (.of_eq (agrees.evaluate value ignores.assignment)) fun _ => .of_eq rfl
  | instruction code arguments location =>
      unfold perform
      dsimp only
      cases code.text?.bind Command.ofCode? with
      | none => exact .of_eq rfl
      | some command =>
          have performed := command.perform_matchedBy larger state.robot
            (.instruction code arguments location)
            (fun argument member => agrees.number argument (ignores.instruction argument member))
            (fun argument member =>
              agrees.color (.instruction code arguments location) argument
                (ignores.instruction argument member))
          exact .bind performed fun _ => .of_eq rfl
  | jump label condition location =>
      refine .bind (.of_eq ?_) fun _ => .of_eq rfl
      unfold Evaluation.boolean
      rw [agrees.evaluate condition ignores.jump]
  | _ => exact .of_eq rfl

/-- A step that does not fail is the same on a larger canvas. -/
theorem step_enlarged (larger : settings.canvasSize ≤ size) (painter other : Painter)
    (budget : Nat) (state : State) (ignores : statement.IgnoresCanvas)
    (unfailed : (state.step settings painter budget statement).fault = none) :
    state.step (settings.enlarged larger) other budget statement =
      state.step settings painter budget statement := by
  have limits : state.atLimit (settings.enlarged larger) = state.atLimit settings := rfl
  unfold step at unfailed ⊢
  rw [limits]
  cases reached : state.atLimit settings with
  | some limit => rfl
  | none =>
      rw [reached] at unfailed
      cases performed : state.count.perform settings painter budget statement with
      | error fault =>
          rw [performed] at unfailed
          cases unfailed
      | ok result =>
          have matched := perform_matchedBy larger painter other budget state.count ignores
          rw [matched result performed]
          rfl

end State

namespace Job

variable {job : Job} {size : Nat}

/-- The same job with a larger canvas, which another painter may own. -/
def enlarged (job : Job) (larger : job.settings.canvasSize ≤ size) (painter : Painter) : Job :=
  { job with settings := job.settings.enlarged larger, painting := painter }

theorem hasFailed_advance {run : Run} (failed : run.hasFailed = true) :
    job.advance run = run := by
  apply advance_of_next?_none
  unfold Run.hasFailed at failed
  unfold next?
  cases stands : run.outcome with
  | finished | failed => rfl
  | running =>
      rw [stands] at failed
      cases failed

/-- A run that has not failed has not done so earlier. -/
theorem hasFailed_of_le {earlier count : Nat} (unfailed : (job.after count).hasFailed = false)
    (order : earlier ≤ count) : (job.after earlier).hasFailed = false := by
  induction order with
  | refl => exact unfailed
  | @step count order induction =>
      apply induction
      by_contra failed
      rw [after_succ, hasFailed_advance (Bool.not_eq_false _ ▸ failed)] at unfailed
      exact failed unfailed

theorem after_enlarged (larger : job.settings.canvasSize ≤ size) (painter : Painter)
    (ignores : ∀ statement ∈ job.statements, statement.IgnoresCanvas) {count : Nat}
    (unfailed : (job.after count).hasFailed = false) :
    (job.enlarged larger painter).after count = job.after count := by
  induction count with
  | zero => rfl
  | succ count induction =>
      have before := induction (hasFailed_of_le unfailed (Nat.le_succ count))
      rw [after_succ, after_succ, before]
      cases next : job.next? (job.after count) with
      | none =>
          have other : (job.enlarged larger painter).next? (job.after count) = none := next
          rw [advance_of_next?_none next, advance_of_next?_none other]
      | some statement =>
          have other : (job.enlarged larger painter).next? (job.after count) = some statement :=
            next
          rw [after_succ, advance_of_next? next, hasFailed_extend, Option.isSome_eq_false_iff,
            Option.isNone_iff_eq_none] at unfailed
          have member : statement ∈ job.statements := List.mem_of_getElem? (getElem?_of_next? next)
          have step : (job.enlarged larger painter).stepOf (job.after count) statement =
              job.stepOf (job.after count) statement :=
            State.step_enlarged larger job.painting painter job.budget _
              (ignores statement member) unfailed
          rw [advance_of_next? next, advance_of_next? other, step]
          rfl

/-- A program that does not ask about the canvas runs on a larger canvas as it does on a
smaller one, for as long as it does not fail there: it comes to the same states with the
same events, whoever owns the larger canvas.  So if it finishes on the smaller canvas, it
finishes on the larger one, with the same statement and in the same way. -/
theorem after_enlarged_of_unfailed (job : Job) (larger : job.settings.canvasSize ≤ size)
    (painter : Painter) (ignores : ∀ statement ∈ job.statements, statement.IgnoresCanvas) :
    (∀ count, (job.after count).hasFailed = false →
      ∀ earlier, earlier ≤ count →
        (job.enlarged larger painter).after earlier = job.after earlier) ∧
    ∀ count, job.EndsAfter count → (job.after count).outcome = .finished →
      (job.enlarged larger painter).EndsAfter count ∧
      (job.enlarged larger painter).after count = job.after count := by
  have same (count : Nat) (unfailed : (job.after count).hasFailed = false) (earlier : Nat)
      (order : earlier ≤ count) :
      (job.enlarged larger painter).after earlier = job.after earlier :=
    after_enlarged larger painter ignores (hasFailed_of_le unfailed order)
  refine ⟨same, ?_⟩
  intro count ends finished
  have unfailed : (job.after count).hasFailed = false := by
    unfold Run.hasFailed
    rw [finished]
  have reached := same count unfailed count (Nat.le_refl count)
  refine ⟨⟨?_, ?_⟩, reached⟩
  · rw [reached]
    exact ends.ended
  · intro earlier before
    rw [same count unfailed earlier (Nat.le_of_lt before)]
    exact ends.running earlier before

/-- A robot that is spawned next to the left edge and moves away from it by as many cells
as it stands off the edge. -/
def excursion : Job where
  settings := ⟨4, none, false, by decide⟩
  painting := ({} : Painting)
  statements :=
    let number (value : Int) : Node := .literal Kind.number.name (some (.number value)) .nowhere
    [.instruction Command.spawn.code [number 1, number 2] .nowhere,
      .instruction Command.drawLine.code
        [number 1, .unary UnaryOperator.negate.text (number 1) .nowhere,
          .call Query.actualX.code [] .nowhere] .nowhere]

/-- A painter that tells nothing about its cells. -/
def secretive : Painter :=
  ⟨fun x y => .error (.noCell x y)⟩

theorem excursion_enlarged :
    (∀ statement ∈ excursion.statements, statement.IgnoresCanvas) ∧
    (excursion.after 2).hasFailed = false ∧ excursion.EndsAfter 2 ∧
    (excursion.after 2).outcome = .finished ∧
    (∀ earlier, earlier ≤ 2 →
      (excursion.enlarged (by decide : 4 ≤ 9) secretive).after earlier =
        excursion.after earlier) ∧
    (excursion.enlarged (by decide : 4 ≤ 9) secretive).EndsAfter 2 := by
  have ignores : ∀ statement ∈ excursion.statements, statement.IgnoresCanvas := by decide
  have unfailed : (excursion.after 2).hasFailed = false := rfl
  have ends : excursion.EndsAfter 2 := ⟨rfl, by decide⟩
  have finished : (excursion.after 2).outcome = .finished := rfl
  obtain ⟨same, halts⟩ := after_enlarged_of_unfailed excursion (by decide : 4 ≤ 9) secretive ignores
  exact ⟨ignores, unfailed, ends, finished, same 2 unfailed, (halts 2 ends finished).1⟩

end Job
end PixelBrush
