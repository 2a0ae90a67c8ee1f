import PixelBrush.Node.Outline
import PixelBrush.Proofs.Parts
import PixelBrush.Proofs.Refusal

/-! # Which trees can be printed

Printing a tree nests one level for each node and one for each list of nodes.
If that is not too deep, the tree is laid out as a document, and the document
is printed unless a number in it has too many digits.
-/

namespace PixelBrush

namespace Document

mutual

/-- The integers that a document shows. -/
def numbers : Document → List Int
  | scalar payload => payload.numbers
  | list items => numbersOfAll items
  | fields entries => numbersOfFields entries

def numbersOfAll : List Document → List Int
  | [] => []
  | item :: later => item.numbers ++ numbersOfAll later

def numbersOfFields : List (String × Document) → List Int
  | [] => []
  | (_, document) :: later => document.numbers ++ numbersOfFields later

end

/-- Whether one of some integers has too many digits. -/
def HasLong (numbers : List Int) : Prop :=
  ∃ number ∈ numbers, Text.digitLimit < Text.digitCount number

theorem hasLong_append {first second : List Int} :
    HasLong (first ++ second) ↔ HasLong first ∨ HasLong second := by
  simp [HasLong, or_and_right, exists_or]

theorem not_hasLong_nil : ¬ HasLong [] := by
  simp [HasLong]

mutual

/-- The lines of a document cannot be written exactly if a number in it is too long. -/
theorem lines?_eq_none_iff (level : Int) :
    ∀ document, lines? level document = none ↔ HasLong document.numbers
  | scalar payload => by
      rw [lines?, Option.map_eq_none_iff, numbers]
      exact payload.plain?_eq_none_iff
  | list items => by
      rw [lines?, numbers]
      exact itemLines?_eq_none_iff level items
  | fields entries => by
      rw [lines?, numbers]
      exact fieldLines?_eq_none_iff level entries

theorem itemLines?_eq_none_iff (level : Int) :
    ∀ items, itemLines? level items = none ↔ HasLong (numbersOfAll items)
  | [] => by simp [itemLines?, numbersOfAll, not_hasLong_nil]
  | item :: later => by
      rw [itemLines?, bind_eq_none_iff fun _ => bind_eq_none_iff fun _ => pure_eq_none_iff _,
        numbersOfAll, hasLong_append, or_false, lines?_eq_none_iff (level + 1) item,
        itemLines?_eq_none_iff level later]

theorem fieldLines?_eq_none_iff (level : Int) :
    ∀ entries, fieldLines? level entries = none ↔ HasLong (numbersOfFields entries)
  | [] => by simp [fieldLines?, numbersOfFields, not_hasLong_nil]
  | (name, scalar payload) :: later => by
      rw [fieldLines?, bind_eq_none_iff fun _ => bind_eq_none_iff fun _ => pure_eq_none_iff _,
        numbersOfFields, hasLong_append, or_false, numbers, fieldLines?_eq_none_iff level later]
      exact or_congr_left payload.plain?_eq_none_iff
  | (name, list items) :: later => by
      rw [fieldLines?, bind_eq_none_iff fun _ => bind_eq_none_iff fun _ => pure_eq_none_iff _,
        numbersOfFields, hasLong_append, or_false, lines?_eq_none_iff (level + 1) (list items),
        fieldLines?_eq_none_iff level later]
      exact fun payload => Document.noConfusion
  | (name, fields entries) :: later => by
      rw [fieldLines?, bind_eq_none_iff fun _ => bind_eq_none_iff fun _ => pure_eq_none_iff _,
        numbersOfFields, hasLong_append, or_false, lines?_eq_none_iff (level + 1) (fields entries),
        fieldLines?_eq_none_iff level later]
      exact fun payload => Document.noConfusion

end

theorem print?_eq_none_iff (level : Int) (document : Document) :
    document.print? level = none ↔ HasLong document.numbers := by
  rw [print?, Option.map_eq_none_iff, lines?_eq_none_iff]

end Document

namespace Node

mutual

/-- How deep printing a tree nests. -/
def levels : Node → Nat
  | program statements _ => levelsOfAll statements + 1
  | assignment _ value _ => value.levels + 1
  | instruction _ arguments _ => levelsOfAll arguments + 1
  | jump _ condition _ => condition.levels + 1
  | binary _ left right _ => max left.levels right.levels + 1
  | unary _ operand _ => operand.levels + 1
  | call _ arguments _ => levelsOfAll arguments + 1
  | _ => 1

/-- How deep printing a list of trees nests. -/
def levelsOfAll : List Node → Nat
  | [] => 1
  | node :: others => max (node.levels + 1) (levelsOfAll others)

end

mutual

/-- The document that a tree is laid out as, however deep it nests. -/
def document : Node → Document
  | node@(program statements location) =>
      node.fields location [("statements", .list (documents statements))]
  | node@(label name location) => node.fields location [("name", .scalar name.payload)]
  | node@(assignment name value location) =>
      node.fields location [("name", .scalar name.payload), ("value", value.document)]
  | node@(instruction code arguments location) =>
      node.fields location
        [("op", .scalar code.payload), ("args", .list (documents arguments))]
  | node@(jump target condition location) =>
      node.fields location
        [("label", .scalar target.payload), ("condition", condition.document)]
  | node@(binary operator left right location) =>
      node.fields location
        [("op", .scalar operator.payload), ("left", left.document), ("right", right.document)]
  | node@(unary operator operand location) =>
      node.fields location [("op", .scalar operator.payload), ("operand", operand.document)]
  | node@(call code arguments location) =>
      node.fields location
        [("name", .scalar code.payload), ("args", .list (documents arguments))]
  | node@(literal kind value location) =>
      node.fields location [("kind", .scalar kind.payload), ("value", .scalar value)]
  | node@(reference name location) => node.fields location [("name", .scalar name.payload)]
  | node@(foreign _ description location) => node.fields location [("raw", textField description)]
  | text _ | missing => .scalar none

def documents : List Node → List Document
  | [] => []
  | node :: others => node.document :: documents others

end

/-- Whether a node stands wherever one has to in a tree. -/
def IsWhole (tree : Node) : Prop :=
  ∀ part ∈ tree.parts, part.location?.isSome = true

/-- What laying out comes to if it nests so deep and comes to a document in the end. -/
def laidOut {α : Type} (deep budget : Nat) (result : α) : Except OutlineError α :=
  if deep ≤ budget then .ok result else .error .tooDeep

theorem laidOut_succ {α : Type} (deep budget : Nat) (result : α) :
    laidOut (deep + 1) (budget + 1) result = laidOut deep budget result := by
  unfold laidOut
  simp only [Nat.add_le_add_iff_right]

theorem laidOut_return {α β : Type} (deep budget : Nat) (result : α) (next : α → β) :
    (do return next (← laidOut deep budget result)) = laidOut deep budget (next result) := by
  unfold laidOut
  by_cases within : deep ≤ budget
  · rw [if_pos within, if_pos within]
    rfl
  · rw [if_neg within, if_neg within]
    rfl

theorem laidOut_max {α β γ : Type} (deep other budget : Nat) (first : α) (second : β)
    (next : α → β → γ) :
    (do
      let first ← laidOut deep budget first
      let second ← laidOut other budget second
      return next first second) =
      laidOut (max deep other) budget (next first second) := by
  unfold laidOut
  by_cases within : deep ≤ budget
  · by_cases otherWithin : other ≤ budget
    · rw [if_pos within, if_pos otherWithin, if_pos (Nat.max_le.mpr ⟨within, otherWithin⟩)]
      rfl
    · have deeper : ¬ max deep other ≤ budget := by omega
      rw [if_pos within, if_neg otherWithin, if_neg deeper]
      rfl
  · have deeper : ¬ max deep other ≤ budget := by omega
    rw [if_neg within, if_neg deeper]
    rfl

mutual

/-- A tree in which no node is missing is laid out as its document, unless that nests too
deep. -/
theorem outline_eq : ∀ (node : Node) (budget : Nat), node.IsWhole →
    outline budget node = laidOut node.levels budget node.document
  | node, 0, _ => by
      have deep : ¬ node.levels ≤ 0 := by cases node <;> simp [levels]
      rw [outline, laidOut, if_neg deep]
  | program statements location, budget + 1, whole => by
      rw [IsWhole, parts, List.forall_mem_cons, forall_mem_partsOfAll] at whole
      rw [outline, outlineItems_eq statements budget whole.2, laidOut_return, levels, laidOut_succ]
      rfl
  | assignment name value location, budget + 1, whole => by
      rw [IsWhole, parts, List.forall_mem_cons] at whole
      rw [outline, outline_eq value budget whole.2, laidOut_return, levels, laidOut_succ]
      rfl
  | instruction code arguments location, budget + 1, whole => by
      rw [IsWhole, parts, List.forall_mem_cons, forall_mem_partsOfAll] at whole
      rw [outline, outlineItems_eq arguments budget whole.2, laidOut_return, levels, laidOut_succ]
      rfl
  | jump target condition location, budget + 1, whole => by
      rw [IsWhole, parts, List.forall_mem_cons] at whole
      rw [outline, outline_eq condition budget whole.2, laidOut_return, levels, laidOut_succ]
      rfl
  | binary operator left right location, budget + 1, whole => by
      rw [IsWhole, parts, List.forall_mem_append, List.forall_mem_cons] at whole
      rw [outline, outline_eq left budget whole.1, outline_eq right budget whole.2.2,
        laidOut_max, levels, laidOut_succ]
      rfl
  | unary operator operand location, budget + 1, whole => by
      rw [IsWhole, parts, List.forall_mem_cons] at whole
      rw [outline, outline_eq operand budget whole.2, laidOut_return, levels, laidOut_succ]
      rfl
  | call code arguments location, budget + 1, whole => by
      rw [IsWhole, parts, List.forall_mem_cons, forall_mem_partsOfAll] at whole
      rw [outline, outlineItems_eq arguments budget whole.2, laidOut_return, levels, laidOut_succ]
      rfl
  | label .., budget + 1, _ | literal .., budget + 1, _ | reference .., budget + 1, _
  | foreign .., budget + 1, _ => by
      simp [outline, levels, laidOut, document]
  | text content, budget + 1, whole => absurd (whole _ (mem_parts_self _)) (by simp [location?])
  | missing, budget + 1, whole => absurd (whole _ (mem_parts_self _)) (by simp [location?])

theorem outlineItems_eq : ∀ (nodes : List Node) (budget : Nat), (∀ node ∈ nodes, node.IsWhole) →
    outlineItems budget nodes = laidOut (levelsOfAll nodes) budget (.list (documents nodes))
  | nodes, 0, _ => by
      have deep : ¬ levelsOfAll nodes ≤ 0 := by cases nodes <;> simp [levelsOfAll]
      rw [outlineItems, laidOut, if_neg deep]
  | nodes, budget + 1, whole => by
      rw [outlineItems, mapM_outline nodes budget whole, laidOut_return]

theorem mapM_outline : ∀ (nodes : List Node) (budget : Nat), (∀ node ∈ nodes, node.IsWhole) →
    nodes.mapM (outline budget) = laidOut (levelsOfAll nodes) (budget + 1) (documents nodes)
  | [], budget, _ => by
      rw [levelsOfAll, laidOut, if_pos (by omega)]
      rfl
  | node :: others, budget, whole => by
      rw [List.forall_mem_cons] at whole
      rw [List.mapM_cons, outline_eq node budget whole.1, mapM_outline others budget whole.2,
        ← laidOut_succ, laidOut_max]
      rfl

end

/-- The integers that are printed about a node itself. -/
def ownNumbers : Node → List Int
  | program _ location | foreign _ _ location => [location.line, location.column]
  | label name location | reference name location | assignment name _ location
  | instruction name _ location | jump name _ location | binary name _ _ location
  | unary name _ location | call name _ location =>
      location.line :: location.column :: name.payload.numbers
  | literal kind value location =>
      location.line :: location.column :: (kind.payload.numbers ++ value.numbers)
  | text _ | missing => []

theorem numbers_fields (node : Node) (location : Location)
    (particular : List (String × Document)) :
    (node.fields location particular).numbers =
      location.line :: location.column :: Document.numbersOfFields particular := rfl

open Document in
mutual

/-- The document of a tree shows the integers that are printed about its nodes. -/
theorem mem_numbers_document (number : Int) : ∀ node : Node,
    number ∈ node.document.numbers ↔ ∃ part ∈ node.parts, number ∈ part.ownNumbers
  | program statements location => by
      rw [document, numbers_fields]
      simp [numbersOfFields, numbers, parts, ownNumbers, mem_numbers_documents number statements,
        or_assoc]
  | assignment name value location | jump name value location | unary name value location => by
      rw [document, numbers_fields]
      simp [numbersOfFields, numbers, parts, ownNumbers, mem_numbers_document number value,
        or_assoc]
  | instruction name arguments location | call name arguments location => by
      rw [document, numbers_fields]
      simp [numbersOfFields, numbers, parts, ownNumbers, mem_numbers_documents number arguments,
        or_assoc]
  | binary operator left right location => by
      have sides : number ∈ (binary operator left right location).document.numbers ↔
          number ∈ ownNumbers (binary operator left right location) ∨
            number ∈ left.document.numbers ∨ number ∈ right.document.numbers := by
        rw [document, numbers_fields]
        simp [numbersOfFields, numbers, ownNumbers, or_assoc]
      rw [sides, mem_numbers_document number left, mem_numbers_document number right]
      simp only [parts, List.mem_cons, List.mem_append, or_and_right, exists_or,
        exists_eq_left]
      exact or_left_comm
  | label .. | literal .. | reference .. | foreign .. => by
      rw [document, numbers_fields]
      simp [numbersOfFields, numbers, parts, ownNumbers, textField, Payload.numbers]
  | text _ | missing => by
      simp [document, numbers, parts, ownNumbers, Payload.numbers]

theorem mem_numbers_documents (number : Int) : ∀ nodes : List Node,
    number ∈ numbersOfAll (documents nodes) ↔ ∃ part ∈ partsOfAll nodes, number ∈ part.ownNumbers
  | [] => by simp [documents, numbersOfAll, partsOfAll]
  | node :: others => by
      rw [documents, numbersOfAll, List.mem_append, mem_numbers_document number node,
        mem_numbers_documents number others, partsOfAll]
      simp [or_and_right, exists_or]

end

/-- Whether a node has a location, and nothing else that is printed about it is a number
with too many digits. -/
def IsPlain (node : Node) : Prop :=
  ∃ location, node.location? = some location ∧
    ∀ number ∈ node.ownNumbers, number ∈ [location.line, location.column] ∨
      Text.digitCount number ≤ Text.digitLimit

theorem mem_ownNumbers_of_location {node : Node} {location : Location} {number : Int}
    (stands : node.location? = some location)
    (member : number ∈ [location.line, location.column]) : number ∈ node.ownNumbers := by
  cases node with
  | text _ | missing => cases stands
  | _ =>
      cases stands
      exact List.mem_append_left _ member

end Node

/-- Whether a place has a line or a column with too many digits. -/
def Location.IsFar (location : Location) : Prop :=
  Document.HasLong [location.line, location.column]

theorem Value.Writable.short {value : Value} (writable : value.Writable) :
    ∀ number ∈ Payload.numbers (some value), Text.digitCount number ≤ Text.digitLimit := by
  intro number member
  cases value with
  | number shown =>
      obtain rfl := List.mem_singleton.mp member
      have magnitude : number.natAbs = number.toNat := by
        have positive := writable.1
        omega
      unfold Text.digitCount
      rw [magnitude]
      exact writable.2
  | boolean truth | string text => cases member

namespace Node

variable {node : Node}

theorem WellFormedExpression.plain (formed : node.WellFormedExpression) :
    ∀ part ∈ node.parts, part.IsPlain := by
  induction formed with
  | @literal value location writable =>
      simp only [parts, List.forall_mem_singleton]
      refine ⟨location, rfl, fun number shown => ?_⟩
      rcases List.mem_cons.mp shown with line | shown
      · exact .inl (line ▸ List.mem_cons_self)
      · rcases List.mem_cons.mp shown with column | shown
        · exact .inl (column ▸ List.mem_cons_of_mem _ List.mem_cons_self)
        · exact .inr (writable.short number shown)
  | reference identifier =>
      simp only [parts, List.forall_mem_singleton]
      exact ⟨_, rfl, fun number shown => .inl shown⟩
  | binary leftFormed rightFormed left right =>
      rw [parts, List.forall_mem_append, List.forall_mem_cons]
      exact ⟨left, ⟨_, rfl, fun number shown => .inl shown⟩, right⟩
  | unary operandFormed operand =>
      rw [parts, List.forall_mem_cons]
      exact ⟨⟨_, rfl, fun number shown => .inl shown⟩, operand⟩
  | call formed below =>
      rw [parts, List.forall_mem_cons, forall_mem_partsOfAll]
      exact ⟨⟨_, rfl, fun number shown => .inl shown⟩, below⟩

theorem WellFormedStatement.plain (formed : node.WellFormedStatement) :
    ∀ part ∈ node.parts, part.IsPlain := by
  cases formed with
  | label identifier =>
      simp only [parts, List.forall_mem_singleton]
      exact ⟨_, rfl, fun number shown => .inl shown⟩
  | assignment identifier below | jump identifier below =>
      rw [parts, List.forall_mem_cons]
      exact ⟨⟨_, rfl, fun number shown => .inl shown⟩, below.plain⟩
  | instruction below =>
      rw [parts, List.forall_mem_cons, forall_mem_partsOfAll]
      exact ⟨⟨_, rfl, fun number shown => .inl shown⟩,
        fun argument member => (below argument member).plain⟩

theorem plain_ofStatements {statements : List Node}
    (formed : ∀ statement ∈ statements, statement.WellFormedStatement) :
    ∀ part ∈ (ofStatements statements).parts, part.IsPlain := by
  rw [ofStatements, parts, List.forall_mem_cons, forall_mem_partsOfAll]
  exact ⟨⟨_, rfl, fun number shown => .inl shown⟩,
    fun statement member => (formed statement member).plain⟩

theorem isWhole_of_plain (plain : ∀ part ∈ node.parts, part.IsPlain) : node.IsWhole := by
  intro part member
  obtain ⟨location, stands, -⟩ := plain part member
  rw [stands]
  rfl

/-- The document of a tree of plain nodes can be printed unless one of them stands at a place
that is far out. -/
theorem hasLong_numbers_document_iff (plain : ∀ part ∈ node.parts, part.IsPlain) :
    Document.HasLong node.document.numbers ↔
      ∃ part ∈ node.parts, ∃ location, part.location? = some location ∧ location.IsFar := by
  constructor
  · rintro ⟨number, shown, long⟩
    obtain ⟨part, member, own⟩ := (mem_numbers_document number node).mp shown
    obtain ⟨location, stands, others⟩ := plain part member
    rcases others number own with place | short
    · exact ⟨part, member, location, stands, number, place, long⟩
    · exact absurd long (Nat.not_lt.mpr short)
  · rintro ⟨part, member, location, stands, number, place, long⟩
    exact ⟨number, (mem_numbers_document number node).mpr
      ⟨part, member, mem_ownNumbers_of_location stands place⟩, long⟩

end Node
end PixelBrush
