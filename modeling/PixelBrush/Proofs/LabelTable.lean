import Mathlib.Data.List.Induction
import PixelBrush.State.Labels

/-! # The table of labels

The table of labels leads from a name to the index of the last label statement
of that name.
-/

namespace PixelBrush
namespace Labels

theorem table_concat (definitions : List Definition) (definition : Definition) :
    table (definitions ++ [definition]) =
      (table definitions).insert definition.name definition.index := by
  unfold table
  rw [List.foldl_append]
  rfl

theorem find?_table (definitions : List Definition) (name : Name) :
    (table definitions).find? name =
      (definitions.reverse.find? fun definition => definition.name == name).map
        Definition.index := by
  induction definitions using List.reverseRecOn with
  | nil => rfl
  | append_singleton earlier definition induction =>
      rw [table_concat, Table.find?_insert, List.reverse_append, List.reverse_singleton,
        List.singleton_append, List.find?_cons]
      by_cases same : (definition.name == name) = true
      · rw [if_pos same, same]
        rfl
      · rw [if_neg same, induction, Bool.eq_false_iff.mpr same]

theorem mem_definitions {statements : List Node} {definition : Definition} :
    definition ∈ definitions statements ↔
      ∃ location : Location, location.line = definition.line ∧
        statements[definition.index]? = some (.label definition.name location) := by
  unfold definitions
  rw [List.mem_filterMap]
  constructor
  · rintro ⟨⟨statement, index⟩, member, defines⟩
    rw [List.mem_zipIdx_iff_getElem?] at member
    cases statement with
    | label name location =>
        cases defines
        exact ⟨location, rfl, member⟩
    | _ => cases defines
  · rintro ⟨location, line, found⟩
    refine ⟨(.label definition.name location, definition.index), ?_, ?_⟩
    · rw [List.mem_zipIdx_iff_getElem?]
      exact found
    · change some (Definition.mk definition.name definition.index location.line) = some definition
      rw [line]

end Labels

/-- A label stands where the table of labels says it does. -/
theorem State.getElem?_of_find?_labels {statements : List Node} {name : Name} {target : Nat}
    (known : (State.initial statements).labels.find? name = some target) :
    ∃ (spelling : Name) (location : Location), (spelling == name) = true ∧
      statements[target]? = some (.label spelling location) := by
  change (Labels.table (Labels.definitions statements)).find? name = some target at known
  rw [Labels.find?_table, Option.map_eq_some_iff] at known
  rcases known with ⟨definition, found, index⟩
  have same := List.find?_some found
  have member := List.mem_reverse.mp (List.mem_of_find?_eq_some found)
  rcases Labels.mem_definitions.mp member with ⟨location, -, stands⟩
  rw [index] at stands
  exact ⟨definition.name, location, same, stands⟩

end PixelBrush
