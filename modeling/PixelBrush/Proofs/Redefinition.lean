import Mathlib.Data.List.Basic
import PixelBrush.Proofs.Concatenation

/-! # Labels that are defined again

Every label statement whose name is taken is noted once, in the order of the
program, with the line of the label that it replaces: the last one of its name
among the statements before it.
-/

namespace PixelBrush
namespace Labels

/-- The line of the last label of a name among some statements. -/
def lastLine? (statements : List Node) (name : Name) : Option Int :=
  statements.reverse.findSome? fun
    | .label spelling location => if spelling == name then some location.line else none
    | _ => none

/-- What the statement at an index redefines, if it is a label whose name is taken. -/
def redefinitionAt? (statements : List Node) (index : Nat) : Option Redefinition :=
  match statements[index]? with
  | some (.label name location) =>
      (lastLine? (statements.take index) name).map fun replaced =>
        ⟨name, location.line, replaced⟩
  | _ => none

theorem redefinitions_concat (earlier later : List Definition) (definition : Definition) :
    redefinitions earlier (later ++ [definition]) =
      redefinitions earlier later ++
        (((later.reverse ++ earlier).find? fun previous => previous.name == definition.name).map
          fun previous => ⟨definition.name, definition.line, previous.line⟩).toList := by
  induction later generalizing earlier with
  | nil =>
      simp only [List.nil_append, List.reverse_nil, redefinitions]
      cases earlier.find? fun previous => previous.name == definition.name <;> rfl
  | cons first later induction =>
      rw [List.cons_append, redefinitions, redefinitions, induction, List.reverse_cons,
        List.append_assoc, List.singleton_append]
      cases earlier.find? fun previous => previous.name == first.name <;> rfl

theorem definitions_concat (statements : List Node) (statement : Node) :
    definitions (statements ++ [statement]) =
      definitions statements ++
        match statement with
        | .label name location => [⟨name, statements.length, location.line⟩]
        | _ => [] := by
  rw [definitions_append]
  cases statement <;> rfl

theorem lastLine?_concat (statements : List Node) (statement : Node) (name : Name) :
    lastLine? (statements ++ [statement]) name =
      match statement with
      | .label spelling location =>
          if spelling == name then some location.line else lastLine? statements name
      | _ => lastLine? statements name := by
  unfold lastLine?
  rw [List.reverse_append, List.reverse_singleton, List.singleton_append, List.findSome?_cons]
  cases statement with
  | label spelling location => by_cases same : (spelling == name) = true <;> simp [same]
  | _ => rfl

/-- Among the definitions of some statements, the latest one of a name stands on the line
of the last label of that name. -/
theorem line_find?_definitions (statements : List Node) (name : Name) :
    ((definitions statements).reverse.find? fun previous => previous.name == name).map
        Definition.line =
      lastLine? statements name := by
  induction statements using List.reverseRecOn with
  | nil => rfl
  | append_singleton statements statement induction =>
      rw [definitions_concat, lastLine?_concat, List.reverse_append]
      cases statement with
      | label spelling location =>
          by_cases same : (spelling == name) = true
          · simp [same]
          · simp [same, induction]
      | _ => exact induction

theorem redefinitionAt?_append_left {statements : List Node} {index : Nat}
    (within : index < statements.length) (later : List Node) :
    redefinitionAt? (statements ++ later) index = redefinitionAt? statements index := by
  unfold redefinitionAt?
  rw [List.getElem?_append_left within, List.take_append_of_le_length (Nat.le_of_lt within)]

theorem redefinitionAt?_length (statements : List Node) (statement : Node) :
    redefinitionAt? (statements ++ [statement]) statements.length =
      match statement with
      | .label name location =>
          (lastLine? statements name).map fun replaced => ⟨name, location.line, replaced⟩
      | _ => none := by
  unfold redefinitionAt?
  rw [List.getElem?_concat_length, List.take_left]
  cases statement <;> rfl

/-- The redefinitions of a program are those of its statements, in their order. -/
theorem redefinitions_definitions (statements : List Node) :
    redefinitions [] (definitions statements) =
      (List.range statements.length).filterMap (redefinitionAt? statements) := by
  induction statements using List.reverseRecOn with
  | nil => rfl
  | append_singleton statements statement induction =>
      have earlier : (List.range statements.length).filterMap
            (redefinitionAt? (statements ++ [statement])) =
          (List.range statements.length).filterMap (redefinitionAt? statements) :=
        List.filterMap_congr fun index member =>
          redefinitionAt?_append_left (List.mem_range.mp member) [statement]
      rw [List.length_append, List.length_singleton, List.range_succ, List.filterMap_append,
        earlier, ← induction, definitions_concat]
      have last := redefinitionAt?_length statements statement
      cases statement with
      | label name location =>
          have replaced := line_find?_definitions statements name
          rw [redefinitions_concat, List.append_nil]
          simp only [List.filterMap_cons, List.filterMap_nil, last, ← replaced, Option.map_map]
          cases (definitions statements).reverse.find? fun previous => previous.name == name <;> rfl
      | _ => simp [last]

end Labels

theorem State.redefinitions_initial (statements : List Node) :
    (State.initial statements).redefinitions =
      (List.range statements.length).filterMap (Labels.redefinitionAt? statements) :=
  Labels.redefinitions_definitions statements

end PixelBrush
