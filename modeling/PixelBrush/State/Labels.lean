import PixelBrush.State

/-! # Labels of a program

Before a run, every label of the program is entered in a table.  If a name is
given to several labels, the last one counts, and each of those after the
first is noted as a redefinition.
-/

namespace PixelBrush
namespace Labels

/-- A label statement: its name, its index in the program, and its line. -/
structure Definition where
  name : Name
  index : Nat
  line : Int

/-- The label statements of a program, in order. -/
def definitions (statements : List Node) : List Definition :=
  statements.zipIdx.filterMap fun
    | (.label name location, index) => some ⟨name, index, location.line⟩
    | _ => none

/-- The table of labels, in which a later definition replaces an earlier one. -/
def table (definitions : List Definition) : Table Name Nat :=
  definitions.foldl (fun table definition => table.insert definition.name definition.index)
    .empty

/-- The definitions whose name is taken, each with the line that it replaces.
The earlier definitions are given with the latest first. -/
def redefinitions : (earlier later : List Definition) → List Redefinition
  | _, [] => []
  | earlier, definition :: later =>
      let others := redefinitions (definition :: earlier) later
      match earlier.find? fun previous => previous.name == definition.name with
      | some previous => ⟨definition.name, definition.line, previous.line⟩ :: others
      | none => others

end Labels

/-- The state in which a run of the given statements starts. -/
def State.initial (statements : List Node) : State :=
  let definitions := Labels.definitions statements
  { labels := Labels.table definitions
    redefinitions := Labels.redefinitions [] definitions }

end PixelBrush
