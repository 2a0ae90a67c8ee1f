/-! # Tables

A table holds one value for each of its keys.  Setting a key that is present
changes its value in place, and setting a new key adds it at the end.  Keys may
be spelled in several ways; a table keeps the spelling with which a key was
added.
-/

namespace PixelBrush

/-- A finite map that keeps the order in which its keys were added. -/
structure Table (Key Value : Type) where
  entries : List (Key × Value) := []
  deriving DecidableEq

namespace Table

variable {Key Value : Type} [BEq Key]

def empty : Table Key Value := ⟨[]⟩

def findEntry? (sought : Key) : List (Key × Value) → Option Value
  | [] => none
  | (key, value) :: later => if key == sought then some value else findEntry? sought later

def find? (table : Table Key Value) (key : Key) : Option Value :=
  findEntry? key table.entries

/-- Entries in which a key has a new value. -/
def insertEntry (key : Key) (value : Value) : List (Key × Value) → List (Key × Value)
  | [] => [(key, value)]
  | (present, old) :: later =>
      if present == key then (present, value) :: later
      else (present, old) :: insertEntry key value later

def insert (table : Table Key Value) (key : Key) (value : Value) : Table Key Value :=
  ⟨insertEntry key value table.entries⟩

@[simp] theorem find?_empty (key : Key) : (empty : Table Key Value).find? key = none := rfl

theorem findEntry?_insertEntry [EquivBEq Key] (key sought : Key) (value : Value)
    (entries : List (Key × Value)) :
    findEntry? sought (insertEntry key value entries) =
      if key == sought then some value else findEntry? sought entries := by
  induction entries with
  | nil => rfl
  | cons entry later induction =>
      obtain ⟨present, old⟩ := entry
      by_cases same : (present == key) = true
      · have congruent : (present == sought) = (key == sought) := BEq.congr_left same
        by_cases found : (key == sought) = true <;>
          simp [insertEntry, findEntry?, same, congruent, found]
      · by_cases found : (present == sought) = true
        · have different : ¬ (key == sought) = true := fun reached =>
            same (BEq.trans found (BEq.symm reached))
          simp [insertEntry, findEntry?, same, found, different]
        · simp [insertEntry, findEntry?, same, found, induction]

@[simp] theorem find?_insert [EquivBEq Key] (table : Table Key Value) (key sought : Key)
    (value : Value) :
    (table.insert key value).find? sought =
      if key == sought then some value else table.find? sought :=
  findEntry?_insertEntry key sought value table.entries

end Table
end PixelBrush
