import PixelBrush.Value

/-! # Names

A tree refers to variables, labels, operators, commands and queries by name.
A name is text whenever the tree comes from a program text, but a tree put
together by hand may name things by any value or by nothing.  Two names are the
same if their payloads agree, so that a truth value and the number that it
counts as name the same variable.
-/

namespace PixelBrush

/-- What something is called in a tree. -/
structure Name where
  payload : Payload
  deriving DecidableEq

namespace Name

def ofText (text : String) : Name :=
  ⟨some (.string text)⟩

instance : Coe String Name := ⟨ofText⟩

/-- The text that a name is, if it is one. -/
def text? : Name → Option String
  | ⟨some (.string text)⟩ => some text
  | _ => none

/-- A name as plain text.  There is none for an integer with too many digits. -/
def plain? (name : Name) : Option String :=
  name.payload.plain?

/-- Names are compared by what they name, not by how they are spelled. -/
instance : BEq Name := ⟨fun first second => first.payload.agrees second.payload⟩

theorem beq_iff {first second : Name} :
    (first == second) = true ↔ first.payload.counted = second.payload.counted :=
  Payload.agrees_iff

instance : EquivBEq Name where
  rfl := beq_iff.mpr rfl
  symm same := beq_iff.mpr (beq_iff.mp same).symm
  trans same next := beq_iff.mpr ((beq_iff.mp same).trans (beq_iff.mp next))

@[simp] theorem text?_ofText (text : String) : (ofText text).text? = some text := rfl

@[simp] theorem plain?_ofText (text : String) : (ofText text).plain? = some text := rfl

@[simp] theorem ofText_beq_ofText (first second : String) :
    (ofText first == ofText second) = (first == second) := by
  rw [Bool.eq_iff_iff, beq_iff]
  simp [ofText]

end Name
end PixelBrush
