import Mathlib.Data.List.TakeWhile
import PixelBrush.Color
import PixelBrush.Proofs.CharacterClass

/-! # How colors are spelled

A text names a color if it is the name of the color in any letter case, with
any blanks around it.
-/

namespace PixelBrush
namespace Text

theorem dropWhile_of_forall {dropped : Char → Bool} {text : List Char}
    (kept : ∀ character ∈ text, dropped character = false) : text.dropWhile dropped = text := by
  cases text with
  | nil => rfl
  | cons first rest => rw [List.dropWhile_cons, if_neg (by simp [kept first])]

theorem trim_append {dropped : Char → Bool} {before text after : List Char}
    (around : ∀ character ∈ before ++ after, dropped character = true)
    (kept : ∀ character ∈ text, dropped character = false) :
    trim dropped (before ++ text ++ after) = text := by
  have front : ∀ character ∈ before, dropped character = true := fun character member =>
    around character (List.mem_append_left _ member)
  have back : ∀ character ∈ after.reverse, dropped character = true := fun character member =>
    around character (List.mem_append_right _ (List.mem_reverse.mp member))
  have keptBack : ∀ character ∈ text.reverse, dropped character = false := fun character member =>
    kept character (List.mem_reverse.mp member)
  unfold trim
  rw [List.append_assoc, List.dropWhile_append_of_pos front]
  cases text with
  | nil =>
      have emptied : after.dropWhile dropped = [] :=
        List.dropWhile_eq_nil_iff.mpr fun character member =>
          around character (List.mem_append_right before member)
      simp [emptied]
  | cons first rest =>
      have stops : ¬ dropped first = true := by simp [kept first]
      rw [List.cons_append, List.dropWhile_cons, if_neg stops, ← List.cons_append,
        List.reverse_append, List.dropWhile_append_of_pos back, dropWhile_of_forall keptBack,
        List.reverse_reverse]

theorem exists_around_trim (dropped : Char → Bool) (text : List Char) :
    ∃ before after, text = before ++ trim dropped text ++ after ∧
      ∀ character ∈ before ++ after, dropped character = true := by
  have front := List.all_eq_true.mp (List.all_takeWhile (p := dropped) (l := text))
  have back := List.all_eq_true.mp
    (List.all_takeWhile (p := dropped) (l := (text.dropWhile dropped).reverse))
  refine ⟨text.takeWhile dropped,
    ((text.dropWhile dropped).reverse.takeWhile dropped).reverse, ?_, ?_⟩
  · rw [trim, List.append_assoc, ← List.reverse_append, List.takeWhile_append_dropWhile,
      List.reverse_reverse, List.takeWhile_append_dropWhile]
  · intro character member
    rcases List.mem_append.mp member with before | after
    · exact front character before
    · exact back character (List.mem_reverse.mp after)

/-- A blank has no lowercase form but itself. -/
theorem lowercase_of_isBlank {character : Char} (blank : isBlank character = true) :
    lowercase character = [character] := by
  have apart : inRanges [(65, 90)] character.toNat = false :=
    inRanges_of_areApart (by decide) blank
  have noCapital : ¬ (character.val ≥ 'A'.val ∧ character.val ≤ 'Z'.val) := by
    rintro ⟨least, greatest⟩
    have above : 65 ≤ character.toNat := least
    have below : character.toNat ≤ 90 := greatest
    simp [inRanges, above, below] at apart
  have kelvin : character ≠ '\u212A' := by
    rintro rfl
    exact absurd blank (by decide)
  have dotted : character ≠ '\u0130' := by
    rintro rfl
    exact absurd blank (by decide)
  have unchanged : character.toLower = character := dif_neg noCapital
  rw [lowercase, if_neg kelvin, if_neg dotted, unchanged]

end Text

namespace Color

theorem ofName?_eq_some_iff {name : String} {color : Color} :
    ofName? name = some color ↔ name = color.name := by
  constructor
  · intro found
    have same := List.find?_some found
    exact (beq_iff_eq.mp same).symm
  · rintro rfl
    exact ofName?_name color

theorem isBlank_of_mem_name (color : Color) :
    ∀ character ∈ color.name.toList, Text.isBlank character = false := by
  have visible : (color.name.toList.all fun character => !Text.isBlank character) = true := by
    cases color <;> decide
  simpa using visible

/-- Whether a text is the name of a color in any letter case, between blanks. -/
def IsSpelled (color : Color) (text : String) : Prop :=
  ∃ before name after, text.toList = before ++ name ++ after ∧
    (∀ character ∈ before ++ after, Text.isBlank character = true) ∧
    Text.foldCase name = color.name.toList

theorem parse?_eq_some_iff {text : String} {color : Color} :
    parse? text = some color ↔ color.IsSpelled text := by
  unfold parse? IsSpelled
  rw [ofName?_eq_some_iff]
  constructor
  · intro named
    obtain ⟨before, after, split, blank⟩ := Text.exists_around_trim Text.isBlank text.toList
    refine ⟨before, Text.trim Text.isBlank text.toList, after, split, blank, ?_⟩
    rw [← named, String.toList_ofList]
  · rintro ⟨before, name, after, split, blank, folded⟩
    -- A blank in the name would be there in lowercase as well.
    have kept : ∀ character ∈ name, Text.isBlank character = false := by
      intro character member
      rw [← Bool.not_eq_true]
      intro isBlank
      have inName : character ∈ color.name.toList := by
        rw [← folded]
        apply List.mem_flatMap.mpr
        exact ⟨character, member, by simp [Text.lowercase_of_isBlank isBlank]⟩
      simp [color.isBlank_of_mem_name character inName] at isBlank
    rw [split, Text.trim_append blank kept, folded, String.ofList_toList]

example : parse? "\tPuRPle  " = some purple := by decide

end Color
end PixelBrush
