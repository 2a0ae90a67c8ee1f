import PixelBrush.Token.Lexer

/-! # Classes of characters

What a character may begin is decided by the first class that it belongs to.
The order of these questions does not matter where the classes have no
character in common.  Classes are given by increasing ranges of code points, so
two of them can be compared in one pass over both.
-/

namespace PixelBrush
namespace Text

/-- Whether the ranges of two lists, each in increasing order, never meet. -/
def areApart : List (Nat × Nat) → List (Nat × Nat) → Bool
  | [], _ => true
  | (first, last) :: later, others =>
      let ahead := others.dropWhile fun other => Nat.blt other.2 first
      Nat.ble first last &&
        ahead.head?.all (fun other => Nat.blt last other.1 && Nat.blt last other.2) &&
        areApart later ahead

/-- Ranges that end before a code point have no say on it. -/
theorem inRanges_dropWhile {bound code : Nat} (ranges : List (Nat × Nat)) (above : bound ≤ code) :
    inRanges (ranges.dropWhile fun range => Nat.blt range.2 bound) code =
      inRanges ranges code := by
  induction ranges with
  | nil => rfl
  | cons range later induction =>
      obtain ⟨first, last⟩ := range
      rw [List.dropWhile_cons]
      by_cases before : last < bound
      · have passed : ¬ code ≤ last := by omega
        rw [if_pos (Nat.blt_eq.mpr before), induction, inRanges, if_neg passed]
      · rw [if_neg fun ends => before (Nat.blt_eq.mp ends)]

theorem inRanges_of_areApart {first second : List (Nat × Nat)} {code : Nat}
    (apart : areApart first second = true) (inside : inRanges first code = true) :
    inRanges second code = false := by
  induction first generalizing second with
  | nil => cases inside
  | cons range later induction =>
      obtain ⟨start, last⟩ := range
      simp only [areApart, Bool.and_eq_true, Nat.ble_eq] at apart
      obtain ⟨⟨ordered, next⟩, laterApart⟩ := apart
      unfold inRanges at inside
      by_cases within : code ≤ last
      · have reached : start ≤ code := by simpa [within] using inside
        rw [← inRanges_dropWhile second reached]
        cases ahead : second.dropWhile fun other => Nat.blt other.2 start with
        | nil => rfl
        | cons other others =>
            rw [ahead, List.head?_cons, Option.all_some, Bool.and_eq_true, Nat.blt_eq,
              Nat.blt_eq] at next
            obtain ⟨otherFirst, otherLast⟩ := other
            have ends : code ≤ otherLast := by omega
            have starts : ¬ otherFirst ≤ code := by omega
            rw [inRanges, if_pos ends, decide_eq_false starts]
      · rw [if_neg within] at inside
        have reached : start ≤ code := by omega
        rw [← inRanges_dropWhile second reached]
        exact induction laterApart inside

/-- The ranges of the decimal digits. -/
def digitRanges : List (Nat × Nat) :=
  digitZeros.map fun first => (first, first + 9)

theorem inRanges_of_mem {starts : List Nat} {first code : Nat}
    (increasing : starts.Pairwise fun start later => start + 9 < later) (member : first ∈ starts)
    (above : first ≤ code) (below : code ≤ first + 9) :
    inRanges (starts.map fun start => (start, start + 9)) code = true := by
  induction starts with
  | nil => cases member
  | cons start later induction =>
      obtain ⟨before, laterIncreasing⟩ := List.pairwise_cons.mp increasing
      rw [List.map_cons, inRanges]
      cases List.mem_cons.mp member with
      | inl same =>
          subst same
          rw [if_pos below, decide_eq_true above]
      | inr laterMember =>
          have passed : ¬ code ≤ start + 9 := by
            have := before first laterMember
            omega
          rw [if_neg passed]
          exact induction laterIncreasing laterMember

variable {character : Char}

theorem inRanges_of_isDigit (digit : isDigit character = true) :
    inRanges digitRanges character.toNat = true := by
  have increasing : digitZeros.Pairwise fun start later => start + 9 < later := by
    decide +kernel
  unfold isDigit digitValue? at digit
  rw [Option.isSome_map, List.find?_isSome] at digit
  obtain ⟨first, member, within⟩ := digit
  rw [Bool.and_eq_true, decide_eq_true_iff, decide_eq_true_iff] at within
  exact inRanges_of_mem increasing member within.1 within.2

theorem isDigit_of_areApart {ranges : List (Nat × Nat)}
    (apart : areApart ranges digitRanges = true)
    (inside : inRanges ranges character.toNat = true) : isDigit character = false := by
  apply Bool.eq_false_iff.mpr
  intro digit
  have outside := inRanges_of_areApart apart inside
  rw [inRanges_of_isDigit digit] at outside
  cases outside

theorem isDigit_of_isBlank (blank : isBlank character = true) : isDigit character = false :=
  isDigit_of_areApart (by decide +kernel : areApart blankRanges digitRanges = true) blank

theorem isDigit_of_isLetter (letter : isLetter character = true) : isDigit character = false :=
  isDigit_of_areApart (by decide +kernel : areApart letterRanges digitRanges = true) letter

theorem isLetter_of_isBlank (blank : isBlank character = true) : isLetter character = false :=
  inRanges_of_areApart (by decide +kernel : areApart blankRanges letterRanges = true) blank

theorem isNumeral_of_isBlank (blank : isBlank character = true) : isNumeral character = false :=
  inRanges_of_areApart (by decide +kernel : areApart blankRanges numeralRanges = true) blank

end Text

namespace Cursor

variable {character : Char}

theorem isWordCharacter_of_isBlank (blank : Text.isBlank character = true) :
    isWordCharacter character = false := by
  have notUnderscore : character ≠ '_' := by
    rintro rfl
    exact absurd blank (by decide)
  simp [isWordCharacter, Text.isLetter_of_isBlank blank, Text.isDigit_of_isBlank blank,
    Text.isNumeral_of_isBlank blank, notUnderscore]

theorem isWordCharacter_of_startsWord (starts : startsWord character = true) :
    isWordCharacter character = true := by
  simp only [startsWord, Bool.or_eq_true] at starts
  simp only [isWordCharacter, Bool.or_eq_true]
  cases starts with
  | inl letter => exact .inl (.inl (.inl letter))
  | inr underscore => exact .inr underscore

/-- A word and a number never start alike. -/
theorem isDigit_of_startsWord (starts : startsWord character = true) :
    Text.isDigit character = false := by
  simp only [startsWord, Bool.or_eq_true, beq_iff_eq] at starts
  cases starts with
  | inl letter => exact Text.isDigit_of_isLetter letter
  | inr underscore =>
      subst underscore
      decide

end Cursor
end PixelBrush
