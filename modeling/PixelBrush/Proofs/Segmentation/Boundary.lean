import Mathlib.Data.List.Basic
import PixelBrush.Proofs.Lexer

/-! # What may stand behind a lexeme

A lexeme and a gap see no more of what follows them than its first character.
So they stay what they are in front of any text that starts alike, at the end of
the text, and in front of a character that could not continue them.
-/

namespace PixelBrush

open Segmentation

namespace Location

variable {character : Char} {first second third : List Char}

theorem whole_of_getLast?_ne (noReturn : first.getLast? ≠ some '\r') : Whole first second :=
  fun last => absurd last noReturn

theorem Whole.of_append (whole : Whole first (second ++ third)) : Whole first second := by
  intro last feed
  refine whole last ?_
  rw [List.head?_append, feed]
  rfl

theorem Whole.cons (whole : Whole first second)
    (alone : first = [] → character = '\r' → second.head? ≠ some '\n') :
    Whole (character :: first) second := by
  intro last
  cases first with
  | nil => exact alone rfl (by simpa using last)
  | cons next others => exact whole (by simpa using last)

end Location

/-- Whether a character can stand right behind every lexeme but a comment. -/
def delimits (character : Char) : Bool :=
  Text.isBlank character || "()[],:<".toList.contains character

section Delimiters

variable {character : Char}

theorem isDigit_of_delimits (delimiter : delimits character = true) :
    Text.isDigit character = false := by
  have signs : "()[],:<".toList.all (fun sign => !Text.isDigit sign) = true := by decide
  rw [delimits, Bool.or_eq_true, List.contains_iff_mem] at delimiter
  cases delimiter with
  | inl blank => exact Text.isDigit_of_isBlank blank
  | inr sign => simpa using List.all_eq_true.mp signs character sign

theorem isWordCharacter_of_delimits (delimiter : delimits character = true) :
    Cursor.isWordCharacter character = false := by
  have signs : "()[],:<".toList.all (fun sign => !Cursor.isWordCharacter sign) = true := by
    decide +kernel
  rw [delimits, Bool.or_eq_true, List.contains_iff_mem] at delimiter
  cases delimiter with
  | inl blank => exact Cursor.isWordCharacter_of_isBlank blank
  | inr sign => simpa using List.all_eq_true.mp signs character sign

theorem longOperator?_of_delimits {first : Char} (delimiter : delimits character = true) :
    Cursor.longOperator? first character = none := by
  unfold Cursor.longOperator?
  split
  case h_8 => rfl
  all_goals exact absurd delimiter (by decide)

end Delimiters

namespace Segmentation

variable {gap later rest other : List Char} {lexeme : Lexeme}

/-- Whether a character can stand right behind every lexeme of a kind. -/
def bounds (kind : TokenKind) (character : Char) : Bool :=
  if kind = .comment then !staysInLine character else delimits character

theorem bounds_of_ne {kind : TokenKind} (noComment : kind ≠ .comment) (character : Char) :
    bounds kind character = delimits character :=
  if_neg noComment

/-- A line break can stand behind lexemes of all kinds. -/
theorem bounds_of_not_staysInLine {character : Char} (ends : staysInLine character = false)
    (kind : TokenKind) : bounds kind character = true := by
  by_cases comment : kind = .comment
  · rw [bounds, if_pos comment, ends]
    rfl
  · rw [bounds_of_ne comment, delimits]
    cases blank : Text.isBlank character with
    | true => rfl
    | false =>
        rw [staysInLine_of_not_isBlank blank] at ends
        cases ends

/-- A lexeme stays one in front of another text, if that starts alike or with a character
that bounds the lexeme. -/
theorem Picked.of_head? (picked : Picked lexeme rest)
    (bounded : ∀ next ∈ other.head?, next ∈ rest.head? ∨ bounds lexeme.kind next = true) :
    Picked lexeme other := by
  have run : ∀ {belongs : Char → Bool} {text : List Char}, LongestRun belongs text rest →
      (∀ next, bounds lexeme.kind next = true → belongs next = false) →
        LongestRun belongs text other := by
    intro belongs text found stops
    refine ⟨found.all, fun next member => ?_⟩
    cases bounded next member with
    | inl same => exact found.ends next same
    | inr bound => exact stops next bound
  cases picked with
  | endOfLine => exact .endOfLine
  | comment found =>
      refine .comment (run found fun next bound => ?_)
      rwa [bounds, if_pos rfl, Bool.not_eq_true'] at bound
  | number nonempty found =>
      refine .number nonempty (run found fun next bound => ?_)
      exact isDigit_of_delimits (by rwa [bounds_of_ne TokenKind.noConfusion] at bound)
  | keyword word known =>
      refine .keyword ⟨word.starts, run word.run fun next bound => ?_⟩ known
      exact isWordCharacter_of_delimits
        (by rwa [bounds_of_ne (Cursor.kind_of_keyword? known).2.2.1] at bound)
  | identifier word unknown =>
      refine .identifier ⟨word.starts, run word.run fun next bound => ?_⟩ unknown
      exact isWordCharacter_of_delimits (by rwa [bounds_of_ne TokenKind.noConfusion] at bound)
  | string unquoted => exact .string unquoted
  | longOperator known => exact .longOperator known
  | shortOperator known alone noComment =>
      have delimiter : ∀ {next}, bounds _ next = true → delimits next = true := fun bound => by
        rwa [bounds_of_ne (Cursor.kind_of_shortOperator? known).2.2.1] at bound
      refine .shortOperator known (fun next member => ?_) fun slash next member => ?_
      · cases bounded next member with
        | inl same => exact alone next same
        | inr bound => exact longOperator?_of_delimits (delimiter bound)
      · cases bounded next member with
        | inl same => exact noComment slash next same
        | inr bound =>
            rintro rfl
            exact absurd (delimiter bound) (by decide)

/-- What is a lexeme by itself is one in front of a delimiter as well. -/
theorem Picked.of_delimits (alone : Picked lexeme []) (noComment : lexeme.kind ≠ .comment)
    (delimited : ∀ next ∈ rest.head?, delimits next = true) : Picked lexeme rest := by
  refine alone.of_head? fun next member => .inr ?_
  rw [bounds_of_ne noComment]
  exact delimited next member

theorem Picked.getLast?_ne (picked : Picked lexeme rest) : lexeme.text.getLast? ≠ some '\r' := by
  intro last
  have member := List.mem_of_getLast? last
  cases picked with
  | endOfLine => cases last
  | comment run =>
      simp only [List.mem_cons] at member
      obtain slash | slash | inside := member
      · cases slash
      · cases slash
      · cases run.all _ inside
  | number nonempty run => exact absurd (run.all _ member) (by decide)
  | keyword word known | identifier word unknown => exact absurd (word.run.all _ member) (by decide)
  | string unquoted =>
      rw [← List.cons_append, List.getLast?_concat] at last
      cases last
  | longOperator known =>
      obtain rfl := Option.some.inj last
      exact absurd (Cursor.isSymbol_of_longOperator? known).2 (by decide)
  | shortOperator known alone noComment =>
      obtain rfl := Option.some.inj last
      exact absurd (Cursor.isSymbol_of_shortOperator? known) (by decide)

/-- The end of a line is one character. -/
theorem Picked.eq_of_endOfLine (picked : Picked lexeme rest) (kind : lexeme.kind = .endOfLine) :
    lexeme = ⟨.endOfLine, ['\n'], none⟩ := by
  cases picked with
  | endOfLine => rfl
  | keyword word known => exact absurd kind (Cursor.kind_of_keyword? known).2.2.2
  | longOperator known => exact absurd kind (Cursor.kind_of_longOperator? known).2.2.2
  | shortOperator known _ _ => exact absurd kind (Cursor.kind_of_shortOperator? known).2.2.2
  | _ => cases kind

/-- No line break stands in a lexeme, unless it is a string or the end of a line itself. -/
theorem Picked.staysInLine (picked : Picked lexeme rest) (noEnd : lexeme.kind ≠ .endOfLine)
    (noString : lexeme.kind ≠ .string) :
    ∀ character ∈ lexeme.text, Segmentation.staysInLine character = true := by
  cases picked with
  | endOfLine => exact absurd rfl noEnd
  | comment run =>
      have slash : Segmentation.staysInLine '/' = true := rfl
      exact List.forall_mem_cons.mpr ⟨slash, List.forall_mem_cons.mpr ⟨slash, run.all⟩⟩
  | number nonempty run =>
      exact fun character member =>
        staysInLine_of_not_isBlank (not_isBlank_of_isDigit (run.all character member))
  | keyword word known | identifier word unknown =>
      exact fun character member =>
        staysInLine_of_not_isBlank (not_isBlank_of_isWordCharacter (word.run.all character member))
  | string unquoted => exact absurd rfl noString
  | longOperator known =>
      have symbols := Cursor.isSymbol_of_longOperator? known
      simp [staysInLine_of_not_isBlank (Cursor.not_isBlank_of_isSymbol symbols.1),
        staysInLine_of_not_isBlank (Cursor.not_isBlank_of_isSymbol symbols.2)]
  | shortOperator known alone noComment =>
      have symbol := Cursor.isSymbol_of_shortOperator? known
      simp [staysInLine_of_not_isBlank (Cursor.not_isBlank_of_isSymbol symbol)]

/-- No line break is divided between a gap and what is behind it. -/
theorem Gap.whole (between : Gap gap rest) : Location.Whole gap rest := by
  induction between with
  | nil => exact fun last => absurd last (by simp)
  | blank blank inLine later induction =>
      refine induction.cons ?_
      rintro - rfl
      cases inLine
  | lineBreak later induction =>
      have feed : Location.Whole ('\n' :: _) _ := induction.cons fun _ same =>
        absurd same (by decide)
      exact feed.cons fun none => absurd none (List.cons_ne_nil _ _)
  | carriageReturn alone later induction =>
      refine induction.cons ?_
      rintro rfl -
      exact alone

/-- What is behind a gap only matters to line breaks. -/
theorem Gap.of_whole (between : Gap gap rest) (whole : Location.Whole gap other) :
    Gap gap other := by
  induction between with
  | nil => exact .nil
  | blank blank inLine later induction => exact .blank blank inLine (induction whole.of_cons)
  | lineBreak later induction => exact .lineBreak (induction whole.of_cons.of_cons)
  | @carriageReturn gap rest alone later induction =>
      refine .carriageReturn ?_ (induction whole.of_cons)
      cases gap with
      | nil => exact whole rfl
      | cons next others => exact alone

theorem Gap.of_head? (between : Gap gap rest)
    (feed : other.head? = some '\n' → rest.head? = some '\n') : Gap gap other :=
  between.of_whole fun last next => between.whole last (feed next)

/-- A gap in front of a lexeme stays one whatever is behind that. -/
theorem Gap.of_lexeme (between : Gap gap (lexeme.text ++ rest)) (nonempty : lexeme.text ≠ [])
    (other : List Char) : Gap gap (lexeme.text ++ other) := by
  refine between.of_head? fun feed => ?_
  rw [List.head?_append_of_ne_nil _ nonempty] at feed ⊢
  exact feed

theorem Gap.append (between : Gap gap (later ++ rest)) (behind : Gap later rest) :
    Gap (gap ++ later) rest := by
  generalize same : later ++ rest = whole at between
  induction between with
  | nil => exact behind
  | blank blank inLine _ induction => exact .blank blank inLine (induction same)
  | lineBreak _ induction => exact .lineBreak (induction same)
  | carriageReturn alone _ induction =>
      rw [List.cons_append]
      refine .carriageReturn ?_ (induction same)
      rw [List.append_assoc, same]
      exact alone

end Segmentation

theorem longOperator?_of_not_mem {first : Char} (alone : first ∉ "<=!>&|".toList)
    (second : Char) : Cursor.longOperator? first second = none := by
  unfold Cursor.longOperator?
  split
  case h_8 => rfl
  all_goals exact absurd (by decide) alone

end PixelBrush
