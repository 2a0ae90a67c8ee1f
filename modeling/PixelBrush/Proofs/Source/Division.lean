import PixelBrush.Proofs.Segmentation.Boundary
import PixelBrush.Proofs.Source

/-! # Written programs fall apart into their lexemes

No lexeme of a written program runs into the next one, even where no blank
stands between them.  For behind each of them stands a character that could not
continue it, or it is a sign that nothing can continue.
-/

namespace PixelBrush

open Segmentation

/-- Whether any text that is spelled with some lexemes falls apart into them. -/
structure Divides (lexemes : List Lexeme) : Prop where
  segmentation : ∀ text, Spelled lexemes text → Segmentation text lexemes
  readable : ∀ lexeme ∈ lexemes, lexeme.Readable

/-- Whether it does so even behind a lexeme that asks for a delimiter. -/
structure Delimited (lexemes : List Lexeme) : Prop extends Divides lexemes where
  starts : ∀ text, Spelled lexemes text → ∀ character ∈ text.head?, delimits character = true

theorem IsSpace.gap {space : List Char} (blank : IsSpace space) (rest : List Char) :
    Gap space rest := by
  induction space with
  | nil => exact .nil
  | cons character later induction =>
      obtain ⟨first, others⟩ := List.forall_mem_cons.mp blank
      exact .blank first.1 first.2 (induction others)

theorem IsSpace.delimits {space : List Char} (blank : IsSpace space) :
    ∀ character ∈ space.head?, PixelBrush.delimits character = true := by
  intro character first
  have isBlank := (blank character (List.mem_of_mem_head? first)).1
  rw [PixelBrush.delimits, isBlank, Bool.true_or]

section Rules

variable {lexeme : Lexeme} {lexemes : List Lexeme}

theorem delimited_nil : Delimited [] where
  segmentation := by
    intro text spelled
    cases spelled with
    | nil blank => exact .finished (blank.gap [])
  readable := fun _ member => absurd member List.not_mem_nil
  starts := by
    intro text spelled
    cases spelled with
    | nil blank => exact blank.delimits

theorem Divides.cons (divides : Divides lexemes) (readable : lexeme.Readable)
    (picked : ∀ rest, Spelled lexemes rest → Picked lexeme rest) :
    Divides (lexeme :: lexemes) where
  segmentation := by
    intro text spelled
    cases spelled with
    | cons blank later =>
        exact .lexeme (blank.gap _) (picked _ later) (divides.segmentation _ later)
  readable := List.forall_mem_cons.mpr ⟨readable, divides.readable⟩

/-- A lexeme that stands by itself, and that may need a delimiter behind it. -/
structure Lexeme.Standalone (lexeme : Lexeme) : Prop where
  picked : Picked lexeme []
  noComment : lexeme.kind ≠ .comment
  readable : lexeme.Readable

theorem Delimited.divides_cons (delimited : Delimited lexemes) (standalone : lexeme.Standalone) :
    Divides (lexeme :: lexemes) :=
  delimited.toDivides.cons standalone.readable fun rest spelled =>
    standalone.picked.of_delimits standalone.noComment (delimited.starts rest spelled)

/-- A lexeme that nothing behind it can continue. -/
structure Lexeme.Closed (lexeme : Lexeme) : Prop where
  picked : ∀ rest, Picked lexeme rest
  readable : lexeme.Readable

theorem Divides.closed_cons (divides : Divides lexemes) (closed : lexeme.Closed) :
    Divides (lexeme :: lexemes) :=
  divides.cons closed.readable fun rest _ => closed.picked rest

theorem Divides.delimited_cons (divides : Divides lexemes) (closed : lexeme.Closed)
    {character : Char} {others : List Char} (first : lexeme.text = character :: others)
    (delimiter : delimits character = true) : Delimited (lexeme :: lexemes) where
  toDivides := divides.closed_cons closed
  starts := by
    intro text spelled
    cases spelled with
    | @cons space rest _ _ blank later =>
        cases space with
        | nil =>
            intro character same
            rw [first, List.nil_append, List.cons_append, List.head?_cons, Option.mem_some] at same
            exact same ▸ delimiter
        | cons blankCharacter more =>
            intro character same
            exact blank.delimits character same

end Rules

namespace Lexeme

theorem closed_sign {kind : TokenKind} {text : String} (character : Char)
    (single : text.toList = [character]) (known : Cursor.shortOperator? character = some kind)
    (alone : character ∉ "<=!>&|".toList) (noSlash : character ≠ '/') :
    (sign kind text).Closed where
  picked := by
    intro rest
    rw [sign, single]
    exact .shortOperator known (fun next _ => longOperator?_of_not_mem alone next)
      fun slash => absurd slash noSlash
  readable := fun number => absurd number (Cursor.kind_of_shortOperator? known).1

theorem closed_opening : opening.Closed :=
  closed_sign '(' rfl rfl (by decide) (by decide)

theorem closed_closing : closing.Closed :=
  closed_sign ')' rfl rfl (by decide) (by decide)

theorem closed_comma : (sign .comma ",").Closed :=
  closed_sign ',' rfl rfl (by decide) (by decide)

theorem closed_colon : (sign .colon ":").Closed :=
  closed_sign ':' rfl rfl (by decide) (by decide)

theorem closed_leftBracket : (sign .leftBracket "[").Closed :=
  closed_sign '[' rfl rfl (by decide) (by decide)

theorem closed_rightBracket : (sign .rightBracket "]").Closed :=
  closed_sign ']' rfl rfl (by decide) (by decide)

theorem closed_arrow : (sign .arrow "<-").Closed :=
  ⟨fun _ => .longOperator rfl, by decide⟩

theorem closed_endOfLine : endOfLine.Closed :=
  ⟨fun _ => .endOfLine, by decide⟩

theorem word_of_all {text : List Char} (starts : text.head?.any Cursor.startsWord = true)
    (all : text.all Cursor.isWordCharacter = true) : Word text [] := by
  cases text with
  | nil => cases starts
  | cons first later =>
      exact ⟨⟨first, later, rfl, starts⟩, List.all_eq_true.mp all, fun _ next => by cases next⟩

theorem standalone_keyword {kind : TokenKind} {text : List Char} {value : Payload}
    (starts : text.head?.any Cursor.startsWord = true)
    (all : text.all Cursor.isWordCharacter = true)
    (known : Cursor.keyword? (String.ofList (Text.foldCase text)) = some (kind, value)) :
    Standalone ⟨kind, text, value⟩ where
  picked := .keyword (word_of_all starts all) known
  noComment := (Cursor.kind_of_keyword? known).2.2.1
  readable := fun number => absurd number (Cursor.kind_of_keyword? known).1

theorem standalone_command (drawn : Command) : (command drawn).Standalone := by
  cases drawn <;> exact standalone_keyword (by decide) (by decide) (by decide)

theorem standalone_query (asked : Query) : (query asked).Standalone := by
  cases asked <;> exact standalone_keyword (by decide) (by decide) (by decide)

theorem standalone_jump : (sign .jump "goto").Standalone :=
  standalone_keyword (by decide) (by decide) (by decide)

theorem standalone_longOperator {kind : TokenKind} {first second : Char}
    (known : Cursor.longOperator? first second = some kind) :
    Standalone ⟨kind, [first, second], none⟩ where
  picked := .longOperator known
  noComment := (Cursor.kind_of_longOperator? known).2.2.1
  readable := fun number => absurd number (Cursor.kind_of_longOperator? known).1

theorem standalone_shortOperator {kind : TokenKind} {character : Char}
    (known : Cursor.shortOperator? character = some kind) :
    Standalone ⟨kind, [character], none⟩ where
  picked := .shortOperator known (fun _ next => by cases next) fun _ _ next => by cases next
  noComment := (Cursor.kind_of_shortOperator? known).2.2.1
  readable := fun number => absurd number (Cursor.kind_of_shortOperator? known).1

theorem standalone_binary (operator : BinaryOperator) : (binary operator).Standalone := by
  cases operator with
  | or | and => exact standalone_keyword (by decide) (by decide) (by decide)
  | equal | notEqual | lessEqual | greaterEqual => exact standalone_longOperator rfl
  | _ => exact standalone_shortOperator rfl

theorem standalone_unary (operator : UnaryOperator) : (unary operator).Standalone := by
  cases operator with
  | negate => exact standalone_shortOperator rfl
  | not => exact standalone_keyword (by decide) (by decide) (by decide)

theorem standalone_identifier {name : String} (identifier : IsIdentifier name) :
    (Lexeme.identifier name).Standalone where
  picked := by
    have picked := Picked.identifier identifier.word identifier.unknown
    rw [String.ofList_toList] at picked
    exact picked
  noComment := by simp [Lexeme.identifier]
  readable := by simp [Lexeme.identifier, Readable]

theorem digitValue?_of_isDigit {character : Char} (ascii : character.isDigit = true) :
    Text.digitValue? character = some (character.toNat - '0'.toNat) := by
  have within : 0x0030 ≤ character.toNat ∧ character.toNat ≤ 0x0030 + 9 := by
    simp only [Char.isDigit, Bool.and_eq_true, decide_eq_true_iff] at ascii
    exact ascii
  simp [Text.digitValue?, Text.digitZeros, within]

theorem digitsValue_of_isDigit {digits : List Char}
    (ascii : ∀ character ∈ digits, character.isDigit = true) :
    Text.digitsValue digits = Nat.ofDigitChars 10 digits 0 := by
  apply List.foldl_ext
  intro value character member
  rw [digitValue?_of_isDigit (ascii character member), Option.getD_some]

/-- The digits of a number stand for it. -/
theorem picked_digits (value : Nat) :
    Picked ⟨.number, Nat.toDigits 10 value, some (.number value)⟩ [] := by
  have ascii : ∀ character ∈ Nat.toDigits 10 value, character.isDigit = true :=
    fun _ member => Nat.isDigit_of_mem_toDigits (by decide) (by decide) member
  have run : LongestRun Text.isDigit (Nat.toDigits 10 value) [] := by
    refine ⟨fun character member => ?_, fun _ next => by cases next⟩
    rw [Text.isDigit, digitValue?_of_isDigit (ascii character member)]
    rfl
  have picked := Picked.number Nat.toDigits_ne_nil run
  rw [← Cursor.digitsValue_eq_decimalValue, digitsValue_of_isDigit ascii,
    Nat.ofDigitChars_ten_toDigits] at picked
  exact picked

theorem standalone_literal {value : Value} (writable : value.Writable) :
    (literal value).Standalone := by
  cases value with
  | number value =>
      obtain ⟨positive, short⟩ := writable
      obtain ⟨value, rfl⟩ := Int.eq_ofNat_of_zero_le positive
      exact ⟨picked_digits value, by simp [literal], fun _ => short⟩
  | boolean value =>
      cases value <;> exact standalone_keyword (by decide) (by decide) (by decide)
  | string text =>
      have picked : Picked ⟨.string, '"' :: (text.toList ++ ['"']),
          some (.string (String.ofList text.toList))⟩ [] := .string writable
      rw [String.ofList_toList] at picked
      exact ⟨picked, by simp [literal], by simp [literal, Readable]⟩

end Lexeme

section Programs

variable {node : Node} {nodes : List Node} {inner lexemes : List Lexeme}

/-- Whether what is written divides in front of everything that delimits it. -/
def DividesInFront (inner : List Lexeme) : Prop :=
  ∀ lexemes, Delimited lexemes → Divides (inner ++ lexemes)

theorem DividesInFront.enclosed (inside : DividesInFront inner) (later : Divides lexemes) :
    Delimited (Lexeme.enclosed inner ++ lexemes) := by
  have behind : Delimited (Lexeme.closing :: lexemes) :=
    later.delimited_cons Lexeme.closed_closing rfl (by decide)
  have rest : Divides (inner ++ Lexeme.closing :: lexemes) := inside _ behind
  rw [Lexeme.enclosed, List.cons_append, List.append_assoc, List.cons_append, List.nil_append]
  exact rest.delimited_cons Lexeme.closed_opening rfl (by decide)

theorem dividesInFront_arguments (each : ∀ node ∈ nodes, DividesInFront node.lexemes) :
    DividesInFront (Node.argumentLexemes nodes) := by
  intro lexemes delimited
  induction nodes with
  | nil => exact delimited.toDivides
  | cons first others induction =>
      obtain ⟨firstDivides, othersDivide⟩ := List.forall_mem_cons.mp each
      cases others with
      | nil =>
          rw [Node.argumentLexemes_singleton]
          exact firstDivides lexemes delimited
      | cons second more =>
          have rest := induction othersDivide
          have comma := rest.delimited_cons Lexeme.closed_comma rfl (by decide)
          rw [Node.argumentLexemes_cons_cons, List.append_assoc]
          exact firstDivides _ comma

theorem dividesInFront_expression (formed : node.WellFormedExpression) :
    DividesInFront node.lexemes := by
  -- What stands behind an expression changes on the way down, so every case is about
  -- any lexemes behind it, and is put together from the last lexeme to the first.
  induction formed with
  | literal writable =>
      intro lexemes delimited
      rw [Node.lexemes_literal]
      exact delimited.divides_cons (Lexeme.standalone_literal writable)
  | reference identifier =>
      intro lexemes delimited
      rw [Node.lexemes_reference]
      exact delimited.divides_cons (Lexeme.standalone_identifier identifier)
  | @binary operator _ _ _ _ _ left right =>
      intro lexemes delimited
      have operand := right.enclosed delimited.toDivides
      have rest := operand.divides_cons (Lexeme.standalone_binary operator)
      rw [Node.lexemes_binary, List.append_assoc]
      exact (left.enclosed rest).toDivides
  | @unary operator _ _ _ operand =>
      intro lexemes delimited
      have rest := operand.enclosed delimited.toDivides
      rw [Node.lexemes_unary]
      exact rest.divides_cons (Lexeme.standalone_unary operator)
  | @call query _ _ _ induction =>
      intro lexemes delimited
      have inside : DividesInFront _ := dividesInFront_arguments induction
      rw [Node.lexemes_call]
      exact (inside.enclosed delimited.toDivides).divides_cons (Lexeme.standalone_query query)

/-- A line divides whatever lines follow. -/
theorem divides_line (formed : node.WellFormedStatement) (later : Divides lexemes) :
    Divides (node.lexemes ++ Lexeme.endOfLine :: lexemes) := by
  have ended : Delimited (Lexeme.endOfLine :: lexemes) :=
    later.delimited_cons Lexeme.closed_endOfLine rfl (by decide)
  cases formed with
  | label identifier =>
      have colon := ended.toDivides.delimited_cons Lexeme.closed_colon rfl (by decide)
      rw [Node.lexemes_label]
      exact colon.divides_cons (Lexeme.standalone_identifier identifier)
  | assignment identifier valueFormed =>
      have value := dividesInFront_expression valueFormed _ ended
      have arrow := value.delimited_cons Lexeme.closed_arrow rfl (by decide)
      rw [Node.lexemes_assignment]
      exact arrow.divides_cons (Lexeme.standalone_identifier identifier)
  | @instruction command _ _ each =>
      have inside : DividesInFront _ := dividesInFront_arguments fun node member =>
        dividesInFront_expression (each node member)
      rw [Node.lexemes_instruction]
      exact (inside.enclosed ended.toDivides).divides_cons (Lexeme.standalone_command command)
  | jump identifier conditionFormed =>
      have inside : DividesInFront _ := dividesInFront_expression conditionFormed
      have bracket := (inside.enclosed ended.toDivides).toDivides.delimited_cons
        Lexeme.closed_rightBracket rfl (by decide)
      have target := bracket.divides_cons (Lexeme.standalone_identifier identifier)
      have opened := target.delimited_cons Lexeme.closed_leftBracket rfl (by decide)
      rw [Node.lexemes_jump]
      exact opened.divides_cons Lexeme.standalone_jump

theorem divides_program (formed : ∀ node ∈ nodes, node.WellFormedStatement)
    (later : Divides lexemes) : Divides (Node.programLexemes nodes ++ lexemes) := by
  induction nodes with
  | nil => exact later
  | cons first others induction =>
      obtain ⟨firstFormed, othersFormed⟩ := List.forall_mem_cons.mp formed
      have line := divides_line firstFormed (induction othersFormed)
      simpa [Node.programLexemes] using line

end Programs

end PixelBrush
