import PixelBrush.Proofs.CharacterClass
import PixelBrush.Proofs.Segmentation

/-! # What the lexer does with one lexeme

A cursor that stands before a gap passes that gap, and one that stands before a
lexeme reads that lexeme, whatever the rest of the text.  Either way it arrives
right behind what it has read.  Every text that is not at its end starts with a
lexeme behind its gap, or with a character that no rule covers.
-/

namespace PixelBrush

open Segmentation

namespace Location

theorem right_right (location : Location) (first second : Nat) :
    (location.right first).right second = location.right (first + second) := by
  simp [right, Int.add_assoc]

/-- Where one character leads that is no half of a line break of two. -/
theorem after_cons {character : Char} {later : List Char}
    (alone : character = '\r' → later.head? ≠ some '\n') (location : Location) :
    location.after (character :: later) =
      (if character = '\n' ∨ character = '\r' then location.nextLine
        else location.right 1).after later := by
  rw [after]
  · split <;> rfl
  · intro others same rest
    exact alone same (by rw [rest, List.head?_cons])

/-- Whether no line break is divided between a text and the one behind it. -/
def Whole (first second : List Char) : Prop :=
  first.getLast? = some '\r' → second.head? ≠ some '\n'

theorem Whole.of_cons {character : Char} {first second : List Char}
    (whole : Whole (character :: first) second) : Whole first second := by
  intro last
  cases first with
  | nil => cases last
  | cons next others => exact whole (by simpa using last)

theorem after_append_of_whole {first second : List Char} (whole : Whole first second)
    (location : Location) :
    location.after (first ++ second) = (location.after first).after second := by
  -- A line break of two characters is passed at once, so the induction is on the
  -- recursion of `after` and not on the text.
  fun_induction after location first with
  | case1 location => rfl
  | case2 location later induction => exact induction whole.of_cons.of_cons
  | case3 location character later alone ends induction =>
      have apart : character = '\r' → (later ++ second).head? ≠ some '\n' := by
        intro same
        cases later with
        | nil => exact whole (by rw [same]; rfl)
        | cons next others =>
            intro feed
            exact alone others same (by rw [Option.some.inj feed])
      rw [List.cons_append, after_cons apart, if_pos ends, induction whole.of_cons]
  | case4 location character later alone stays induction =>
      have apart : character = '\r' → (later ++ second).head? ≠ some '\n' := fun same =>
        absurd (.inr same) stays
      rw [List.cons_append, after_cons apart, if_neg stays, induction whole.of_cons]

/-- Characters that end no line move a location by one column each. -/
theorem after_of_staysInLine {text : List Char}
    (inLine : ∀ character ∈ text, staysInLine character = true) (location : Location) :
    location.after text = location.right text.length := by
  induction text generalizing location with
  | nil => simp [after, right]
  | cons character later induction =>
      have first : character ≠ '\r' ∧ character ≠ '\n' := by
        simpa [staysInLine] using inLine character List.mem_cons_self
      rw [after_cons fun same => absurd same first.1, if_neg (by simp [first]),
        induction fun other member => inLine other (List.mem_cons_of_mem _ member), right_right,
        List.length_cons, Nat.add_comm]

end Location

namespace Segmentation

variable {belongs : Char → Bool} {text rest : List Char}

theorem LongestRun.takeWhile_eq (run : LongestRun belongs text rest) :
    (text ++ rest).takeWhile belongs = text := by
  rw [List.takeWhile_append_of_pos run.all]
  cases rest with
  | nil => exact List.append_nil text
  | cons next later =>
      have stops := run.ends next rfl
      rw [List.takeWhile_cons, stops, if_neg Bool.false_ne_true, List.append_nil]

theorem longestRun_takeWhile (belongs : Char → Bool) (ahead : List Char) :
    LongestRun belongs (ahead.takeWhile belongs) (ahead.dropWhile belongs) where
  all := fun _ member => List.all_eq_true.mp List.all_takeWhile _ member
  ends := by
    intro character next
    have stops := List.head?_dropWhile_not belongs ahead
    rw [Option.mem_def.mp next] at stops
    exact stops

theorem staysInLine_of_not_isBlank {character : Char}
    (visible : Text.isBlank character = false) : staysInLine character = true := by
  have notReturn : character ≠ '\r' := by
    rintro rfl
    exact absurd visible (by decide)
  have notFeed : character ≠ '\n' := by
    rintro rfl
    exact absurd visible (by decide)
  simp [staysInLine, notReturn, notFeed]

theorem not_isBlank_of_isDigit {character : Char} (digit : Text.isDigit character = true) :
    Text.isBlank character = false := by
  apply Bool.eq_false_iff.mpr
  intro blank
  rw [Text.isDigit_of_isBlank blank] at digit
  cases digit

theorem not_isBlank_of_isWordCharacter {character : Char}
    (inWord : Cursor.isWordCharacter character = true) : Text.isBlank character = false := by
  apply Bool.eq_false_iff.mpr
  intro blank
  rw [Cursor.isWordCharacter_of_isBlank blank] at inWord
  cases inWord

end Segmentation

namespace Cursor

/-- Whether a character is of none of the classes that the lexer asks for before
it looks for operators. -/
def isSymbol (character : Char) : Bool :=
  !Text.isBlank character && !Text.isDigit character && !startsWord character && character != '"'

theorem isSymbol_of_shortOperator? {character : Char} {kind : TokenKind}
    (known : shortOperator? character = some kind) : isSymbol character = true := by
  unfold shortOperator? at known
  split at known
  case h_15 => cases known
  all_goals decide

theorem isSymbol_of_longOperator? {first second : Char} {kind : TokenKind}
    (known : longOperator? first second = some kind) :
    isSymbol first = true ∧ isSymbol second = true := by
  unfold longOperator? at known
  split at known
  case h_8 => cases known
  all_goals decide

theorem not_isBlank_of_isSymbol {character : Char} (symbol : isSymbol character = true) :
    Text.isBlank character = false := by
  simp only [isSymbol, Bool.and_eq_true, Bool.not_eq_true'] at symbol
  exact symbol.1.1.1

theorem skip_eq_pass {text : List Char}
    (inLine : ∀ character ∈ text, staysInLine character = true) (cursor : Cursor) :
    cursor.skip text.length = cursor.pass text := by
  unfold skip pass
  rw [Location.after_of_staysInLine inLine]

/-- Which rule reads a lexeme that is neither the end of a line nor a comment. -/
theorem lexeme_of_cons {cursor : Cursor} {character : Char} {later : List Char}
    (ahead : cursor.ahead = character :: later) (notEnd : character ≠ '\n')
    (notComment : character = '/' → later.head? ≠ some '/') :
    cursor.lexeme =
      if Text.isDigit character then cursor.number
      else if startsWord character then (.ok cursor.word.1, cursor.word.2)
      else if character = '"' then cursor.string
      else (cursor.operator?.map fun read => (.ok read.1, read.2)).getD
        (.error (.unrecognized character cursor.location), cursor) := by
  unfold lexeme
  rw [ahead]
  split
  · contradiction
  · rename_i same
    exact absurd (List.cons.inj same).1 notEnd
  · rename_i others same
    obtain ⟨first, rest⟩ := List.cons.inj same
    exact absurd (by rw [rest, List.head?_cons]) (notComment first)
  · rename_i same
    rw [(List.cons.inj same).1]
    cases cursor.operator? <;> rfl

theorem kind_of_keyword? {word : String} {kind : TokenKind} {value : Payload}
    (known : keyword? word = some (kind, value)) :
    kind ≠ .number ∧ kind ≠ .endOfInput ∧ kind ≠ .comment ∧ kind ≠ .endOfLine := by
  unfold keyword? at known
  split at known
  case h_21 => cases known
  all_goals
    obtain ⟨rfl, rfl⟩ := Prod.mk.inj (Option.some.inj known)
    decide

theorem kind_of_longOperator? {first second : Char} {kind : TokenKind}
    (known : longOperator? first second = some kind) :
    kind ≠ .number ∧ kind ≠ .endOfInput ∧ kind ≠ .comment ∧ kind ≠ .endOfLine := by
  unfold longOperator? at known
  split at known
  case h_8 => cases known
  all_goals
    obtain rfl := Option.some.inj known
    decide

theorem kind_of_shortOperator? {character : Char} {kind : TokenKind}
    (known : shortOperator? character = some kind) :
    kind ≠ .number ∧ kind ≠ .endOfInput ∧ kind ≠ .comment ∧ kind ≠ .endOfLine := by
  unfold shortOperator? at known
  split at known
  case h_15 => cases known
  all_goals
    obtain rfl := Option.some.inj known
    decide

/-- What reading a lexeme at a cursor comes to. -/
def reading (cursor : Cursor) (lexeme : Lexeme) : Except LexicalError Token × Cursor :=
  (if lexeme.Readable then .ok (lexeme.token cursor.location)
    else .error (.tooManyDigits lexeme.text.length), cursor.pass lexeme.text)

theorem reading_of_kind {cursor : Cursor} {kind : TokenKind} {text : List Char}
    {value : Payload} (other : kind ≠ .number) :
    cursor.reading ⟨kind, text, value⟩ =
      (.ok (cursor.token kind text value), cursor.pass text) := by
  have readable : Lexeme.Readable ⟨kind, text, value⟩ := fun number => absurd number other
  rw [reading, if_pos readable]
  rfl

section Picked

variable {cursor : Cursor} {text rest : List Char}

theorem comment_of_run (run : LongestRun staysInLine text rest)
    (ahead : cursor.ahead = text ++ rest) :
    cursor.comment = (cursor.token .comment text, cursor.pass text) := by
  have taken : (text ++ rest).takeWhile
      (fun character => character != '\r' && character != '\n') = text := run.takeWhile_eq
  simp only [comment, ahead, taken, skip_eq_pass run.all]

theorem digitsValue_eq_decimalValue (digits : List Char) :
    Text.digitsValue digits = decimalValue digits := by
  unfold Text.digitsValue decimalValue
  rw [Nat.ofDigits_eq_foldr, List.map_reverse, List.foldr_reverse, List.foldl_map]
  simp [Nat.add_comm]

theorem number_of_run (nonempty : text ≠ []) (run : LongestRun Text.isDigit text rest)
    (ahead : cursor.ahead = text ++ rest) :
    cursor.number = cursor.reading ⟨.number, text, some (.number (decimalValue text))⟩ := by
  have inLine : ∀ character ∈ text, staysInLine character = true := fun character member =>
    staysInLine_of_not_isBlank (not_isBlank_of_isDigit (run.all character member))
  have some : ¬ text.length = 0 := fun none => nonempty (List.length_eq_zero_iff.mp none)
  simp only [number, reading, ahead, run.takeWhile_eq, skip_eq_pass inLine,
    digitsValue_eq_decimalValue]
  rw [if_neg some]
  by_cases within : text.length ≤ Text.digitLimit
  · have readable : Lexeme.Readable ⟨.number, text, Option.some (.number (decimalValue text))⟩ :=
      fun _ => within
    rw [if_neg (Nat.not_lt.mpr within), if_pos readable]
    rfl
  · have unreadable :
        ¬ Lexeme.Readable ⟨.number, text, Option.some (.number (decimalValue text))⟩ :=
      fun readable => within (readable rfl)
    rw [if_pos (Nat.not_le.mp within), if_neg unreadable]

theorem word_of_run (run : LongestRun isWordCharacter text rest)
    (ahead : cursor.ahead = text ++ rest) :
    cursor.word =
      (cursor.token (classifyWord text).1 text (classifyWord text).2, cursor.pass text) := by
  have inLine : ∀ character ∈ text, staysInLine character = true := fun character member =>
    staysInLine_of_not_isBlank (not_isBlank_of_isWordCharacter (run.all character member))
  simp only [word, ahead, run.takeWhile_eq, skip_eq_pass inLine]

theorem longestRun_of_unquoted {inside : List Char} (unquoted : '"' ∉ inside)
    (ends : ∀ character ∈ rest.head?, character = '"') :
    LongestRun (· != '"') inside rest := by
  constructor
  · intro character member
    apply bne_iff_ne.mpr
    rintro rfl
    exact unquoted member
  · intro character next
    rw [ends character next]
    rfl

theorem string_of_unquoted {inside : List Char} (unquoted : '"' ∉ inside)
    (ahead : cursor.ahead = '"' :: (inside ++ ['"']) ++ rest) :
    cursor.string =
      (.ok (cursor.token .string ('"' :: (inside ++ ['"']))
          (some (.string (String.ofList inside)))),
        cursor.pass ('"' :: (inside ++ ['"']))) := by
  have run : LongestRun (· != '"') inside ('"' :: rest) :=
    longestRun_of_unquoted unquoted fun _ next => (Option.some.inj next).symm
  have inside_eq : (cursor.ahead.drop 1).takeWhile (· != '"') = inside := by
    rw [ahead]
    simpa using run.takeWhile_eq
  -- A string may run over several lines, and so its text is not passed like the others.
  have closing : ((cursor.skip 1).pass inside).ahead = '"' :: rest := by
    simp [skip, pass, ahead]
  have whole : Location.Whole inside ['"'] := fun _ feed =>
    absurd (Option.some.inj feed) (by decide)
  have location : ((cursor.location.right 1).after inside).right 1 =
      cursor.location.after ('"' :: (inside ++ ['"'])) := by
    rw [Location.after_cons (fun same => absurd same (by decide)),
      Location.after_append_of_whole whole]
    rfl
  have reached : ((cursor.skip 1).pass inside).skip 1 = cursor.pass ('"' :: (inside ++ ['"'])) := by
    have count : 1 + inside.length + 1 = ('"' :: (inside ++ ['"'])).length := by
      simp [Nat.add_comm]
    simp only [skip, pass, location, List.drop_drop, ← count, Nat.add_assoc]
  unfold string
  rw [inside_eq]
  dsimp only
  rw [closing, reached, ahead]
  rfl

theorem operator?_of_longOperator? {first second : Char} {kind : TokenKind}
    (known : longOperator? first second = some kind)
    (ahead : cursor.ahead = [first, second] ++ rest) :
    cursor.operator? = some (cursor.token kind [first, second], cursor.pass [first, second]) := by
  have symbols := isSymbol_of_longOperator? known
  have inLine : ∀ character ∈ [first, second], staysInLine character = true := by
    simp [staysInLine_of_not_isBlank (not_isBlank_of_isSymbol symbols.1),
      staysInLine_of_not_isBlank (not_isBlank_of_isSymbol symbols.2)]
  have read : operatorAt? ([first, second] ++ rest) = some (kind, [first, second]) := by
    simp [operatorAt?, known]
  unfold operator?
  rw [ahead, read, Option.map_some, ← skip_eq_pass inLine]

theorem operator?_of_shortOperator? {character : Char} {kind : TokenKind}
    (known : shortOperator? character = some kind)
    (alone : ∀ next ∈ rest.head?, longOperator? character next = none)
    (ahead : cursor.ahead = [character] ++ rest) :
    cursor.operator? = some (cursor.token kind [character], cursor.pass [character]) := by
  have read : operatorAt? ([character] ++ rest) = some (kind, [character]) := by
    cases rest with
    | nil => simp [operatorAt?, known]
    | cons next later => simp [operatorAt?, known, alone next rfl]
  have inLine : ∀ other ∈ [character], staysInLine other = true := by
    simp [staysInLine_of_not_isBlank
      (not_isBlank_of_isSymbol (isSymbol_of_shortOperator? known))]
  unfold operator?
  rw [ahead, read, Option.map_some, ← skip_eq_pass inLine]

/-- A word is read by its own rule. -/
theorem lexeme_of_word (word : Word text rest) (ahead : cursor.ahead = text ++ rest) :
    cursor.lexeme =
      (.ok (cursor.token (classifyWord text).1 text (classifyWord text).2), cursor.pass text) := by
  obtain ⟨first, later, same, starts⟩ := word.starts
  have visible : Text.isBlank first = false :=
    not_isBlank_of_isWordCharacter (isWordCharacter_of_startsWord starts)
  have notEnd : first ≠ '\n' := by
    rintro rfl
    exact absurd visible (by decide)
  have notSlash : first ≠ '/' := by
    rintro rfl
    exact absurd starts (by decide)
  have aheadFirst : cursor.ahead = first :: (later ++ rest) := by rw [ahead, same]; rfl
  rw [lexeme_of_cons aheadFirst notEnd (fun slash => absurd slash notSlash),
    isDigit_of_startsWord starts, starts, word_of_run word.run ahead]
  rfl

theorem lexeme_of_operator? {character : Char} {token : Token} {reached : Cursor}
    (symbol : isSymbol character = true) (ahead : cursor.ahead = character :: rest)
    (noComment : character = '/' → rest.head? ≠ some '/')
    (read : cursor.operator? = some (token, reached)) : cursor.lexeme = (.ok token, reached) := by
  have notEnd : character ≠ '\n' := by
    rintro rfl
    exact absurd symbol (by decide)
  simp only [isSymbol, Bool.and_eq_true, Bool.not_eq_true', bne_iff_ne] at symbol
  obtain ⟨⟨⟨-, notDigit⟩, noWord⟩, noQuote⟩ := symbol
  rw [lexeme_of_cons ahead notEnd noComment, notDigit, noWord, if_neg noQuote, read]
  rfl

/-- The lexer reads the lexeme that the rules pick, unless that is a number with
too many digits. -/
theorem lexeme_of_picked {lexeme : Lexeme} (picked : Picked lexeme rest)
    (ahead : cursor.ahead = lexeme.text ++ rest) : cursor.lexeme = cursor.reading lexeme := by
  cases picked with
  | endOfLine =>
      rw [reading_of_kind (by decide), Cursor.lexeme, ahead]
      rfl
  | @comment inside _ run =>
      have whole : LongestRun staysInLine ('/' :: '/' :: inside) rest := by
        refine ⟨?_, run.ends⟩
        intro character member
        simp only [List.mem_cons] at member
        obtain rfl | rfl | inner := member
        · rfl
        · rfl
        · exact run.all character inner
      rw [reading_of_kind (by decide), Cursor.lexeme, ahead]
      dsimp only [List.cons_append]
      rw [comment_of_run whole ahead]
      rfl
  | @number digits _ nonempty run =>
      obtain ⟨first, later, rfl⟩ := List.exists_cons_of_ne_nil nonempty
      have digit := run.all first List.mem_cons_self
      have notEnd : first ≠ '\n' := by
        rintro rfl
        exact absurd digit (by decide)
      have notSlash : first ≠ '/' := by
        rintro rfl
        exact absurd digit (by decide)
      rw [lexeme_of_cons ahead notEnd (fun slash => absurd slash notSlash), if_pos digit]
      exact number_of_run nonempty run ahead
  | keyword word known =>
      rw [reading_of_kind (kind_of_keyword? known).1, lexeme_of_word word ahead, classifyWord,
        known]
      rfl
  | identifier word unknown =>
      rw [reading_of_kind (by decide), lexeme_of_word word ahead, classifyWord, unknown]
      rfl
  | string unquoted =>
      rw [reading_of_kind (by decide),
        lexeme_of_cons ahead (by decide) (fun same => absurd same (by decide)),
        string_of_unquoted unquoted ahead]
      rfl
  | longOperator known =>
      rw [reading_of_kind (kind_of_longOperator? known).1]
      refine lexeme_of_operator? (isSymbol_of_longOperator? known).1 ahead ?_
        (operator?_of_longOperator? known ahead)
      rintro rfl
      simp [longOperator?] at known
  | shortOperator known alone noComment =>
      rw [reading_of_kind (kind_of_shortOperator? known).1]
      exact lexeme_of_operator? (isSymbol_of_shortOperator? known) ahead
        (fun slash next => noComment slash _ next rfl)
        (operator?_of_shortOperator? known alone ahead)

end Picked

section Stuck

variable {cursor : Cursor} {error : Location → LexicalError}

theorem lexeme_of_stuck (stuck : Stuck cursor.ahead error) :
    cursor.lexeme.1 = .error (error cursor.location) := by
  generalize shown : cursor.ahead = text at stuck
  cases stuck with
  | @openString inside unquoted =>
      have run : LongestRun (· != '"') inside [] :=
        longestRun_of_unquoted unquoted fun _ next => absurd next (by simp)
      have taken : (cursor.ahead.drop 1).takeWhile (· != '"') = inside := by
        rw [shown]
        simpa using run.takeWhile_eq
      have reached : ((cursor.skip 1).pass inside).ahead = [] := by simp [skip, pass, shown]
      have read : cursor.string =
          (.error (.unterminatedString cursor.location), (cursor.skip 1).pass inside) := by
        unfold string
        rw [taken]
        dsimp only
        rw [reached]
      rw [lexeme_of_cons shown (by decide) (fun same => absurd same (by decide)), read]
      rfl
  | @unrecognized character later visible noDigit noWord noQuote short long =>
      have notEnd : character ≠ '\n' := by
        rintro rfl
        exact absurd visible (by decide)
      have notSlash : character ≠ '/' := by
        rintro rfl
        exact absurd short (by decide)
      have none : cursor.operator? = none := by
        unfold operator?
        rw [shown]
        cases later with
        | nil => simp [operatorAt?, short]
        | cons next others => simp [operatorAt?, short, long next rfl]
      rw [lexeme_of_cons shown notEnd (fun slash => absurd slash notSlash), noDigit, noWord,
        if_neg noQuote, none]
      rfl

end Stuck

section Gap

variable {cursor : Cursor} {character : Char} {gap text rest : List Char}

theorem gap_cons {later : List Char} (alone : character = '\r' → later.head? ≠ some '\n') :
    Cursor.gap (character :: later) =
      if Text.isBlank character && character != '\n' then character :: Cursor.gap later
      else [] := by
  rw [Cursor.gap]
  intro others same rest
  exact alone same (by rw [rest, List.head?_cons])

theorem gap_cons_of_visible (visible : Text.isBlank character = false) :
    Cursor.gap (character :: rest) = [] := by
  have notReturn : character ≠ '\r' := by
    rintro rfl
    exact absurd visible (by decide)
  rw [gap_cons fun same => absurd same notReturn, visible]
  rfl

/-- A gap is passed as a whole if no more of it follows. -/
theorem gap_append (between : Gap gap rest) (closed : Cursor.gap rest = []) :
    Cursor.gap (gap ++ rest) = gap := by
  induction between with
  | nil => exact closed
  | @blank character gap rest blank inLine later induction =>
      have apart : character ≠ '\r' ∧ (character != '\n') = true := by
        simpa [staysInLine] using inLine
      rw [List.cons_append, gap_cons (fun same => absurd same apart.1), blank, apart.2,
        induction closed]
      rfl
  | lineBreak later induction =>
      rw [List.cons_append, List.cons_append, Cursor.gap, induction closed]
  | carriageReturn alone later induction =>
      rw [List.cons_append, gap_cons (fun _ => alone), induction closed]
      rfl

theorem exists_gap (text : List Char) :
    ∃ gap rest, text = gap ++ rest ∧ Gap gap rest ∧ Cursor.gap rest = [] := by
  fun_induction Cursor.gap text with
  | case1 => exact ⟨[], [], rfl, .nil, rfl⟩
  | case2 later induction =>
      obtain ⟨gap, rest, rfl, between, closed⟩ := induction
      exact ⟨'\r' :: '\n' :: gap, rest, rfl, .lineBreak between, closed⟩
  | case3 character later alone blank induction =>
      obtain ⟨gap, rest, rfl, between, closed⟩ := induction
      obtain ⟨blank, notFeed⟩ := (Bool.and_eq_true _ _).mp blank
      refine ⟨character :: gap, rest, rfl, ?_, closed⟩
      by_cases carriage : character = '\r'
      · subst carriage
        apply Gap.carriageReturn _ between
        intro feed
        obtain ⟨others, same⟩ := List.head?_eq_some_iff.mp feed
        exact alone others rfl same
      · exact .blank blank (by simp [staysInLine, carriage, bne_iff_ne.mp notFeed]) between
  | case4 character later alone other =>
      have apart : character = '\r' → later.head? ≠ some '\n' := by
        intro same feed
        obtain ⟨others, rfl⟩ := List.head?_eq_some_iff.mp feed
        exact alone others same rfl
      exact ⟨[], character :: later, rfl, .nil, by rw [gap_cons apart, if_neg other]⟩

/-- A lexeme is a line end or starts with a character that is no blank. -/
theorem exists_visible_of_picked {lexeme : Lexeme} (picked : Picked lexeme rest) :
    lexeme = ⟨.endOfLine, ['\n'], none⟩ ∨
      ∃ first later, lexeme.text = first :: later ∧ Text.isBlank first = false := by
  cases picked with
  | endOfLine => exact .inl rfl
  | comment run => exact .inr ⟨'/', _, rfl, by decide⟩
  | @number digits _ nonempty run =>
      obtain ⟨first, later, rfl⟩ := List.exists_cons_of_ne_nil nonempty
      exact .inr ⟨first, later, rfl, not_isBlank_of_isDigit (run.all first List.mem_cons_self)⟩
  | keyword word _ | identifier word _ =>
      obtain ⟨first, later, rfl, starts⟩ := word.starts
      exact .inr ⟨first, later, rfl,
        not_isBlank_of_isWordCharacter (isWordCharacter_of_startsWord starts)⟩
  | string unquoted => exact .inr ⟨'"', _, rfl, by decide⟩
  | longOperator known =>
      exact .inr ⟨_, _, rfl, not_isBlank_of_isSymbol (isSymbol_of_longOperator? known).1⟩
  | shortOperator known _ _ =>
      exact .inr ⟨_, _, rfl, not_isBlank_of_isSymbol (isSymbol_of_shortOperator? known)⟩

theorem gap_of_picked {lexeme : Lexeme} (picked : Picked lexeme rest) :
    Cursor.gap (lexeme.text ++ rest) = [] := by
  obtain rfl | ⟨first, later, starts, visible⟩ := exists_visible_of_picked picked
  · rfl
  · rw [starts]
    exact gap_cons_of_visible visible

theorem next_of_gap (between : Gap cursor.ahead []) :
    cursor.next =
      (.ok (Lexeme.endOfInput.token (cursor.pass cursor.ahead).location),
        cursor.pass cursor.ahead) := by
  have gap_eq : Cursor.gap cursor.ahead = cursor.ahead := by
    simpa using gap_append between rfl
  have arrived : (cursor.pass cursor.ahead).ahead = [] := by simp [pass]
  rw [next, gap_eq, lexeme, arrived]
  rfl

theorem next_of_picked {lexeme : Lexeme} (between : Gap gap (lexeme.text ++ rest))
    (picked : Picked lexeme rest) (ahead : cursor.ahead = gap ++ (lexeme.text ++ rest)) :
    cursor.next = (cursor.pass gap).reading lexeme := by
  have gap_eq : Cursor.gap cursor.ahead = gap := by
    rw [ahead, gap_append between (gap_of_picked picked)]
  have arrived : (cursor.pass gap).ahead = lexeme.text ++ rest := by simp [pass, ahead]
  rw [next, gap_eq, lexeme_of_picked picked arrived]

theorem next_of_stuck {error : Location → LexicalError} (between : Gap gap text)
    (stuck : Stuck text error) (ahead : cursor.ahead = gap ++ text) :
    cursor.next.1 = .error (error (cursor.pass gap).location) := by
  have closed : Cursor.gap text = [] := by
    cases stuck with
    | openString unquoted => exact gap_cons_of_visible (by decide)
    | unrecognized visible _ _ _ _ _ => exact gap_cons_of_visible visible
  have gap_eq : Cursor.gap cursor.ahead = gap := by rw [ahead, gap_append between closed]
  have arrived : (cursor.pass gap).ahead = text := by simp [pass, ahead]
  rw [next, gap_eq, lexeme_of_stuck (by rw [arrived]; exact stuck)]

end Gap

section Rules

variable {first : Char} {later text : List Char}

theorem not_isBlank_of_gap (closed : Cursor.gap (first :: later) = []) (notFeed : first ≠ '\n') :
    Text.isBlank first = false := by
  apply Bool.eq_false_iff.mpr
  intro blank
  by_cases lineBreak : first = '\r' ∧ later.head? = some '\n'
  · obtain ⟨rfl, feed⟩ := lineBreak
    obtain ⟨others, rfl⟩ := List.head?_eq_some_iff.mp feed
    cases closed
  · have passed : (Text.isBlank first && first != '\n') = true := by simp [blank, notFeed]
    rw [gap_cons fun same feed => lineBreak ⟨same, feed⟩, if_pos passed] at closed
    cases closed

theorem exists_number (digit : Text.isDigit first = true) :
    ∃ lexeme rest, first :: later = lexeme.text ++ rest ∧ Picked lexeme rest := by
  have nonempty : (first :: later).takeWhile Text.isDigit ≠ [] := by
    rw [List.takeWhile_cons, if_pos digit]
    exact List.cons_ne_nil _ _
  exact ⟨_, _, List.takeWhile_append_dropWhile.symm,
    .number nonempty (longestRun_takeWhile Text.isDigit (first :: later))⟩

theorem exists_word (starts : startsWord first = true) :
    ∃ lexeme rest, first :: later = lexeme.text ++ rest ∧ Picked lexeme rest := by
  have word : Word ((first :: later).takeWhile isWordCharacter)
      ((first :: later).dropWhile isWordCharacter) := by
    refine ⟨⟨first, later.takeWhile isWordCharacter, ?_, starts⟩, longestRun_takeWhile _ _⟩
    rw [List.takeWhile_cons, if_pos (isWordCharacter_of_startsWord starts)]
  cases known : keyword? (String.ofList
      (Text.foldCase ((first :: later).takeWhile isWordCharacter))) with
  | none => exact ⟨_, _, List.takeWhile_append_dropWhile.symm, .identifier word known⟩
  | some meaning => exact ⟨_, _, List.takeWhile_append_dropWhile.symm, .keyword word known⟩

theorem exists_string_or_stuck (later : List Char) :
    (∃ lexeme rest, '"' :: later = lexeme.text ++ rest ∧ Picked lexeme rest) ∨
      ∃ error, Stuck ('"' :: later) error := by
  by_cases quoted : '"' ∈ later
  · obtain ⟨inside, rest, rfl, unquoted⟩ := List.eq_append_cons_of_mem quoted
    exact .inl ⟨_, rest, by simp, .string unquoted⟩
  · exact .inr ⟨_, .openString quoted⟩

theorem exists_operator_or_stuck (visible : Text.isBlank first = false)
    (noDigit : Text.isDigit first = false) (noWord : startsWord first = false)
    (noQuote : first ≠ '"') (noComment : first = '/' → later.head? ≠ some '/') :
    (∃ lexeme rest, first :: later = lexeme.text ++ rest ∧ Picked lexeme rest) ∨
      ∃ error, Stuck (first :: later) error := by
  -- The operator of two characters comes first, if there is one.
  by_cases long : ∀ next ∈ later.head?, longOperator? first next = none
  · cases known : shortOperator? first with
    | none => exact .inr ⟨_, .unrecognized visible noDigit noWord noQuote known long⟩
    | some kind =>
        refine .inl ⟨_, later, rfl, .shortOperator known long ?_⟩
        rintro slash next member rfl
        exact noComment slash member
  · simp only [not_forall] at long
    obtain ⟨next, member, found⟩ := long
    obtain ⟨others, rfl⟩ := List.head?_eq_some_iff.mp member
    obtain ⟨kind, known⟩ := Option.ne_none_iff_exists'.mp found
    exact .inl ⟨_, others, rfl, .longOperator known⟩

/-- Where no gap is to be passed, there is a lexeme unless the lexer is stuck. -/
theorem exists_picked_or_stuck (closed : Cursor.gap (first :: later) = []) :
    (∃ lexeme rest, first :: later = lexeme.text ++ rest ∧ Picked lexeme rest) ∨
      ∃ error, Stuck (first :: later) error := by
  by_cases feed : first = '\n'
  · subst feed
    exact .inl ⟨_, later, rfl, .endOfLine⟩
  by_cases digit : Text.isDigit first = true
  · exact .inl (exists_number digit)
  by_cases word : startsWord first = true
  · exact .inl (exists_word word)
  by_cases quote : first = '"'
  · subst quote
    exact exists_string_or_stuck later
  by_cases comment : first = '/' ∧ later.head? = some '/'
  · obtain ⟨rfl, slash⟩ := comment
    obtain ⟨others, rfl⟩ := List.head?_eq_some_iff.mp slash
    refine .inl ⟨_, others.dropWhile staysInLine, ?_, .comment (longestRun_takeWhile _ others)⟩
    rw [List.cons_append, List.cons_append, List.takeWhile_append_dropWhile]
  · exact exists_operator_or_stuck (not_isBlank_of_gap closed feed) (Bool.eq_false_iff.mpr digit)
      (Bool.eq_false_iff.mpr word) quote fun slash next => comment ⟨slash, next⟩

/-- What a text starts with behind its first gap: nothing, a lexeme, or what no
rule covers. -/
theorem start_cases (text : List Char) :
    Gap text [] ∨
      (∃ gap lexeme rest, text = gap ++ (lexeme.text ++ rest) ∧ Gap gap (lexeme.text ++ rest) ∧
        Picked lexeme rest) ∨
      ∃ gap rest error, text = gap ++ rest ∧ Gap gap rest ∧ Stuck rest error := by
  obtain ⟨gap, rest, rfl, between, closed⟩ := exists_gap text
  cases rest with
  | nil => exact .inl (by rw [List.append_nil]; exact between)
  | cons first later =>
      cases exists_picked_or_stuck closed with
      | inl found =>
          obtain ⟨lexeme, rest, same, picked⟩ := found
          rw [same] at between ⊢
          exact .inr (.inl ⟨gap, lexeme, rest, rfl, between, picked⟩)
      | inr stuck =>
          obtain ⟨error, stuck⟩ := stuck
          exact .inr (.inr ⟨gap, first :: later, error, rfl, between, stuck⟩)

end Rules

end Cursor
end PixelBrush
