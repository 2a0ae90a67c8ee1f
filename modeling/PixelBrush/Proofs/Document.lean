import PixelBrush.Proofs.Display

/-! # Printed documents

A printed document is made of rows.  How far a row is indented tells to which part of
the document it belongs, so that the document can be told from its rows: the names of its
fields, the texts of its scalars, and how all of them are nested.
-/

namespace PixelBrush

namespace Text

/-- The rows of a text, between its line feeds. -/
def rows (text : String) : List (List Char) :=
  text.toList.splitOn '\n'

theorem rows_of_isLine {text : String} (line : IsLine text) : rows text = [text.toList] :=
  List.splitOn_eq_singleton line

/-- Some rows, or an empty one if there are none. -/
def orEmptyRow : List (List Char) → List (List Char)
  | [] => [[]]
  | row :: later => row :: later

theorem orEmptyRow_of_ne_nil {rows : List (List Char)} (filled : rows ≠ []) :
    orEmptyRow rows = rows := by
  cases rows with
  | nil => exact absurd rfl filled
  | cons row later => rfl

theorem flatMap_rows_ne_nil (piece : String) (others : List String) :
    (piece :: others).flatMap rows ≠ [] := by
  rw [List.flatMap_cons]
  exact List.append_ne_nil_of_left_ne_nil (List.splitOn_ne_nil _ _) _

theorem rows_intercalate (pieces : List String) :
    rows ("\n".intercalate pieces) = orEmptyRow (pieces.flatMap rows) := by
  induction pieces with
  | nil => rfl
  | cons piece others induction =>
      rw [orEmptyRow_of_ne_nil (flatMap_rows_ne_nil piece others), List.flatMap_cons]
      cases others with
      | nil => rw [String.intercalate_singleton, List.flatMap_nil, List.append_nil]
      | cons next later =>
          rw [orEmptyRow_of_ne_nil (flatMap_rows_ne_nil next later)] at induction
          rw [← induction, String.intercalate_cons_cons]
          unfold rows
          rw [String.toList_append, String.toList_append, List.append_assoc]
          exact List.splitOn_append_cons_self _ _

end Text

/-- A payload as plain text, however many digits it has. -/
def Payload.shown : Payload → String
  | none => "None"
  | some (.boolean true) => "True"
  | some (.boolean false) => "False"
  | some (.number value) => toString value
  | some (.string text) => text

theorem Payload.eq_shown {payload : Payload} {text : String}
    (plain : payload.plain? = some text) : text = payload.shown := by
  cases payload with
  | none => exact (Option.some.inj plain).symm
  | some value =>
      cases value with
      | number value =>
          simp only [Payload.plain?, Text.decimal?] at plain
          split at plain
          · exact (Option.some.inj plain).symm
          · cases plain
      | boolean truth => cases truth <;> exact (Option.some.inj plain).symm
      | string text => exact (Option.some.inj plain).symm

namespace Document

/-! ### The rows of a document -/

/-- A row that starts at a level of indentation. -/
def row (level : Nat) (content : List Char) : List Char :=
  List.replicate (2 * level) ' ' ++ content

/-- What the row of a field holds: its name, and what stands behind it. -/
def heading (name : String) (behind : List Char) : List Char :=
  name.toList ++ ':' :: behind

open Text (orEmptyRow) in
mutual

/-- The rows of a document at a level of indentation. -/
def rows (level : Nat) : Document → List (List Char)
  | scalar payload => [row level payload.shown.toList]
  | list items => orEmptyRow (itemRows level items)
  | fields entries => orEmptyRow (fieldRows level entries)

/-- The rows of the items of a list. -/
def itemRows (level : Nat) : List Document → List (List Char)
  | [] => []
  | item :: later => row level ['-'] :: (rows (level + 1) item ++ itemRows level later)

/-- The rows of fields. -/
def fieldRows (level : Nat) : List (String × Document) → List (List Char)
  | [] => []
  | (name, scalar payload) :: later =>
      row level (heading name (' ' :: payload.shown.toList)) :: fieldRows level later
  | (name, document) :: later =>
      row level (heading name []) :: (rows (level + 1) document ++ fieldRows level later)

end

/-- A name that can be told from a dash, from an indentation, and from what stands behind
it. -/
structure IsFieldName (name : String) : Prop where
  line : Text.IsLine name
  undivided : ':' ∉ name.toList
  visible : ∃ first later, name.toList = first :: later ∧ first ≠ ' ' ∧ first ≠ '-'

theorem isFieldName_of_isLower {name : String}
    (letters : name.toList ≠ [] ∧ name.toList.all Char.isLower = true) : IsFieldName name where
  line := fun member => absurd (List.all_eq_true.mp letters.2 _ member) (by decide)
  undivided := fun member => absurd (List.all_eq_true.mp letters.2 _ member) (by decide)
  visible := by
    obtain ⟨first, later, spelled⟩ := List.exists_cons_of_ne_nil letters.1
    have small : first.isLower = true :=
      List.all_eq_true.mp letters.2 first (spelled ▸ List.mem_cons_self)
    refine ⟨first, later, spelled, ?_, ?_⟩
    · rintro rfl
      exact absurd small (by decide)
    · rintro rfl
      exact absurd small (by decide)

mutual

/-- Documents that are laid out over rows, with a scalar behind the name of a field only. -/
inductive IsOrderly : Document → Prop
  | list {items : List Document} (each : ∀ item ∈ items, IsOrderly item) :
      IsOrderly (list items)
  | fields {entries : List (String × Document)} (filled : entries ≠ [])
      (each : ∀ entry ∈ entries, IsOrderlyField entry) : IsOrderly (fields entries)

/-- Fields of such documents: a scalar on one line, or an orderly document. -/
inductive IsOrderlyField : String × Document → Prop
  | scalar {name : String} {payload : Payload} (isName : IsFieldName name)
      (line : Text.IsLine payload.shown) : IsOrderlyField (name, scalar payload)
  | nested {name : String} {document : Document} (isName : IsFieldName name)
      (orderly : IsOrderly document) : IsOrderlyField (name, document)

end

theorem IsOrderly.ne_scalar {document : Document} (orderly : document.IsOrderly)
    (payload : Payload) : document ≠ scalar payload := by
  cases orderly <;> exact Document.noConfusion

theorem fieldRows_cons_of_isOrderly (level : Nat) (name : String) {document : Document}
    (orderly : document.IsOrderly) (later : List (String × Document)) :
    fieldRows level ((name, document) :: later) =
      row level (heading name []) :: (rows (level + 1) document ++ fieldRows level later) := by
  rw [fieldRows]
  exact orderly.ne_scalar

theorem rows_indentation {content : String} (line : Text.IsLine content) (level : Nat) :
    Text.rows (indentation level ++ content) = [row level content.toList] := by
  have indented : Text.IsLine (indentation level) := by
    simp [Text.IsLine, indentation]
  rw [Text.rows_of_isLine (Text.isLine_append.mpr ⟨indented, line⟩)]
  simp [row, indentation]

mutual

/-- Printing a document gives its rows. -/
theorem rows_of_lines? : ∀ (document : Document) (level : Nat) {lines : List String},
    document.IsOrderly → lines? level document = some lines →
      Text.rows ("\n".intercalate lines) = rows level document
  | list items, level, lines, .list each, shown => by
      rw [lines?] at shown
      rw [Text.rows_intercalate, flatMap_of_itemLines? items level each shown, rows]
  | fields entries, level, lines, .fields _ each, shown => by
      rw [lines?] at shown
      rw [Text.rows_intercalate, flatMap_of_fieldLines? entries level each shown, rows]

theorem flatMap_of_itemLines? : ∀ (items : List Document) (level : Nat) {lines : List String},
    (∀ item ∈ items, item.IsOrderly) → itemLines? level items = some lines →
      lines.flatMap Text.rows = itemRows level items
  | [], level, lines, _, shown => by
      rw [itemLines?] at shown
      cases shown
      rfl
  | item :: later, level, lines, orderly, shown => by
      rw [List.forall_mem_cons] at orderly
      rw [itemLines?] at shown
      obtain ⟨below, shownBelow, shown⟩ := exists_of_bind_some shown
      obtain ⟨others, shownLater, shown⟩ := exists_of_bind_some shown
      cases shown
      rw [List.flatMap_cons, List.flatMap_cons, rows_indentation (by decide),
        rows_of_lines? item (level + 1) orderly.1 shownBelow,
        flatMap_of_itemLines? later level orderly.2 shownLater, itemRows]
      rfl

theorem flatMap_of_fieldLines? : ∀ (entries : List (String × Document)) (level : Nat)
    {lines : List String}, (∀ entry ∈ entries, IsOrderlyField entry) →
      fieldLines? level entries = some lines →
        lines.flatMap Text.rows = fieldRows level entries
  | [], level, lines, _, shown => by
      rw [fieldLines?] at shown
      cases shown
      rfl
  | (name, document) :: later, level, lines, orderly, shown => by
      rw [List.forall_mem_cons] at orderly
      cases orderly.1 with
      | @scalar _ payload isName line =>
          rw [fieldLines?] at shown
          obtain ⟨text, plain, shown⟩ := exists_of_bind_some shown
          obtain ⟨others, shownLater, shown⟩ := exists_of_bind_some shown
          cases shown
          obtain rfl := Payload.eq_shown plain
          have whole : Text.IsLine (name ++ (": " ++ payload.shown)) :=
            Text.isLine_append.mpr ⟨isName.line, Text.isLine_append.mpr ⟨by decide, line⟩⟩
          rw [List.flatMap_cons, String.append_assoc, String.append_assoc,
            rows_indentation whole, flatMap_of_fieldLines? later level orderly.2 shownLater,
            fieldRows]
          simp [heading]
      | nested isName below =>
          rw [fieldLines?] at shown
          · obtain ⟨lines, shownBelow, shown⟩ := exists_of_bind_some shown
            obtain ⟨others, shownLater, shown⟩ := exists_of_bind_some shown
            cases shown
            have whole : Text.IsLine (name ++ ":") :=
              Text.isLine_append.mpr ⟨isName.line, by decide⟩
            rw [List.flatMap_cons, List.flatMap_cons, String.append_assoc,
              rows_indentation whole, rows_of_lines? document (level + 1) below shownBelow,
              flatMap_of_fieldLines? later level orderly.2 shownLater,
              fieldRows_cons_of_isOrderly level name below]
            simp [heading]
          · exact below.ne_scalar

end

/-- The rows of a printed document. -/
theorem rows_of_print? {document : Document} {text : String} (orderly : document.IsOrderly)
    (printed : document.print? 0 = some text) : Text.rows text = rows 0 document := by
  obtain ⟨lines, shown, rfl⟩ := Option.map_eq_some_iff.mp printed
  exact rows_of_lines? document 0 orderly shown

/-! ### Telling a document from its rows -/

/-- How far a row is indented. -/
def margin (row : List Char) : Nat :=
  (row.takeWhile (· == ' ')).length

theorem margin_row (level : Nat) {first : Char} (visible : first ≠ ' ') (later : List Char) :
    margin (row level (first :: later)) = 2 * level := by
  unfold margin row
  rw [List.takeWhile_append_of_pos (by simp), List.takeWhile_cons_of_neg (by simpa using visible)]
  simp

theorem eq_of_row_eq {level : Nat} {content other : List Char}
    (same : row level content = row level other) : content = other :=
  List.append_cancel_left same

theorem row_cons_ne_nil (level : Nat) (first : Char) (later : List Char) :
    row level (first :: later) ≠ [] :=
  List.append_ne_nil_of_right_ne_nil _ (List.cons_ne_nil _ _)

/-- The empty row that stands for nothing cannot be taken for the first of some rows. -/
theorem eq_of_orEmptyRow_append {first second rest other : List (List Char)}
    (filled : [] ∉ first.head?) (full : [] ∉ second.head?)
    (same : Text.orEmptyRow first ++ rest = Text.orEmptyRow second ++ other) :
    first ++ rest = second ++ other := by
  cases first with
  | nil =>
      cases second with
      | nil => exact (List.cons.inj same).2
      | cons row later =>
          obtain rfl := (List.cons.inj same).1
          exact absurd rfl full
  | cons row later =>
      cases second with
      | nil =>
          obtain rfl := (List.cons.inj same).1
          exact absurd rfl filled
      | cons next others => exact same

/-- Whether the first of some rows, if there is one, is not indented as far as a level. -/
def Outside (level : Nat) (rest : List (List Char)) : Prop :=
  ∀ first ∈ rest.head?, margin first < 2 * level

theorem Outside.succ {level : Nat} {rest : List (List Char)} (outside : Outside level rest) :
    Outside (level + 1) rest := by
  intro first member
  have := outside first member
  omega

theorem outside_cons_row (level : Nat) {first : Char} (visible : first ≠ ' ')
    (later : List Char) (rest : List (List Char)) :
    Outside (level + 1) (row level (first :: later) :: rest) := by
  intro head member
  cases member
  rw [margin_row level visible]
  omega

theorem not_outside_cons_row (level : Nat) {first : Char} (visible : first ≠ ' ')
    (later : List Char) (rest : List (List Char)) :
    ¬ Outside level (row level (first :: later) :: rest) := by
  intro outside
  have := outside _ rfl
  rw [margin_row level visible] at this
  omega

theorem IsFieldName.heading_inj {name other : String} {behind behindOther : List Char}
    (isName : IsFieldName name) (isOther : IsFieldName other)
    (same : heading name behind = heading other behindOther) :
    name = other ∧ behind = behindOther := by
  have pieces := congrArg (List.splitOn ':') same
  unfold heading at pieces same
  rw [List.splitOn_append_cons_self_of_not_mem isName.undivided,
    List.splitOn_append_cons_self_of_not_mem isOther.undivided] at pieces
  obtain rfl := String.toList_inj.mp (List.cons.inj pieces).1
  exact ⟨rfl, (List.cons.inj (List.append_cancel_left same)).2⟩

theorem IsFieldName.exists_heading {name : String} (isName : IsFieldName name)
    (behind : List Char) :
    ∃ first later, heading name behind = first :: later ∧ first ≠ ' ' ∧ first ≠ '-' := by
  obtain ⟨first, later, spelled, visible, undashed⟩ := isName.visible
  exact ⟨first, later ++ ':' :: behind, by rw [heading, spelled, List.cons_append], visible,
    undashed⟩

/-- Fields start with a row of their level, which is not that of an item. -/
theorem exists_fieldRows (level : Nat) {entry : String × Document}
    (orderly : IsOrderlyField entry) (later : List (String × Document)) :
    ∃ first content below,
      fieldRows level (entry :: later) = row level (first :: content) :: below ∧
        first ≠ ' ' ∧ first ≠ '-' := by
  cases orderly with
  | @scalar name payload isName line =>
      obtain ⟨first, content, spelled, visible, undashed⟩ :=
        isName.exists_heading (' ' :: payload.shown.toList)
      exact ⟨first, content, _, by rw [fieldRows, spelled], visible, undashed⟩
  | @nested name document isName below =>
      obtain ⟨first, content, spelled, visible, undashed⟩ := isName.exists_heading []
      exact ⟨first, content, _, by rw [fieldRows_cons_of_isOrderly level name below, spelled],
        visible, undashed⟩

theorem Outside.itemRows_append {level : Nat} {rest : List (List Char)}
    (outside : Outside level rest) (items : List Document) :
    Outside (level + 1) (itemRows level items ++ rest) := by
  cases items with
  | nil => exact outside.succ
  | cons item later => exact outside_cons_row level (by decide) [] _

theorem Outside.fieldRows_append {level : Nat} {rest : List (List Char)}
    (outside : Outside level rest) {entries : List (String × Document)}
    (orderly : ∀ entry ∈ entries, IsOrderlyField entry) :
    Outside (level + 1) (fieldRows level entries ++ rest) := by
  cases entries with
  | nil => exact outside.succ
  | cons entry later =>
      obtain ⟨first, content, below, rows, visible, -⟩ :=
        exists_fieldRows level (orderly entry List.mem_cons_self) later
      rw [rows]
      exact outside_cons_row level visible content _

mutual

/-- A document with each scalar as the text that it is shown as. -/
def written : Document → Document
  | scalar payload => scalar (some (.string payload.shown))
  | list items => list (writtenItems items)
  | fields entries => fields (writtenFields entries)

def writtenItems : List Document → List Document
  | [] => []
  | item :: later => item.written :: writtenItems later

def writtenFields : List (String × Document) → List (String × Document)
  | [] => []
  | (name, document) :: later => (name, document.written) :: writtenFields later

end

theorem nil_not_mem_head?_itemRows (level : Nat) (items : List Document) :
    [] ∉ (itemRows level items).head? := by
  cases items with
  | nil => exact Option.not_mem_none _
  | cons item later => exact fun same => row_cons_ne_nil level '-' [] (Option.some.inj same)

theorem nil_not_mem_head?_fieldRows (level : Nat) {entries : List (String × Document)}
    (orderly : ∀ entry ∈ entries, IsOrderlyField entry) :
    [] ∉ (fieldRows level entries).head? := by
  cases entries with
  | nil => exact Option.not_mem_none _
  | cons entry later =>
      obtain ⟨first, content, below, rows, -, -⟩ :=
        exists_fieldRows level (orderly entry List.mem_cons_self) later
      rw [rows]
      exact fun same => row_cons_ne_nil level first content (Option.some.inj same)

theorem Outside.ne_itemRows_append {level : Nat} {rest : List (List Char)}
    (outside : Outside level rest) (item : Document) (later : List Document)
    (other : List (List Char)) : rest ≠ itemRows level (item :: later) ++ other := by
  rintro rfl
  exact not_outside_cons_row level (by decide) [] _ outside

theorem Outside.ne_fieldRows_append {level : Nat} {rest : List (List Char)}
    (outside : Outside level rest) {entry : String × Document} {later : List (String × Document)}
    (orderly : IsOrderlyField entry) (other : List (List Char)) :
    rest ≠ fieldRows level (entry :: later) ++ other := by
  rintro rfl
  obtain ⟨first, content, below, rows, visible, -⟩ := exists_fieldRows level orderly later
  rw [rows] at outside
  exact not_outside_cons_row level visible content _ outside

/-- Rows of items and rows of fields are different, whatever follows them. -/
theorem itemRows_append_ne_fieldRows_append {level : Nat} {rest : List (List Char)}
    (outside : Outside level rest) (items : List Document) {entries : List (String × Document)}
    (filled : entries ≠ []) (orderly : ∀ entry ∈ entries, IsOrderlyField entry)
    (other : List (List Char)) :
    itemRows level items ++ rest ≠ fieldRows level entries ++ other := by
  intro same
  cases entries with
  | nil => exact filled rfl
  | cons entry later =>
      cases items with
      | nil => exact outside.ne_fieldRows_append (orderly entry List.mem_cons_self) other same
      | cons item others =>
          obtain ⟨first, content, below, rows, -, undashed⟩ :=
            exists_fieldRows level (orderly entry List.mem_cons_self) later
          rw [rows] at same
          have headed := eq_of_row_eq (List.cons.inj same).1
          exact undashed (List.cons.inj headed).1.symm

mutual

/-- The rows of a document, with others behind them that are not indented as far, tell
what is written in the document and where it ends. -/
theorem written_eq_of_rows : ∀ (first second : Document) {level : Nat}
    {rest other : List (List Char)}, first.IsOrderly → second.IsOrderly →
      Outside level rest → Outside level other →
        rows level first ++ rest = rows level second ++ other →
          first.written = second.written ∧ rest = other
  | list items, list others, level, rest, other, .list each, .list all, outside, beyond, same => by
      have rowsSame := eq_of_orEmptyRow_append (nil_not_mem_head?_itemRows level items)
        (nil_not_mem_head?_itemRows level others) same
      obtain ⟨itemsSame, ended⟩ :=
        writtenItems_eq_of_rows items others each all outside beyond rowsSame
      exact ⟨congrArg list itemsSame, ended⟩
  | fields entries, fields others, level, rest, other, .fields _ each, .fields _ all, outside,
      beyond, same => by
      have rowsSame := eq_of_orEmptyRow_append (nil_not_mem_head?_fieldRows level each)
        (nil_not_mem_head?_fieldRows level all) same
      obtain ⟨entriesSame, ended⟩ :=
        writtenFields_eq_of_rows entries others each all outside beyond rowsSame
      exact ⟨congrArg fields entriesSame, ended⟩
  | list items, fields entries, level, rest, other, _, .fields filled all, outside, _, same => by
      have rowsSame := eq_of_orEmptyRow_append (nil_not_mem_head?_itemRows level items)
        (nil_not_mem_head?_fieldRows level all) same
      exact absurd rowsSame (itemRows_append_ne_fieldRows_append outside items filled all other)
  | fields entries, list items, level, rest, other, .fields filled each, _, _, beyond, same => by
      have rowsSame := eq_of_orEmptyRow_append (nil_not_mem_head?_fieldRows level each)
        (nil_not_mem_head?_itemRows level items) same
      exact absurd rowsSame.symm
        (itemRows_append_ne_fieldRows_append beyond items filled each rest)

theorem writtenItems_eq_of_rows : ∀ (items others : List Document) {level : Nat}
    {rest other : List (List Char)}, (∀ item ∈ items, item.IsOrderly) →
      (∀ item ∈ others, item.IsOrderly) → Outside level rest → Outside level other →
        itemRows level items ++ rest = itemRows level others ++ other →
          writtenItems items = writtenItems others ∧ rest = other
  | [], [], _, _, _, _, _, _, _, same => ⟨rfl, same⟩
  | [], next :: others, _, _, other, _, _, outside, _, same =>
      absurd same (outside.ne_itemRows_append next others other)
  | item :: later, [], _, rest, _, _, _, _, beyond, same =>
      absurd same.symm (beyond.ne_itemRows_append item later rest)
  | item :: later, next :: others, level, rest, other, each, all, outside, beyond, same => by
      rw [List.forall_mem_cons] at each all
      rw [itemRows, itemRows, List.cons_append, List.cons_append, List.append_assoc,
        List.append_assoc] at same
      obtain ⟨itemSame, behind⟩ := written_eq_of_rows item next each.1 all.1
        (outside.itemRows_append later) (beyond.itemRows_append others) (List.cons.inj same).2
      obtain ⟨laterSame, ended⟩ := writtenItems_eq_of_rows later others each.2 all.2 outside beyond
        behind
      exact ⟨by rw [writtenItems, writtenItems, itemSame, laterSame], ended⟩

theorem writtenFields_eq_of_rows : ∀ (entries others : List (String × Document)) {level : Nat}
    {rest other : List (List Char)}, (∀ entry ∈ entries, IsOrderlyField entry) →
      (∀ entry ∈ others, IsOrderlyField entry) → Outside level rest → Outside level other →
        fieldRows level entries ++ rest = fieldRows level others ++ other →
          writtenFields entries = writtenFields others ∧ rest = other
  | [], [], _, _, _, _, _, _, _, same => ⟨rfl, same⟩
  | [], next :: others, _, _, other, _, all, outside, _, same =>
      absurd same (outside.ne_fieldRows_append (all next List.mem_cons_self) other)
  | entry :: later, [], _, rest, _, each, _, _, beyond, same =>
      absurd same.symm (beyond.ne_fieldRows_append (each entry List.mem_cons_self) rest)
  | (name, document) :: later, (other, next) :: others, level, rest, behind, each, all, outside,
      beyond, same => by
      rw [List.forall_mem_cons] at each all
      cases each.1 with
      | scalar isName =>
          cases all.1 with
          | scalar isOther =>
              rw [fieldRows, fieldRows] at same
              obtain ⟨headed, behindSame⟩ := List.cons.inj same
              obtain ⟨rfl, contentSame⟩ := isName.heading_inj isOther (eq_of_row_eq headed)
              have shown := String.toList_inj.mp (List.cons.inj contentSame).2
              obtain ⟨laterSame, ended⟩ :=
                writtenFields_eq_of_rows later others each.2 all.2 outside beyond behindSame
              refine ⟨?_, ended⟩
              rw [writtenFields, writtenFields, written, written, shown, laterSame]
          | nested isOther under =>
              -- A space stands behind the name of a scalar, but nothing behind that of a list.
              rw [fieldRows, fieldRows_cons_of_isOrderly level other under] at same
              have headed := eq_of_row_eq (List.cons.inj same).1
              cases (isName.heading_inj isOther headed).2
      | nested isName below =>
          cases all.1 with
          | scalar isOther =>
              rw [fieldRows_cons_of_isOrderly level name below, fieldRows] at same
              have headed := eq_of_row_eq (List.cons.inj same).1
              cases (isName.heading_inj isOther headed).2
          | nested isOther under =>
              rw [fieldRows_cons_of_isOrderly level name below,
                fieldRows_cons_of_isOrderly level other under, List.cons_append, List.cons_append,
                List.append_assoc, List.append_assoc] at same
              obtain ⟨headed, behindSame⟩ := List.cons.inj same
              obtain ⟨rfl, -⟩ := isName.heading_inj isOther (eq_of_row_eq headed)
              -- The later fields are outside of what stands below the name.
              obtain ⟨documentSame, behindSame⟩ := written_eq_of_rows document next below under
                (outside.fieldRows_append each.2) (beyond.fieldRows_append all.2) behindSame
              obtain ⟨laterSame, ended⟩ :=
                writtenFields_eq_of_rows later others each.2 all.2 outside beyond behindSame
              exact ⟨by rw [writtenFields, writtenFields, documentSame, laterSame], ended⟩

end

/-- Two documents of which the same text is printed have the same written in them. -/
theorem written_eq_of_print? {first second : Document} {text : String}
    (orderly : first.IsOrderly) (ordered : second.IsOrderly)
    (printed : first.print? 0 = some text) (same : second.print? 0 = some text) :
    first.written = second.written := by
  have rows : rows 0 first ++ [] = rows 0 second ++ [] := by
    rw [← rows_of_print? orderly printed, ← rows_of_print? ordered same]
  have nothing : Outside 0 [] := fun _ member => absurd member (Option.not_mem_none _)
  exact (written_eq_of_rows first second orderly ordered nothing nothing rows).1

end Document
end PixelBrush
