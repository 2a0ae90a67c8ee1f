import PixelBrush.CommandLine.Report
import PixelBrush.Proofs.Document
import PixelBrush.Proofs.Outline
import PixelBrush.Proofs.Source.Reading

/-! # Printed trees are unambiguous

The rows of a printed tree tell its nodes: each has its type and location in rows of its
own, and what else belongs to it stands behind or below the names of its fields.  A string
is printed without quotes, but it cannot be taken for something else as long as it stays on
its row.  So two program texts of which the same tree is printed are read as the same
statements.
-/

namespace PixelBrush

theorem IsIdentifier.isLine {name : String} (identifier : IsIdentifier name) :
    Text.IsLine name :=
  fun member => absurd (identifier.word.run.all _ member) (by decide)

theorem Kind.name_inj {kind other : Kind} (same : kind.name = other.name) : kind = other :=
  Option.some.inj (by rw [← ofName?_name kind, same, ofName?_name])

theorem Kind.isLine_name (kind : Kind) : Text.IsLine kind.name := by
  cases kind <;> decide

theorem BinaryOperator.isLine_text (operator : BinaryOperator) : Text.IsLine operator.text := by
  cases operator <;> decide

theorem UnaryOperator.isLine_text (operator : UnaryOperator) : Text.IsLine operator.text := by
  cases operator <;> decide

theorem Query.isLine_code (query : Query) : Text.IsLine query.code := by
  cases query <;> decide

theorem Command.isLine_code (command : Command) : Text.IsLine command.code := by
  cases command <;> decide

namespace Text

theorem toDigits_inj {first second : Nat}
    (same : Nat.toDigits 10 first = Nat.toDigits 10 second) : first = second := by
  have read := congrArg (fun digits => Nat.ofDigitChars 10 digits 0) same
  simpa using read

/-- The digits of a number do not begin with a sign. -/
theorem toDigits_ne_cons_sign (value : Nat) (digits : List Char) :
    Nat.toDigits 10 value ≠ '-' :: digits := by
  intro same
  have member : '-' ∈ Nat.toDigits 10 value := by
    rw [same]
    exact List.mem_cons_self
  have digit := Nat.isDigit_of_mem_toDigits (by decide) (by decide) member
  exact absurd digit (by decide)

theorem toList_toString_ofNat (value : Nat) :
    (toString (Int.ofNat value)).toList = Nat.toDigits 10 value := by
  change value.repr.toList = _
  rw [Nat.toList_repr]

theorem toList_toString_negSucc (value : Nat) :
    (toString (Int.negSucc value)).toList = '-' :: Nat.toDigits 10 (value + 1) := by
  change ("-" ++ (value + 1).repr).toList = _
  rw [String.toList_append, Nat.toList_repr]
  rfl

theorem toString_int_inj {first second : Int} (same : toString first = toString second) :
    first = second := by
  have characters := congrArg String.toList same
  cases first with
  | ofNat first =>
      cases second with
      | ofNat second =>
          rw [toList_toString_ofNat, toList_toString_ofNat] at characters
          rw [toDigits_inj characters]
      | negSucc second =>
          rw [toList_toString_ofNat, toList_toString_negSucc] at characters
          exact absurd characters (toDigits_ne_cons_sign first _)
  | negSucc first =>
      cases second with
      | ofNat second =>
          rw [toList_toString_negSucc, toList_toString_ofNat] at characters
          exact absurd characters.symm (toDigits_ne_cons_sign second _)
      | negSucc second =>
          rw [toList_toString_negSucc, toList_toString_negSucc] at characters
          rw [Nat.succ.inj (toDigits_inj (List.cons.inj characters).2)]

end Text

/-- A value can be told from its kind and what it is shown as. -/
theorem Value.eq_of_shown {value other : Value} (kindSame : value.kind = other.kind)
    (same : Payload.shown (some value) = Payload.shown (some other)) : value = other := by
  cases value with
  | number value =>
      cases other with
      | number other => rw [Text.toString_int_inj same]
      | boolean | string => cases kindSame
  | boolean truth =>
      cases other with
      | boolean other =>
          cases truth <;> cases other
          · rfl
          · exact absurd same (by decide)
          · exact absurd same (by decide)
          · rfl
      | number | string => cases kindSame
  | string text =>
      cases other with
      | string other => rw [show text = other from same]
      | number | boolean => cases kindSame

namespace Node

variable {node other : Node} {location place : Location}

/-- The string that a node is the literal of, if it is one. -/
def string? : Node → Option String
  | literal _ (some (.string content)) _ => some content
  | _ => none

/-- Whether every string in a tree stays on one line. -/
def StringsStayInLine (tree : Node) : Prop :=
  ∀ part ∈ tree.parts, ∀ content ∈ part.string?, Text.IsLine content

instance (tree : Node) : Decidable tree.StringsStayInLine :=
  inferInstanceAs (Decidable (∀ part ∈ tree.parts, ∀ content ∈ part.string?,
    Text.IsLine content))

theorem StringsStayInLine.isLine_shown {kind : Name} {value : Value}
    (inLine : (literal kind (some value) location).StringsStayInLine) :
    Text.IsLine (Payload.shown (some value)) := by
  cases value with
  | number value => exact Text.isLine_toString value
  | boolean truth => cases truth <;> decide
  | string content => exact inLine _ (mem_parts_self _) content rfl

theorem documents_eq_map (nodes : List Node) : documents nodes = nodes.map document := by
  induction nodes with
  | nil => rfl
  | cons node others induction => rw [documents, induction, List.map_cons]

/-! ### The document of a program is orderly -/

theorem isOrderlyField_scalar {name : String} {payload : Payload}
    (letters : name.toList ≠ [] ∧ name.toList.all Char.isLower = true)
    (line : Text.IsLine payload.shown) : Document.IsOrderlyField (name, .scalar payload) :=
  .scalar (Document.isFieldName_of_isLower letters) line

theorem isOrderlyField_document {name : String} {document : Document}
    (letters : name.toList ≠ [] ∧ name.toList.all Char.isLower = true)
    (orderly : document.IsOrderly) : Document.IsOrderlyField (name, document) :=
  .nested (Document.isFieldName_of_isLower letters) orderly

theorem isOrderly_fields (node : Node) (location : Location)
    {particular : List (String × Document)} (line : Text.IsLine node.typeName)
    (each : ∀ entry ∈ particular, Document.IsOrderlyField entry) :
    (node.fields location particular).IsOrderly := by
  refine .fields (List.cons_ne_nil _ _) ?_
  simp only [List.forall_mem_cons]
  exact ⟨isOrderlyField_scalar (by decide) line,
    isOrderlyField_scalar (by decide) (Text.isLine_toString _),
    isOrderlyField_scalar (by decide) (Text.isLine_toString _), each⟩

theorem isOrderly_documents {nodes : List Node} (each : ∀ node ∈ nodes, node.document.IsOrderly) :
    (Document.list (documents nodes)).IsOrderly := by
  rw [documents_eq_map]
  exact .list (List.forall_mem_map.mpr each)

theorem WellFormedExpression.isLine_typeName (formed : node.WellFormedExpression) :
    Text.IsLine node.typeName := by
  cases formed <;> rw [typeName] <;> decide

theorem WellFormedStatement.isLine_typeName (formed : node.WellFormedStatement) :
    Text.IsLine node.typeName := by
  cases formed <;> rw [typeName] <;> decide

/-- The document of an expression is orderly if its strings stay on one line. -/
theorem WellFormedExpression.isOrderly (formed : node.WellFormedExpression)
    (inLine : node.StringsStayInLine) : node.document.IsOrderly := by
  have line := formed.isLine_typeName
  induction formed with
  | @literal value location writable =>
      apply isOrderly_fields _ _ line
      rw [List.forall_mem_cons, List.forall_mem_singleton]
      exact ⟨isOrderlyField_scalar (by decide) value.kind.isLine_name,
        isOrderlyField_scalar (by decide) inLine.isLine_shown⟩
  | reference identifier =>
      apply isOrderly_fields _ _ line
      rw [List.forall_mem_singleton]
      exact isOrderlyField_scalar (by decide) identifier.isLine
  | @binary operator _ _ _ leftFormed rightFormed left right =>
      rw [StringsStayInLine, parts, List.forall_mem_append, List.forall_mem_cons] at inLine
      apply isOrderly_fields _ _ line
      rw [List.forall_mem_cons, List.forall_mem_cons, List.forall_mem_singleton]
      exact ⟨isOrderlyField_scalar (by decide) operator.isLine_text,
        isOrderlyField_document (by decide) (left inLine.1 leftFormed.isLine_typeName),
        isOrderlyField_document (by decide) (right inLine.2.2 rightFormed.isLine_typeName)⟩
  | @unary operator _ _ operandFormed operand =>
      rw [StringsStayInLine, parts, List.forall_mem_cons] at inLine
      apply isOrderly_fields _ _ line
      rw [List.forall_mem_cons, List.forall_mem_singleton]
      exact ⟨isOrderlyField_scalar (by decide) operator.isLine_text,
        isOrderlyField_document (by decide) (operand inLine.2 operandFormed.isLine_typeName)⟩
  | @call query _ _ formed below =>
      rw [StringsStayInLine, parts, List.forall_mem_cons, forall_mem_partsOfAll] at inLine
      have arguments := isOrderly_documents fun argument member =>
        below argument member (inLine.2 argument member) (formed argument member).isLine_typeName
      apply isOrderly_fields _ _ line
      rw [List.forall_mem_cons, List.forall_mem_singleton]
      exact ⟨isOrderlyField_scalar (by decide) query.isLine_code,
        isOrderlyField_document (by decide) arguments⟩

theorem WellFormedStatement.isOrderly (formed : node.WellFormedStatement)
    (inLine : node.StringsStayInLine) : node.document.IsOrderly := by
  have line := formed.isLine_typeName
  cases formed with
  | label identifier =>
      apply isOrderly_fields _ _ line
      rw [List.forall_mem_singleton]
      exact isOrderlyField_scalar (by decide) identifier.isLine
  | assignment identifier below | jump identifier below =>
      rw [StringsStayInLine, parts, List.forall_mem_cons] at inLine
      apply isOrderly_fields _ _ line
      rw [List.forall_mem_cons, List.forall_mem_singleton]
      exact ⟨isOrderlyField_scalar (by decide) identifier.isLine,
        isOrderlyField_document (by decide) (below.isOrderly inLine.2)⟩
  | @instruction command _ _ formed =>
      rw [StringsStayInLine, parts, List.forall_mem_cons, forall_mem_partsOfAll] at inLine
      have arguments := isOrderly_documents fun argument member =>
        (formed argument member).isOrderly (inLine.2 argument member)
      apply isOrderly_fields _ _ line
      rw [List.forall_mem_cons, List.forall_mem_singleton]
      exact ⟨isOrderlyField_scalar (by decide) command.isLine_code,
        isOrderlyField_document (by decide) arguments⟩

theorem isOrderly_ofStatements {statements : List Node}
    (formed : ∀ statement ∈ statements, statement.WellFormedStatement)
    (inLine : (ofStatements statements).StringsStayInLine) :
    (ofStatements statements).document.IsOrderly := by
  rw [ofStatements, StringsStayInLine, parts, List.forall_mem_cons, forall_mem_partsOfAll] at inLine
  have below := isOrderly_documents fun statement member =>
    (formed statement member).isOrderly (inLine.2 statement member)
  apply isOrderly_fields
  · rw [typeName]
    decide
  · rw [List.forall_mem_singleton]
    exact isOrderlyField_document (by decide) below

/-! ### A program can be told from what is written in its document -/

theorem written_fields_inj {particular others : List (String × Document)}
    (same : (node.fields location particular).written = (other.fields place others).written) :
    node.typeName = other.typeName ∧ location = place ∧
      Document.writtenFields particular = Document.writtenFields others := by
  simp only [fields, textField, Document.written, Document.writtenFields, Payload.shown,
    Document.fields.injEq, Document.scalar.injEq, List.cons.injEq, Prod.mk.injEq,
    Option.some.injEq, Value.string.injEq, true_and] at same
  obtain ⟨typeSame, lineSame, columnSame, particularSame⟩ := same
  cases location with
  | mk line column =>
      cases place with
      | mk placeLine placeColumn =>
          obtain rfl := Text.toString_int_inj lineSame
          obtain rfl := Text.toString_int_inj columnSame
          exact ⟨typeSame, rfl, particularSame⟩

theorem writtenFields_cons_inj {name : String} {document next : Document}
    {later others : List (String × Document)}
    (same : Document.writtenFields ((name, document) :: later) =
      Document.writtenFields ((name, next) :: others)) :
    document.written = next.written ∧
      Document.writtenFields later = Document.writtenFields others := by
  simpa [Document.writtenFields] using same

theorem written_scalar_inj {payload found : Payload}
    (same : (Document.scalar payload).written = (Document.scalar found).written) :
    payload.shown = found.shown := by
  simpa [Document.written] using same

theorem written_scalar_field_inj {name : String} {payload found : Payload}
    (same : (node.fields location [(name, .scalar payload)]).written =
      (other.fields place [(name, .scalar found)]).written) :
    location = place ∧ payload.shown = found.shown := by
  obtain ⟨-, placeSame, particular⟩ := written_fields_inj same
  obtain ⟨scalarSame, -⟩ := writtenFields_cons_inj particular
  exact ⟨placeSame, written_scalar_inj scalarSame⟩

theorem written_two_fields_inj {first second : String} {payload found : Payload}
    {document next : Document}
    (same : (node.fields location [(first, .scalar payload), (second, document)]).written =
      (other.fields place [(first, .scalar found), (second, next)]).written) :
    location = place ∧ payload.shown = found.shown ∧ document.written = next.written := by
  obtain ⟨-, placeSame, particular⟩ := written_fields_inj same
  obtain ⟨scalarSame, particular⟩ := writtenFields_cons_inj particular
  obtain ⟨documentSame, -⟩ := writtenFields_cons_inj particular
  exact ⟨placeSame, written_scalar_inj scalarSame, documentSame⟩

theorem eq_of_written_documents {nodes others : List Node} {property : Node → Prop}
    (each : ∀ node ∈ nodes, ∀ {other : Node}, property other →
      node.document.written = other.document.written → node = other)
    (formed : ∀ other ∈ others, property other)
    (same : (Document.list (documents nodes)).written =
      (Document.list (documents others)).written) : nodes = others := by
  have items := Document.list.inj same
  clear same
  induction nodes generalizing others with
  | nil =>
      cases others with
      | nil => rfl
      | cons next later => cases items
  | cons node rest induction =>
      cases others with
      | nil => cases items
      | cons next later =>
          rw [List.forall_mem_cons] at each formed
          obtain ⟨nodeSame, restSame⟩ := List.cons.inj items
          rw [each.1 formed.1 nodeSame, induction each.2 formed.2 restSame]

/-- A well-formed expression can be told from what is written in its document. -/
theorem WellFormedExpression.eq_of_written (formed : node.WellFormedExpression) :
    ∀ {other : Node}, other.WellFormedExpression →
      node.document.written = other.document.written → node = other := by
  induction formed with
  | @literal value location writable =>
      intro other formedToo same
      cases formedToo with
      | @literal found place readable =>
          obtain ⟨rfl, kindSame, valueSame⟩ := written_two_fields_inj same
          have kind : value.kind.name = found.kind.name := kindSame
          rw [Value.eq_of_shown (Kind.name_inj kind) (written_scalar_inj valueSame)]
      | reference | binary | unary | call =>
          exact absurd (written_fields_inj same).1 (by simp [typeName])
  | @reference name location identifier =>
      intro other formedToo same
      cases formedToo with
      | @reference known =>
          obtain ⟨rfl, nameSame⟩ := written_scalar_field_inj same
          have word : name = known := nameSame
          rw [word]
      | literal | binary | unary | call =>
          exact absurd (written_fields_inj same).1 (by simp [typeName])
  | @binary operator left right location leftFormed rightFormed leftEq rightEq =>
      intro other formedToo same
      cases formedToo with
      | @binary found _ _ _ first second =>
          obtain ⟨-, rfl, particular⟩ := written_fields_inj same
          obtain ⟨operatorSame, particular⟩ := writtenFields_cons_inj particular
          obtain ⟨leftSame, particular⟩ := writtenFields_cons_inj particular
          obtain ⟨rightSame, -⟩ := writtenFields_cons_inj particular
          have text : operator.text = found.text := written_scalar_inj operatorSame
          rw [text, leftEq first leftSame, rightEq second rightSame]
      | literal | reference | unary | call =>
          exact absurd (written_fields_inj same).1 (by simp [typeName])
  | @unary operator operand location operandFormed operandEq =>
      intro other formedToo same
      cases formedToo with
      | @unary found _ _ below =>
          obtain ⟨rfl, operatorSame, operandSame⟩ := written_two_fields_inj same
          have text : operator.text = found.text := operatorSame
          rw [text, operandEq below operandSame]
      | literal | reference | binary | call =>
          exact absurd (written_fields_inj same).1 (by simp [typeName])
  | @call query arguments location each argumentEq =>
      intro other formedToo same
      cases formedToo with
      | @call found _ _ all =>
          obtain ⟨rfl, codeSame, argumentsSame⟩ := written_two_fields_inj same
          have code : query.code = found.code := codeSame
          rw [code, eq_of_written_documents argumentEq all argumentsSame]
      | literal | reference | binary | unary =>
          exact absurd (written_fields_inj same).1 (by simp [typeName])

/-- A well-formed statement can be told from what is written in its document. -/
theorem WellFormedStatement.eq_of_written (formed : node.WellFormedStatement)
    (formedToo : other.WellFormedStatement)
    (same : node.document.written = other.document.written) : node = other := by
  cases formed with
  | @label name location identifier =>
      cases formedToo with
      | @label known =>
          obtain ⟨rfl, nameSame⟩ := written_scalar_field_inj same
          have word : name = known := nameSame
          rw [word]
      | assignment | instruction | jump =>
          exact absurd (written_fields_inj same).1 (by simp [typeName])
  | @assignment name value location identifier valueFormed =>
      cases formedToo with
      | @assignment known _ _ _ foundFormed =>
          obtain ⟨rfl, nameSame, valueSame⟩ := written_two_fields_inj same
          have word : name = known := nameSame
          rw [word, valueFormed.eq_of_written foundFormed valueSame]
      | label | instruction | jump =>
          exact absurd (written_fields_inj same).1 (by simp [typeName])
  | @instruction command arguments location each =>
      cases formedToo with
      | @instruction found _ _ all =>
          obtain ⟨rfl, codeSame, argumentsSame⟩ := written_two_fields_inj same
          have code : command.code = found.code := codeSame
          have below := eq_of_written_documents
            (fun argument member => (each argument member).eq_of_written) all argumentsSame
          rw [code, below]
      | label | assignment | jump =>
          exact absurd (written_fields_inj same).1 (by simp [typeName])
  | @jump target condition location identifier conditionFormed =>
      cases formedToo with
      | @jump known _ _ _ foundFormed =>
          obtain ⟨rfl, targetSame, conditionSame⟩ := written_two_fields_inj same
          have word : target = known := targetSame
          rw [word, conditionFormed.eq_of_written foundFormed conditionSame]
      | label | assignment | instruction =>
          exact absurd (written_fields_inj same).1 (by simp [typeName])

theorem eq_of_written_ofStatements {statements others : List Node}
    (formed : ∀ statement ∈ statements, statement.WellFormedStatement)
    (formedToo : ∀ statement ∈ others, statement.WellFormedStatement)
    (same : (ofStatements statements).document.written = (ofStatements others).document.written) :
    statements = others := by
  obtain ⟨-, -, particular⟩ := written_fields_inj same
  obtain ⟨statementsSame, -⟩ := writtenFields_cons_inj particular
  exact eq_of_written_documents
    (fun statement member => (formed statement member).eq_of_written) formedToo statementsSame

end Node

/-- The text that is printed of a program tree is that of its document. -/
theorem ReadsAs.print?_of_treeReport {source text : String} {tokens : List Token}
    {statements : List Node} (reads : ReadsAs source tokens statements)
    (printed : Invocation.treeReport statements = .succeeding [text]) :
    (Node.ofStatements statements).document.print? 0 = some text := by
  have outline := Node.outline_eq _ Node.nestingLimit
    (Node.isWhole_of_plain (Node.plain_ofStatements reads.wellFormed))
  unfold Invocation.treeReport at printed
  rw [outline, Node.laidOut] at printed
  split_ifs at printed with shallow
  · cases shown : (Node.ofStatements statements).document.print? 0 with
    | none => simp [shown, Report.succeeding, Report.crashing] at printed
    | some found => simpa [shown, Report.succeeding] using printed
  · cases printed

/-- If the same tree is printed for two program texts, and no string in them goes on over a
line feed, the texts are read as the same statements, which stand at the same places. -/
theorem ReadsAs.eq_of_treeReport {source other text : String} {tokens otherTokens : List Token}
    {statements others : List Node} (reads : ReadsAs source tokens statements)
    (readsOther : ReadsAs other otherTokens others)
    (inLine : (Node.ofStatements statements).StringsStayInLine)
    (inLineOther : (Node.ofStatements others).StringsStayInLine)
    (printed : Invocation.treeReport statements = .succeeding [text])
    (printedOther : Invocation.treeReport others = .succeeding [text]) : statements = others := by
  have same := Document.written_eq_of_print? (Node.isOrderly_ofStatements reads.wellFormed inLine)
    (Node.isOrderly_ofStatements readsOther.wellFormed inLineOther)
    (reads.print?_of_treeReport printed) (readsOther.print?_of_treeReport printedOther)
  exact Node.eq_of_written_ofStatements reads.wellFormed readsOther.wellFormed same

/-- A color that looks like an item of a list and like a field. -/
def lookalike : List Node :=
  [.instruction Command.color.code
    [.literal Kind.string.name (some (.string "- op: Fill")) ⟨1, 7⟩] ⟨1, 1⟩]

def lookalikeTokens : List Token :=
  [⟨.command .color, "Color", none, ⟨1, 1⟩⟩, ⟨.leftParenthesis, "(", none, ⟨1, 6⟩⟩,
    ⟨.string, "\"- op: Fill\"", some (.string "- op: Fill"), ⟨1, 7⟩⟩,
    ⟨.rightParenthesis, ")", none, ⟨1, 19⟩⟩, ⟨.endOfInput, "", none, ⟨1, 20⟩⟩]

/-- The tokens of the same program in small letters, with a comment behind it. -/
def commentedTokens : List Token :=
  [⟨.command .color, "color", none, ⟨1, 1⟩⟩, ⟨.leftParenthesis, "(", none, ⟨1, 6⟩⟩,
    ⟨.string, "\"- op: Fill\"", some (.string "- op: Fill"), ⟨1, 7⟩⟩,
    ⟨.rightParenthesis, ")", none, ⟨1, 19⟩⟩, ⟨.comment, "//", none, ⟨1, 20⟩⟩,
    ⟨.endOfInput, "", none, ⟨1, 22⟩⟩]

def lookalikeText : String :=
  "type: Program\nline: 0\nposition: 0\nstatements:\n  -\n    type: Instruction\n    line: 1\n" ++
  "    position: 1\n    op: COLOR\n    args:\n      -\n        type: Literal\n        line: 1\n" ++
  "        position: 7\n        kind: string\n        value: - op: Fill"

/-- The color is not mistaken for an operation. -/
theorem lookalike_eq_commented : ∃ commented,
    ReadsAs "Color(\"- op: Fill\")" lookalikeTokens lookalike ∧
    ReadsAs "color(\"- op: Fill\")//" commentedTokens commented ∧
    (Node.ofStatements lookalike).StringsStayInLine ∧
    (Node.ofStatements commented).StringsStayInLine ∧
    Invocation.treeReport lookalike = .succeeding [lookalikeText] ∧
    Invocation.treeReport commented = .succeeding [lookalikeText] ∧
    lookalike = commented := by
  have reads : ReadsAs "Color(\"- op: Fill\")" lookalikeTokens lookalike :=
    ⟨by decide +kernel, rfl⟩
  have commented : ReadsAs "color(\"- op: Fill\")//" commentedTokens lookalike :=
    ⟨by decide +kernel, rfl⟩
  have inLine : (Node.ofStatements lookalike).StringsStayInLine := by decide
  have outlined : Node.outline Node.nestingLimit (.ofStatements lookalike) =
      .ok (Node.ofStatements lookalike).document := rfl
  have shown : (Node.ofStatements lookalike).document.print? 0 = some lookalikeText := by
    decide +kernel
  have printed : Invocation.treeReport lookalike = .succeeding [lookalikeText] := by
    simp only [Invocation.treeReport, outlined, shown]
  exact ⟨_, reads, commented, inLine, inLine, printed, printed,
    reads.eq_of_treeReport commented inLine inLine printed printed⟩

end PixelBrush
