import PixelBrush.Proofs.Grammar.Correctness
import PixelBrush.Proofs.Segmentation.Correctness
import PixelBrush.Proofs.Source.Division
import PixelBrush.Proofs.Source.Parsing

/-! # What is written down can be read back

A well-formed program comes back from its text as it was, except for locations,
however the blanks are placed.  Only nesting too deep for the parser stands in
the way.
-/

namespace PixelBrush

/-- The line end that is appended to a text stands behind all of its lexemes. -/
theorem Spelled.endLastLine {lexemes : List Lexeme} {text : List Char}
    (spelled : Spelled lexemes text) :
    Spelled (lexemes ++ [Lexeme.endOfLine]) (text ++ ['\n']) := by
  induction spelled with
  | nil blank => exact .cons blank (.nil fun _ member => absurd member List.not_mem_nil)
  | cons blank later induction =>
      rw [List.append_assoc, List.append_assoc]
      exact .cons blank induction

theorem toList_endLastLine (source : String) :
    (endLastLine source).toList = source.toList ++ ['\n'] := by
  rw [PixelBrush.endLastLine, String.toList_append]
  rfl

/-- Whatever blanks it is written with, a program is read back up to its
locations, as long as its nesting stays within the limit. -/
theorem parse_written {statements : List Node} {source : String}
    (formed : ∀ statement ∈ statements, statement.WellFormedStatement)
    (spelled : Spelled (Node.programLexemes statements) source.toList) :
    ∃ tokens read, tokenize (endLastLine source) = .ok tokens ∧
      (Node.ofStatements read).unlocated = (Node.ofStatements statements).unlocated ∧
      (Node.nestingOfAll statements ≤ Node.nestingLimit → parse tokens = .ok read) ∧
      (parse tokens = .ok read ∨
        ∃ location, parse tokens = .error ⟨.nestedTooDeeply, location⟩) := by
  have closed : Divides [Lexeme.endOfLine] :=
    delimited_nil.toDivides.closed_cons Lexeme.closed_endOfLine
  have divides := divides_program formed closed
  have segmentation : Segmentation (endLastLine source).toList
      (Node.programLexemes statements ++ [Lexeme.endOfLine]) := by
    rw [toList_endLastLine]
    exact divides.segmentation _ spelled.endLastLine
  obtain ⟨tokens, tokenized, same⟩ := exists_tokens segmentation divides.readable
  rw [List.append_assoc] at same
  obtain ⟨read, like, parses⟩ := parseWithin_of_lexemes formed same
  refine ⟨tokens, read, tokenized, ?_, parses Node.nestingLimit, ?_⟩
  · rw [Node.ofStatements, Node.ofStatements, Node.unlocated, Node.unlocated, like]
  · obtain cutOff | whole := Grammar.parseWithin_cutsOff
      (Nat.le_max_left Node.nestingLimit (Node.nestingOfAll statements)) tokens
    · exact .inr cutOff
    · exact .inl (whole.symm.trans (parses _ (Nat.le_max_right _ _)))

/-- A program with one statement of each kind. -/
def stripes : List Node :=
  [.label "row" .nowhere,
    .assignment "x" (.binary BinaryOperator.less.text (.reference "y" .nowhere)
      (.unary UnaryOperator.negate.text (.literal Kind.number.name (some (.number 10)) .nowhere)
        .nowhere) .nowhere) .nowhere,
    .instruction Command.color.code
      [.literal Kind.string.name (some (.string "red //\nblue")) .nowhere] .nowhere,
    .jump "row" (.binary BinaryOperator.or.text (.literal Kind.boolean.name (some (.boolean true))
      .nowhere) (.call Query.isBrushSize.code [.reference "x" .nowhere, .reference "y" .nowhere]
      .nowhere) .nowhere) .nowhere]

theorem isIdentifier_of_all {name : String}
    (starts : name.toList.head?.any Cursor.startsWord = true)
    (all : name.toList.all Cursor.isWordCharacter = true)
    (unknown : Cursor.keyword? (String.ofList (Text.foldCase name.toList)) = none) :
    IsIdentifier name :=
  ⟨Lexeme.word_of_all starts all, unknown⟩

theorem wellFormed_stripes : ∀ statement ∈ stripes, statement.WellFormedStatement := by
  have row : IsIdentifier "row" := isIdentifier_of_all (by decide) (by decide) (by decide)
  have x : IsIdentifier "x" := isIdentifier_of_all (by decide) (by decide) (by decide)
  have y : IsIdentifier "y" := isIdentifier_of_all (by decide) (by decide) (by decide)
  have ten : Value.Writable (.number 10) := ⟨by decide, by decide⟩
  have unquoted : '"' ∉ "red //\nblue".toList := by decide
  have text : Value.Writable (.string "red //\nblue") := unquoted
  have holds : Value.Writable (.boolean true) := trivial
  simp only [stripes, List.mem_cons, List.not_mem_nil, or_false, forall_eq_or_imp, forall_eq]
  refine ⟨.label row, ?_, ?_, ?_⟩
  · exact .assignment x (.binary (.reference y) (.unary (.literal ten)))
  · exact .instruction (List.forall_mem_singleton.mpr (.literal text))
  · refine .jump row (.binary (.literal holds) (.call ?_))
    simp only [List.mem_cons, List.not_mem_nil, or_false, forall_eq_or_imp, forall_eq]
    exact ⟨.reference x, .reference y⟩

theorem source_stripes :
    Node.source stripes =
      "row:\nx<-(y)<(-(10))\ncolor(\"red //\nblue\")\ngoto[row]((true)or(isbrushsize(x,y)))\n" := by
  decide

/-- The text of the stripes is read as the stripes. -/
theorem parse_written_stripes :
    (∀ statement ∈ stripes, statement.WellFormedStatement) ∧
    ∃ tokens read,
      tokenize (endLastLine
        "row:\nx<-(y)<(-(10))\ncolor(\"red //\nblue\")\ngoto[row]((true)or(isbrushsize(x,y)))\n") =
          .ok tokens ∧
      (Node.ofStatements read).unlocated = (Node.ofStatements stripes).unlocated ∧
      parse tokens = .ok read := by
  have spelled := Node.spelled_source stripes
  rw [source_stripes] at spelled
  obtain ⟨tokens, read, tokenized, like, parsed, -⟩ := parse_written wellFormed_stripes spelled
  exact ⟨wellFormed_stripes, tokens, read, tokenized, like, parsed (by decide)⟩

end PixelBrush
