import Mathlib.Data.Prod.Lex
import PixelBrush.Diagnosis
import PixelBrush.Proofs.Blame
import PixelBrush.Proofs.Ending
import PixelBrush.Proofs.Segmentation.Location
import PixelBrush.Proofs.Source.Reading

/-! # Where the nodes of a program stand

Every node of a program stands at a token of its own, and in reading order the
nodes follow each other as their tokens do.  So a location tells which node is
meant, and an error that is reported with the location of a node lies between the
starts of the statement that has failed and of the next one.
-/

namespace PixelBrush

open Segmentation

namespace Location

/-- A location as a pair, which is compared line by line first. -/
def key (location : Location) : ℤ ×ₗ ℤ :=
  toLex (location.line, location.column)

/-- Whether a line and a column are counted from one. -/
def Counted (location : Location) : Prop :=
  1 ≤ location.line ∧ 1 ≤ location.column

theorem key_lt_right (location : Location) : location.key < (location.right 1).key :=
  Prod.Lex.toLex_lt_toLex.mpr (.inr ⟨rfl, Int.lt_succ location.column⟩)

theorem key_lt_nextLine (location : Location) : location.key < location.nextLine.key :=
  Prod.Lex.toLex_lt_toLex.mpr (.inl (Int.lt_succ location.line))

theorem key_le_after (location : Location) (text : List Char) :
    location.key ≤ (location.after text).key := by
  fun_induction after location text with
  | case1 location => exact le_refl _
  | case2 location later induction => exact (key_lt_nextLine location).le.trans induction
  | case3 location character later alone ends induction =>
      exact (key_lt_nextLine location).le.trans induction
  | case4 location character later alone stays induction =>
      exact (key_lt_right location).le.trans induction

/-- Every character leads further on. -/
theorem key_lt_after (location : Location) {text : List Char} (nonempty : text ≠ []) :
    location.key < (location.after text).key := by
  fun_cases after location text with
  | case1 => exact absurd rfl nonempty
  | case2 => exact (key_lt_nextLine location).trans_le (key_le_after _ _)
  | case3 => exact (key_lt_nextLine location).trans_le (key_le_after _ _)
  | case4 => exact (key_lt_right location).trans_le (key_le_after _ _)

theorem Counted.after {location : Location} (counted : location.Counted) (text : List Char) :
    (location.after text).Counted := by
  have nextLine {location : Location} (counted : location.Counted) :
      location.nextLine.Counted :=
    ⟨Int.le_add_one counted.1, le_refl 1⟩
  fun_induction Location.after location text with
  | case1 location => exact counted
  | case2 location later induction => exact induction (nextLine counted)
  | case3 location character later alone ends induction => exact induction (nextLine counted)
  | case4 location character later alone stays induction =>
      exact induction ⟨counted.1, Int.le_add_one counted.2⟩

end Location

section Tokens

variable {location : Location} {text : List Char} {tokens : List Token}

theorem Located.key_le (located : Located location text tokens) :
    ∀ token ∈ tokens, location.key ≤ token.location.key := by
  induction located with
  | @finished location gap between =>
      exact List.forall_mem_singleton.mpr (location.key_le_after gap)
  | @lexeme location gap rest lexeme tokens between picked readable later induction =>
      refine List.forall_mem_cons.mpr ⟨location.key_le_after gap, fun token among => ?_⟩
      calc location.key
          ≤ (location.after gap).key := location.key_le_after gap
        _ ≤ ((location.after gap).after lexeme.text).key := Location.key_le_after _ _
        _ ≤ token.location.key := induction token among

/-- The tokens of a text stand one behind the other. -/
theorem Located.pairwise (located : Located location text tokens) :
    tokens.Pairwise fun first second => first.location.key < second.location.key := by
  induction located with
  | finished between => exact List.pairwise_singleton _ _
  | @lexeme location gap rest lexeme tokens between picked readable later induction =>
      refine .cons (fun token among => ?_) induction
      exact (Location.key_lt_after _ picked.text_ne_nil).trans_le (later.key_le token among)

theorem Located.counted (located : Located location text tokens) (counted : location.Counted) :
    ∀ token ∈ tokens, token.location.Counted := by
  induction located with
  | @finished location gap between => exact List.forall_mem_singleton.mpr (counted.after gap)
  | @lexeme location gap rest lexeme tokens between picked readable later induction =>
      exact List.forall_mem_cons.mpr
        ⟨counted.after gap, induction ((counted.after gap).after lexeme.text)⟩

end Tokens

namespace Grammar

/-- The locations of some tokens, as those of nodes are given. -/
def places (tokens : List Token) : List (Option Location) :=
  tokens.map fun token => some token.location

mutual

/-- The nodes of an atom stand at tokens of it, in the order of these. -/
theorem Atom.places_sublist :
    ∀ atom : Atom, (atom.tree.parts.map Node.location?).Sublist (places atom.tokens)
  | .literal _ _ => .refl _
  | .reference _ => .refl _
  | .call _ _ _ arguments _ => by
      rw [Atom.tree, Node.parts, Atom.tokens, places, List.map_cons, List.map_cons, List.map_cons,
        List.map_append]
      exact .cons_cons _ (.cons _ (arguments.places_sublist.trans (List.sublist_append_left _ _)))
  | .enclosed _ inner _ => by
      rw [Atom.tree, Atom.tokens, places, List.map_cons, List.map_append]
      exact .cons _ (inner.places_sublist.trans (List.sublist_append_left _ _))
  | .unary _ _ operand => by
      rw [Atom.tree, Node.parts, Atom.tokens, places, List.map_cons, List.map_cons]
      exact .cons_cons _ operand.places_sublist

theorem Expression.places_sublist :
    ∀ {level : Nat} (expression : Expression level),
      (expression.tree.parts.map Node.location?).Sublist (places expression.tokens)
  | _, .atom atom => by
      rw [Expression.tree, Expression.tokens]
      exact atom.places_sublist
  | _, .operand _ operand => by
      rw [Expression.tree, Expression.tokens]
      exact operand.places_sublist
  | _, .binary left _ _ _ right => by
      rw [Expression.tree, Node.parts, Expression.tokens, places, List.map_append, List.map_append,
        List.map_cons, List.map_cons]
      exact left.places_sublist.append (.cons_cons _ right.places_sublist)

theorem Arguments.places_sublist :
    ∀ arguments : Arguments,
      ((Node.partsOfAll arguments.trees).map Node.location?).Sublist (places arguments.tokens)
  | .none => .slnil
  | .last argument => by
      rw [Arguments.trees, Arguments.tokens, Node.partsOfAll, Node.partsOfAll, List.append_nil]
      exact argument.places_sublist
  | .more argument _ others => by
      rw [Arguments.trees, Arguments.tokens, Node.partsOfAll, places, List.map_append,
        List.map_append, List.map_cons]
      exact argument.places_sublist.append (.cons _ others.places_sublist)

end

theorem Statement.places_sublist (statement : Statement) :
    (statement.tree.parts.map Node.location?).Sublist (places statement.tokens) := by
  cases statement with
  | label name colon => exact .cons_cons _ (List.nil_sublist _)
  | assignment name arrow value => exact .cons_cons _ (.cons _ value.places_sublist)
  | instruction command name opening arguments closing =>
      rw [Statement.tree, Node.parts, Statement.tokens, places, List.map_cons, List.map_cons,
        List.map_cons, List.map_append]
      exact .cons_cons _ (.cons _ (arguments.places_sublist.trans (List.sublist_append_left _ _)))
  | jump word openingBracket target closingBracket opening condition closing =>
      rw [Statement.tree, Node.parts, Statement.tokens, places, List.map_cons, List.map_cons,
        List.map_cons, List.map_cons, List.map_cons, List.map_cons, List.map_append]
      exact .cons_cons _ (.cons _ (.cons _ (.cons _ (.cons _
        (condition.places_sublist.trans (List.sublist_append_left _ _))))))

theorem Program.places_sublist (program : Program) :
    ((Node.partsOfAll program.trees).map Node.location?).Sublist (places program.tokens) := by
  have each (parts : List (Statement × List Separator)) :
      ((Node.partsOfAll (parts.map fun part => part.1.tree)).map Node.location?).Sublist
        (places (Program.statementTokens parts)) := by
    induction parts with
    | nil => exact .slnil
    | cons part later induction =>
        rw [List.map_cons, Node.partsOfAll, Program.statementTokens, places, List.map_append,
          List.map_append, List.map_append]
        exact part.1.places_sublist.append (induction.trans (List.sublist_append_right _ _))
  rw [Program.tokens, places, List.map_append]
  exact (each program.statements).trans (List.sublist_append_right _ _)

end Grammar

namespace Node

/-- Whether a node stands before another one. -/
def Precedes (first second : Node) : Prop :=
  ∃ earlier later, first.location? = some earlier ∧ second.location? = some later ∧
    earlier.key < later.key

theorem Precedes.location?_ne {first second : Node} (precedes : first.Precedes second) :
    first.location? ≠ second.location? := by
  obtain ⟨earlier, later, firstStands, secondStands, before⟩ := precedes
  rw [firstStands, secondStands]
  intro same
  rw [Option.some.inj same] at before
  exact lt_irrefl _ before

/-- In an ordered list, a location belongs to a single node. -/
theorem filter_location?_eq {nodes : List Node} {node : Node} {location : Location}
    (ordered : nodes.Pairwise Precedes) (among : node ∈ nodes)
    (stands : node.location? = some location) :
    nodes.filter (fun part => part.location? = some location) = [node] := by
  obtain ⟨front, back, rfl⟩ := List.append_of_mem among
  obtain ⟨-, ordered, across⟩ := List.pairwise_append.mp ordered
  have frontNone : front.filter (fun part => part.location? = some location) = [] := by
    refine List.filter_eq_nil_iff.mpr fun part inside => ?_
    have differs := (across part inside node List.mem_cons_self).location?_ne
    simpa [← stands] using differs
  have backNone : back.filter (fun part => part.location? = some location) = [] := by
    refine List.filter_eq_nil_iff.mpr fun part inside => ?_
    have differs := ((List.pairwise_cons.mp ordered).1 part inside).location?_ne
    simpa [← stands] using differs.symm
  rw [List.filter_append, frontNone, List.filter_cons_of_pos (by simpa using stands), backNone,
    List.nil_append]

theorem partsOfAll_eq_flatMap (nodes : List Node) : partsOfAll nodes = nodes.flatMap parts := by
  induction nodes with
  | nil => rfl
  | cons node others induction => rw [partsOfAll, induction, List.flatMap_cons]

/-- The nodes of a statement stand before those of the statements behind it. -/
theorem Precedes.of_getElem? {statements : List Node} {index later : Nat} {statement next : Node}
    (ordered : (partsOfAll statements).Pairwise Precedes)
    (stands : statements[index]? = some statement) (behind : statements[later]? = some next)
    (before : index < later) {part other : Node} (within : part ∈ statement.parts)
    (inside : other ∈ next.parts) : part.Precedes other := by
  rw [partsOfAll_eq_flatMap, List.pairwise_flatMap] at ordered
  obtain ⟨inRange, rfl⟩ := List.getElem?_eq_some_iff.mp stands
  obtain ⟨laterInRange, rfl⟩ := List.getElem?_eq_some_iff.mp behind
  exact List.pairwise_iff_getElem.mp ordered.2 index later inRange laterInRange before
    part within other inside

/-- A statement comes first among its nodes. -/
theorem WellFormedStatement.parts_eq {statement : Node} (formed : statement.WellFormedStatement) :
    ∃ below, statement.parts = statement :: below := by
  cases formed <;> exact ⟨_, rfl⟩

end Node

/-- A mishap at a node is reported with the location of that node. -/
theorem Fault.location?_of_runDiagnosis? {cause : Mishap} {node statement : Node}
    {diagnosis : Diagnosis}
    (reported : (ofMishap cause node).runDiagnosis? statement = some diagnosis) :
    node.location? = some diagnosis.location := by
  unfold ofMishap at reported
  split at reported
  · cases reported
  · rename_i message location written stands
    simp only [runDiagnosis?, written, Option.map_some, Option.some.injEq] at reported
    rw [stands, ← reported]
  · cases reported

theorem Fault.BlamedOn.exists_part {statement : Node} {fault : Fault} {diagnosis : Diagnosis}
    (blamed : fault.BlamedOn statement)
    (reported : fault.runDiagnosis? statement = some diagnosis) :
    ∃ part ∈ statement.parts, part.location? = some diagnosis.location := by
  cases blamed with
  | part within carriedOut => exact ⟨_, within, location?_of_runDiagnosis? reported⟩
  | tooDeep =>
      obtain ⟨location, stands, rfl⟩ := Option.map_eq_some_iff.mp reported
      exact ⟨statement, statement.mem_parts_self, stands⟩
  | notAValue => cases reported

/-- A run that fails reports the location of a node of the statement that has failed. -/
theorem Job.exists_part_of_failed {settings : Settings} {painting : Painting}
    {statements : List Node} {budget count : Nat} {fault : Fault} {statement : Node}
    {diagnosis : Diagnosis}
    (failed : ((Job.mk settings painting statements budget).after count).outcome =
      .failed fault statement)
    (reported : fault.runDiagnosis? statement = some diagnosis) :
    statements[((Job.mk settings painting statements budget).after count).state.counter]? =
      some statement ∧
    ∃ part ∈ statement.parts, part.location? = some diagnosis.location := by
  obtain ⟨before, stands, fails, left⟩ := exists_step_of_failed failed
  have attempted := before.attempted settings painting budget statement
  rw [← left, attempted.counter_of_fault fails]
  refine ⟨stands, ?_⟩
  rcases before.fault_step settings painting budget statement fails with
    ⟨limit, -, refused⟩ | ⟨-, blamed⟩
  · rw [refused] at reported
    exact ⟨statement, statement.mem_parts_self, Fault.location?_of_runDiagnosis? reported⟩
  · exact blamed.exists_part reported

namespace ReadsAs

variable {source : String} {tokens : List Token} {statements : List Node}

theorem places_sublist (reads : ReadsAs source tokens statements) :
    ((Node.partsOfAll statements).map Node.location?).Sublist (Grammar.places tokens) := by
  obtain ⟨derivation, rfl⟩ := Grammar.derivation_of_parseWithin reads.parsed
  refine derivation.val.places_sublist.trans ?_
  rw [derivation.property]
  exact (List.takeWhile_sublist _).map _

theorem pairwise_precedes (reads : ReadsAs source tokens statements) :
    (Node.partsOfAll statements).Pairwise Node.Precedes := by
  have ordered := (tokenize_eq_ok_iff.mp reads.tokenized).pairwise
  have placesOrdered : (Grammar.places tokens).Pairwise fun first second =>
      ∃ earlier later, first = some earlier ∧ second = some later ∧ earlier.key < later.key :=
    List.pairwise_map.mpr (ordered.imp fun before => ⟨_, _, rfl, rfl, before⟩)
  have partsOrdered := placesOrdered.sublist reads.places_sublist
  rw [List.pairwise_map] at partsOrdered
  exact partsOrdered

theorem exists_counted (reads : ReadsAs source tokens statements) :
    ∀ part ∈ Node.partsOfAll statements,
      ∃ location, part.location? = some location ∧ location.Counted := by
  intro part among
  have placed := reads.places_sublist.subset (List.mem_map_of_mem among)
  obtain ⟨token, inside, stands⟩ := List.mem_map.mp placed
  have located := tokenize_eq_ok_iff.mp reads.tokenized
  exact ⟨token.location, stands.symm, located.counted ⟨le_refl 1, le_refl 1⟩ token inside⟩

/-- The nodes of a program follow each other in its text, each with a location of its
own, counted from one.  A run that fails with a report reports the location of a
single node, which belongs to the statement at which the counter stands: it is that
statement or stands behind its start, and stands before the next statement. -/
theorem locations (reads : ReadsAs source tokens statements) :
    (Node.partsOfAll statements).Pairwise Node.Precedes ∧
    (∀ part ∈ Node.partsOfAll statements,
      ∃ location, part.location? = some location ∧ location.Counted) ∧
    ∀ (settings : Settings) (painting : Painting) (budget count : Nat) (fault : Fault)
      (statement : Node) (diagnosis : Diagnosis),
      let run := (Job.mk settings painting statements budget).after count
      run.outcome = .failed fault statement →
      fault.runDiagnosis? statement = some diagnosis →
        statements[run.state.counter]? = some statement ∧
        ∃ node ∈ statement.parts,
          (Node.partsOfAll statements).filter
            (fun part => part.location? = some diagnosis.location) = [node] ∧
          (node = statement ∨ statement.Precedes node) ∧
          ∀ next, statements[run.state.counter + 1]? = some next → node.Precedes next := by
  have ordered := reads.pairwise_precedes
  refine ⟨ordered, reads.exists_counted, ?_⟩
  intro settings painting budget count fault statement diagnosis run failed reported
  obtain ⟨stands, node, within, location⟩ := Job.exists_part_of_failed failed reported
  have member : statement ∈ statements := List.mem_of_getElem? stands
  have among : node ∈ Node.partsOfAll statements :=
    Node.mem_partsOfAll.mpr ⟨statement, member, within⟩
  refine ⟨stands, node, within, Node.filter_location?_eq ordered among location, ?_, ?_⟩
  · obtain ⟨below, first⟩ := (reads.wellFormed statement member).parts_eq
    rw [Node.partsOfAll_eq_flatMap, List.pairwise_flatMap] at ordered
    have inner := ordered.1 statement member
    rw [first] at inner within
    rcases List.mem_cons.mp within with same | further
    · exact .inl same
    · exact .inr ((List.pairwise_cons.mp inner).1 node further)
  · intro next behind
    exact .of_getElem? ordered stands behind (Nat.lt_succ_self _) within next.mem_parts_self

end ReadsAs

/-- The tokens of a division by zero, with an assignment on the next line. -/
def quotientTokens : List Token :=
  [⟨.identifier, "a", some (.string "a"), ⟨1, 1⟩⟩, ⟨.arrow, "<-", none, ⟨1, 3⟩⟩,
    ⟨.number, "1", some (.number 1), ⟨1, 6⟩⟩, ⟨.binary .divide, "/", none, ⟨1, 8⟩⟩,
    ⟨.number, "0", some (.number 0), ⟨1, 10⟩⟩, ⟨.endOfLine, "\n", none, ⟨1, 11⟩⟩,
    ⟨.identifier, "b", some (.string "b"), ⟨2, 1⟩⟩, ⟨.arrow, "<-", none, ⟨2, 3⟩⟩,
    ⟨.number, "2", some (.number 2), ⟨2, 6⟩⟩, ⟨.endOfInput, "", none, ⟨2, 7⟩⟩]

/-- A number as it is read at a location. -/
def numberAt (value : Int) (location : Location) : Node :=
  .literal Kind.number.name (some (.number value)) location

/-- The division of one by zero. -/
def quotientByZero : Node :=
  .binary BinaryOperator.divide.text (numberAt 1 ⟨1, 6⟩) (numberAt 0 ⟨1, 10⟩) ⟨1, 8⟩

/-- The statements that store a quotient that there is not, and a number. -/
def quotientStatements : List Node :=
  [.assignment "a" quotientByZero ⟨1, 1⟩, .assignment "b" (numberAt 2 ⟨2, 6⟩) ⟨2, 1⟩]

/-- A division by zero is reported at the operator. -/
theorem quotientStatements_locations :
    ReadsAs "a <- 1 / 0\nb <- 2" quotientTokens quotientStatements ∧
    (Node.partsOfAll quotientStatements).Pairwise Node.Precedes ∧
    ∃ node, (Node.partsOfAll quotientStatements).filter
        (fun part => part.location? = some ⟨1, 8⟩) = [node] ∧
      node.Precedes (.assignment "b" (numberAt 2 ⟨2, 6⟩) ⟨2, 1⟩) := by
  have reads : ReadsAs "a <- 1 / 0\nb <- 2" quotientTokens quotientStatements :=
    ⟨by decide +kernel, rfl⟩
  obtain ⟨ordered, -, failing⟩ := reads.locations
  obtain ⟨-, node, -, unique, -, before⟩ := failing ⟨4, none, false, by decide⟩
    (Painting.mk none []) Node.nestingLimit 1 (.mishap .divisionByZero ⟨1, 8⟩)
    (.assignment "a" quotientByZero ⟨1, 1⟩) ⟨.running, "Division by zero", ⟨1, 8⟩⟩ rfl rfl
  exact ⟨reads, ordered, node, unique, before _ rfl⟩

end PixelBrush
