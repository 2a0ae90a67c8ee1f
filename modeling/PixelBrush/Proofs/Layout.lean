import PixelBrush.Diagnosis
import PixelBrush.Proofs.Erasure.Run
import PixelBrush.Proofs.Grammar.Correctness
import PixelBrush.Proofs.Grammar.Restyling
import PixelBrush.Proofs.Source.Reading

/-! # Layout and spelling do not matter

What matters about a program text are the kinds and values of its tokens, line
ends and comments aside.  Two texts in which these are the same have the same
trees, up to locations, and their runs do the same.
-/

namespace PixelBrush

/-- The kinds and values of tokens, apart from line ends and comments. -/
def essentials (tokens : List Token) : List (TokenKind × Payload) :=
  (tokens.filter fun token => !Parser.separates token.kind).map fun token =>
    (token.kind, token.value)

namespace Grammar

/-- Nothing is kept of a token but its kind and its value. -/
def bare : Restyling fun _ => .nowhere where
  apply token := ⟨token.kind, "", token.value, .nowhere⟩
  kind _ := rfl
  value _ := rfl
  location _ := rfl

theorem Separator.separates (separator : Separator) :
    Parser.separates separator.val.kind = true := by
  obtain ⟨token, endOfLine | comment⟩ := separator
  · simp [Parser.separates, endOfLine]
  · simp [Parser.separates, comment]

namespace Program

/-- A program without its separators. -/
def condensed (program : Program) : Program where
  leading := []
  statements := program.statements.map fun part => (part.1, [])

theorem trees_condensed (program : Program) : program.condensed.trees = program.trees := by
  simp [condensed, trees]

theorem filter_separators (separators : List Separator) :
    (separators.map Subtype.val).filter (fun token => !Parser.separates token.kind) = [] := by
  rw [List.filter_eq_nil_iff]
  intro token member
  obtain ⟨separator, -, rfl⟩ := List.mem_map.mp member
  simp [Separator.separates separator]

theorem filter_statement (statement : Statement) :
    statement.tokens.filter (fun token => !Parser.separates token.kind) = statement.tokens := by
  rw [List.filter_eq_self]
  intro token member
  simp [separates_of_not_isMargin (statement.not_isMargin token member)]

theorem statementTokens_condensed (parts : List (Statement × List Separator)) :
    statementTokens (parts.map fun part => (part.1, [])) =
      (statementTokens parts).filter fun token => !Parser.separates token.kind := by
  induction parts with
  | nil => rfl
  | cons part later induction =>
      rw [List.map_cons, statementTokens, statementTokens, induction, List.filter_append,
        List.filter_append, filter_statement, filter_separators]
      rfl

theorem tokens_condensed (program : Program) :
    program.condensed.tokens =
      program.tokens.filter fun token => !Parser.separates token.kind := by
  rw [tokens, tokens, List.filter_append, filter_separators]
  exact statementTokens_condensed program.statements

end Program

/-- Separators can be left out before or after the end of the input is looked for. -/
theorem filter_beforeEnd (tokens : List Token) :
    (beforeEnd tokens).filter (fun token => !Parser.separates token.kind) =
      beforeEnd (tokens.filter fun token => !Parser.separates token.kind) := by
  induction tokens with
  | nil => rfl
  | cons token later induction =>
      by_cases isEnd : token.kind = .endOfInput
      · simp [beforeEnd, isEnd, Parser.separates]
      · by_cases separates : Parser.separates token.kind = true <;>
          simpa [beforeEnd, isEnd, separates] using induction

variable {first second : List Token}

theorem map_bare_of_essentials (same : essentials first = essentials second) :
    (first.filter fun token => !Parser.separates token.kind).map bare.apply =
      (second.filter fun token => !Parser.separates token.kind).map bare.apply := by
  have rebuilt := congrArg
    (List.map fun essential : TokenKind × Payload =>
      (⟨essential.1, "", essential.2, .nowhere⟩ : Token)) same
  rw [essentials, essentials, List.map_map, List.map_map] at rebuilt
  exact rebuilt

/-- A derivation is determined by the essentials, up to separators and locations. -/
theorem condensed_restyle_eq (firstDerivation : Derivation first)
    (secondDerivation : Derivation second) (same : essentials first = essentials second) :
    firstDerivation.val.condensed.restyle bare = secondDerivation.val.condensed.restyle bare := by
  apply Program.eq_of_tokens
  rw [Program.tokens_restyle, Program.tokens_restyle, Program.tokens_condensed,
    Program.tokens_condensed, firstDerivation.property, secondDerivation.property,
    filter_beforeEnd, filter_beforeEnd, ← beforeEnd_map_apply, ← beforeEnd_map_apply,
    map_bare_of_essentials same]

theorem Program.trees_bare (program : Program) :
    (program.condensed.restyle bare).trees = Node.unlocatedAll program.trees := by
  rw [trees_restyle, trees_condensed, Node.unlocatedAll_eq_map]
  exact List.map_congr_left fun statement _ => statement.relocate_nowhere

theorem unlocatedAll_eq_of_essentials {firstStatements secondStatements : List Node}
    (firstRead : parse first = .ok firstStatements)
    (secondRead : parse second = .ok secondStatements)
    (same : essentials first = essentials second) :
    Node.unlocatedAll firstStatements = Node.unlocatedAll secondStatements := by
  obtain ⟨firstDerivation, rfl⟩ := derivation_of_parseWithin firstRead
  obtain ⟨secondDerivation, rfl⟩ := derivation_of_parseWithin secondRead
  rw [← Program.trees_bare, ← Program.trees_bare,
    condensed_restyle_eq firstDerivation secondDerivation same]

end Grammar

/-- Whether two runs stand alike.  Runs that have failed did so for the same reason and
report it in the same words. -/
inductive Outcome.Alike : Outcome → Outcome → Prop
  | running : Alike .running .running
  | finished : Alike .finished .finished
  | failed {firstFault secondFault : Fault} {firstStatement secondStatement : Node}
      (cause : firstFault.unlocated = secondFault.unlocated)
      (statement : firstStatement.unlocated = secondStatement.unlocated)
      (message : (firstFault.runDiagnosis? firstStatement).map Diagnosis.message =
        (secondFault.runDiagnosis? secondStatement).map Diagnosis.message) :
      Alike (.failed firstFault firstStatement) (.failed secondFault secondStatement)

/-- Whether two runs have done the same, wherever the statements stand in their texts. -/
structure Run.Alike (first second : Run) : Prop where
  store : first.state.store = second.state.store
  labels : first.state.labels = second.state.labels
  redefinitions : first.state.redefinitions.map Redefinition.name =
    second.state.redefinitions.map Redefinition.name
  counter : first.state.counter = second.state.counter
  steps : first.state.steps = second.state.steps
  robot : first.state.robot = second.state.robot
  notifications : first.notifications = second.notifications
  outcome : first.outcome.Alike second.outcome

/-- The words of a report do not depend on locations. -/
theorem Fault.message_unlocated (fault : Fault) (statement : Node) :
    (fault.unlocated.runDiagnosis? statement.unlocated).map Diagnosis.message =
      (fault.runDiagnosis? statement).map Diagnosis.message := by
  cases fault with
  | mishap cause location =>
      simp only [unlocated, runDiagnosis?]
      cases cause.message? <;> rfl
  | tooDeep =>
      simp only [unlocated, runDiagnosis?, Node.location?_unlocated]
      cases statement.location? <;> rfl
  | _ => rfl

theorem Outcome.alike_of_unlocated {first second : Outcome}
    (same : first.unlocated = second.unlocated) : first.Alike second := by
  cases first <;> cases second <;> simp only [unlocated, failed.injEq, reduceCtorEq] at same
  case running.running => exact .running
  case finished.finished => exact .finished
  case failed.failed firstFault firstStatement secondFault secondStatement =>
    refine .failed same.1 same.2 ?_
    rw [← Fault.message_unlocated, ← Fault.message_unlocated secondFault, same.1, same.2]

namespace Run

theorem notifications_unlocated (run : Run) : run.unlocated.notifications = run.notifications := by
  have event (event : Event) : event.unlocated.notification? = event.notification? := by
    cases event <;> rfl
  have step (step : Step) :
      Event.notifications step.unlocated.events = Event.notifications step.events := by
    simp only [Event.notifications, Step.unlocated, List.filterMap_map]
    exact congrArg (List.filterMap · step.events) (funext event)
  unfold Event.notifications at step
  simp [notifications, events, steps, unlocated, Event.notifications, ← List.map_reverse,
    List.flatMap_map, List.filterMap_flatMap, step]

theorem alike_of_unlocated {first second : Run} (same : first.unlocated = second.unlocated) :
    first.Alike second where
  store := (congrArg (fun run : Run => run.state.store) same :)
  labels := (congrArg (fun run : Run => run.state.labels) same :)
  redefinitions := by
    have names := congrArg (fun run : Run => run.state.redefinitions.map Redefinition.name) same
    simpa [unlocated, State.unlocated, Function.comp_def, Redefinition.unlocated] using names
  counter := (congrArg (fun run : Run => run.state.counter) same :)
  steps := (congrArg (fun run : Run => run.state.steps) same :)
  robot := (congrArg (fun run : Run => run.state.robot) same :)
  notifications := by
    rw [← notifications_unlocated, same, notifications_unlocated]
  outcome := Outcome.alike_of_unlocated (congrArg Run.outcome same)

end Run

/-- Programs that differ in their locations only have runs that do the same. -/
theorem Job.after_alike (settings : Settings) (painting : Painting) (budget : Nat)
    {first second : List Node} (same : Node.unlocatedAll first = Node.unlocatedAll second)
    (count : Nat) :
    Run.Alike ((Job.mk settings painting first budget).after count)
      ((Job.mk settings painting second budget).after count) := by
  have paints (statements : List Node) :
      (Job.mk settings painting statements budget).painting = Painter.ofPainting painting := rfl
  apply Run.alike_of_unlocated
  rw [← after_unlocated (paints first), ← after_unlocated (paints second)]
  exact congrArg (fun statements => (Job.mk settings painting statements budget).after count) same

/-- Programs with the same essentials have the same trees, up to locations.  Run on
canvases of the same size, with the same limit and the same cells, they do the same,
one statement after the other, and end the same way. -/
theorem ReadsAs.alike_of_essentials {first second : String}
    {firstTokens secondTokens : List Token} {firstStatements secondStatements : List Node}
    (firstReads : ReadsAs first firstTokens firstStatements)
    (secondReads : ReadsAs second secondTokens secondStatements)
    (same : essentials firstTokens = essentials secondTokens) :
    (Node.ofStatements firstStatements).unlocated =
      (Node.ofStatements secondStatements).unlocated ∧
    ∀ (settings : Settings) (painting : Painting) (budget count : Nat),
      Run.Alike ((Job.mk settings painting firstStatements budget).after count)
        ((Job.mk settings painting secondStatements budget).after count) := by
  have sameStatements :=
    Grammar.unlocatedAll_eq_of_essentials firstReads.parsed secondReads.parsed same
  exact ⟨congrArg (Node.program · .nowhere) sameStatements, fun settings painting budget count =>
    Job.after_alike settings painting budget sameStatements count⟩

/-- The tokens of `x <- 07 AND true` with `Fill()` on a line of its own. -/
def spacedTokens : List Token :=
  [⟨.identifier, "x", some (.string "x"), ⟨1, 1⟩⟩, ⟨.arrow, "<-", none, ⟨1, 3⟩⟩,
    ⟨.number, "07", some (.number 7), ⟨1, 6⟩⟩, ⟨.binary .and, "AND", none, ⟨1, 9⟩⟩,
    ⟨.boolean, "true", some (.boolean true), ⟨1, 13⟩⟩, ⟨.endOfLine, "\n", none, ⟨1, 17⟩⟩,
    ⟨.command .fill, "Fill", none, ⟨2, 1⟩⟩, ⟨.leftParenthesis, "(", none, ⟨2, 5⟩⟩,
    ⟨.rightParenthesis, ")", none, ⟨2, 6⟩⟩, ⟨.endOfInput, "", none, ⟨2, 7⟩⟩]

/-- The same written densely, with a comment in between. -/
def denseTokens : List Token :=
  [⟨.comment, "// y", none, ⟨1, 1⟩⟩, ⟨.identifier, "x", some (.string "x"), ⟨2, 1⟩⟩,
    ⟨.arrow, "<-", none, ⟨2, 2⟩⟩, ⟨.number, "7", some (.number 7), ⟨2, 4⟩⟩,
    ⟨.binary .and, "&&", none, ⟨2, 5⟩⟩, ⟨.boolean, "True", some (.boolean true), ⟨2, 7⟩⟩,
    ⟨.command .fill, "fill", none, ⟨2, 12⟩⟩, ⟨.leftParenthesis, "(", none, ⟨2, 16⟩⟩,
    ⟨.rightParenthesis, ")", none, ⟨2, 17⟩⟩, ⟨.endOfInput, "", none, ⟨2, 18⟩⟩]

/-- However densely the program is written, it does the same. -/
theorem spaced_alike_dense : ∃ spaced dense,
    ReadsAs "x <- 07 AND true\nFill()" spacedTokens spaced ∧
    ReadsAs "// y\r\nx<-7&&True fill()" denseTokens dense ∧
    essentials spacedTokens = essentials denseTokens ∧
    (Node.ofStatements spaced).unlocated = (Node.ofStatements dense).unlocated ∧
    Run.Alike
      ((Job.mk ⟨4, none, false, by decide⟩ (Painting.mk none []) spaced Node.nestingLimit).after 1)
      ((Job.mk ⟨4, none, false, by decide⟩ (Painting.mk none []) dense Node.nestingLimit).after 1)
    := by
  have spaced : ReadsAs "x <- 07 AND true\nFill()" spacedTokens
      [.assignment "x" (.binary BinaryOperator.and.text
          (.literal Kind.number.name (some (.number 7)) ⟨1, 6⟩)
          (.literal Kind.boolean.name (some (.boolean true)) ⟨1, 13⟩) ⟨1, 9⟩) ⟨1, 1⟩,
        .instruction Command.fill.code [] ⟨2, 1⟩] := ⟨by decide +kernel, rfl⟩
  have dense : ReadsAs "// y\r\nx<-7&&True fill()" denseTokens
      [.assignment "x" (.binary BinaryOperator.and.text
          (.literal Kind.number.name (some (.number 7)) ⟨2, 4⟩)
          (.literal Kind.boolean.name (some (.boolean true)) ⟨2, 7⟩) ⟨2, 5⟩) ⟨2, 1⟩,
        .instruction Command.fill.code [] ⟨2, 12⟩] := ⟨by decide +kernel, rfl⟩
  have same : essentials spacedTokens = essentials denseTokens := by decide
  obtain ⟨trees, runs⟩ := spaced.alike_of_essentials dense same
  exact ⟨_, _, spaced, dense, same, trees, runs _ _ _ _⟩

end PixelBrush
