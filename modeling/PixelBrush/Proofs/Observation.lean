import PixelBrush.Proofs.Display
import PixelBrush.Proofs.Grammar.Correctness
import PixelBrush.Proofs.Source.Reading
import PixelBrush.Proofs.Tracing

/-! # Watching a run

A run can be watched in two ways: it can be traced, and what the painter is
told can be displayed.  Neither changes what the run comes to, and what is seen
of it, line by line, is what has happened.
-/

namespace PixelBrush

theorem Grammar.Statement.isSome_location (statement : Statement) :
    statement.tree.location?.isSome = true := by
  cases statement <;> rfl

/-- Every statement that is parsed has a location. -/
theorem isSome_location_of_parse {tokens : List Token} {statements : List Node}
    (parsed : parse tokens = .ok statements) :
    ∀ statement ∈ statements, statement.location?.isSome = true := by
  obtain ⟨derivation, rfl⟩ := Grammar.derivation_of_parseWithin parsed
  intro statement member
  obtain ⟨part, -, rfl⟩ := List.mem_map.mp member
  exact part.1.isSome_location

/-! ### Trace lines -/

/-- The index of a statement in decimal, with zeros in front up to four digits. -/
def fourDigits (index : Nat) : String :=
  String.ofList ((Nat.toDigits 10 index).leftpad 4 '0')

theorem TraceLine.indexText_eq (index : Nat) : indexText index = fourDigits index := by
  change String.ofList (index.repr.toList.leftpad 4 '0') = fourDigits index
  rw [Nat.toList_repr, fourDigits]

namespace Event

variable (colored : Bool)

theorem line?_redefinition (name : String) (line replacedLine : Int) :
    line? colored (.traced (.redefinition ⟨name, line, replacedLine⟩)) =
      some ("TRACE duplicate label '" ++ name ++ "' at line " ++ toString line ++
        " replaces line " ++ toString replacedLine) :=
  rfl

theorem line?_statement (counter : Nat) (type : String) (line : Int) :
    line? colored (.traced (.statement counter type line)) =
      some ("TRACE pc=" ++ fourDigits counter ++ " " ++ type ++ " line=" ++ toString line) := by
  rw [← TraceLine.indexText_eq]
  rfl

theorem line?_jump (label : String) (target : Nat) :
    line? colored (.traced (.jump label target)) =
      some ("TRACE goto " ++ label ++ " -> pc=" ++ fourDigits target) := by
  rw [← TraceLine.indexText_eq]
  rfl

end Event

/-- In a program that is read from a text, labels are named by texts. -/
theorem Labels.exists_name_of_redefinitionAt? {statements : List Node} {index : Nat}
    {noted : Redefinition} (formed : ∀ statement ∈ statements, statement.WellFormedStatement)
    (found : redefinitionAt? statements index = some noted) :
    ∃ name : String, noted.name = name := by
  unfold redefinitionAt? at found
  split at found
  next name location stands =>
    obtain ⟨replaced, -, rfl⟩ := Option.map_eq_some_iff.mp found
    cases formed _ (List.mem_of_getElem? stands) with
    | label identifier => exact ⟨_, rfl⟩
  next => cases found

theorem State.exists_name_of_jumpTaken? {settings : Settings} {painter : Painter} {budget : Nat}
    {state : State} {statement : Node} (formed : statement.WellFormedStatement)
    {jump : Name × Nat} (taken : state.jumpTaken? settings painter budget statement = some jump) :
    ∃ name : String, jump.1 = name := by
  cases formed with
  | jump identifier condition =>
      simp only [jumpTaken?] at taken
      split at taken
      · obtain ⟨target, -, rfl⟩ := Option.map_eq_some_iff.mp taken
        exact ⟨_, rfl⟩
      · cases taken
  | label | assignment | instruction => cases taken

namespace Job

/-- How a traced job stands to the same job without a trace, after a number of statements. -/
structure Traces (traced plain : Job) (count : Nat) : Prop where
  state : (traced.after count).state = (plain.after count).state
  outcome : (traced.after count).outcome = (plain.after count).outcome
  notifications : (traced.after count).notifications = (plain.after count).notifications
  /-- Without a trace, no trace lines are written. -/
  silent : Event.traceLines (plain.opening ++ (plain.after count).events) = []
  /-- The lines about redefined labels come first, one for each redefinition. -/
  opening : traced.opening = (plain.after count).state.redefinitions.map fun noted =>
    .traced (.redefinition noted)
  redefinitions : (plain.after count).state.redefinitions =
    (List.range plain.statements.length).filterMap (Labels.redefinitionAt? plain.statements)
  /-- Then each statement that is counted is told of, in order. -/
  events : (traced.after count).events =
    (List.range (plain.after count).state.steps).flatMap fun index =>
      plain.account (plain.after index)
  /-- A statement is announced; the target of a jump that is taken follows, or what the
  painter is told. -/
  account : ∀ index, index < (plain.after count).state.steps → ∃ statement location,
    plain.next? (plain.after index) = some statement ∧
    statement.location? = some location ∧
    (plain.after (index + 1)).state.steps = index + 1 ∧
    plain.account (plain.after index) =
      .traced (.statement (plain.after index).state.counter statement.typeName location.line) ::
        (((plain.after index).state.count.jumpTaken? plain.settings plain.painting plain.budget
            statement).toList.map fun jump => .traced (.jump jump.1 jump.2)) ++
        (Event.notifications (plain.stepOf (plain.after index) statement).events).map .notified
  /-- A jump that is taken leads behind its target, and any other statement to the next. -/
  counter : ∀ index statement, plain.next? (plain.after index) = some statement →
    (plain.after (index + 1)).hasFailed = false →
    (plain.after (index + 1)).state.counter =
      (((plain.after index).state.count.jumpTaken? plain.settings plain.painting plain.budget
        statement).map Prod.snd).getD (plain.after index).state.counter + 1

/-- The lines that a traced job prints in a number of statements, against the same job
without a trace. -/
structure Prints (traced plain : Job) (colored : Bool) (count : Nat) : Prop where
  /-- One line for each label that is defined again comes first. -/
  opening : traced.opening.map (Event.line? colored) =
    (plain.after count).state.redefinitions.map fun noted => noted.name.text?.map fun name =>
      "TRACE duplicate label '" ++ name ++ "' at line " ++ toString noted.line ++
        " replaces line " ++ toString noted.replacedLine
  /-- Then come the lines about each statement that is counted, in order. -/
  events : (traced.after count).events.map (Event.line? colored) =
    (List.range (plain.after count).state.steps).flatMap fun index =>
      (plain.account (plain.after index)).map (Event.line? colored)
  /-- Its own line is followed by that of a jump that is taken, or what the painter is told. -/
  account : ∀ index, index < (plain.after count).state.steps → ∃ statement location,
    plain.next? (plain.after index) = some statement ∧
    statement.location? = some location ∧
    (plain.account (plain.after index)).map (Event.line? colored) =
      some ("TRACE pc=" ++ fourDigits (plain.after index).state.counter ++ " " ++
          statement.typeName ++ " line=" ++ toString location.line) ::
        ((((plain.after index).state.count.jumpTaken? plain.settings plain.painting plain.budget
            statement).toList.map fun jump => jump.1.text?.map fun name =>
              "TRACE goto " ++ name ++ " -> pc=" ++ fourDigits jump.2) ++
          (Event.notifications (plain.stepOf (plain.after index) statement).events).map
            (Notification.sentence? colored))

/-- What displaying a job comes to after a number of statements. -/
structure Displays (job : Job) (colored : Bool) (count : Nat) : Prop where
  run : job.displayedAfter colored count = job.after count
  /-- There is one sentence for each notification, in their order. -/
  sentences : ((job.displayedAfter colored count).display colored).map some =
    (job.after count).notifications.map (Notification.sentence? colored)
  /-- Every sentence takes up one line. -/
  line : ∀ sentence ∈ (job.displayedAfter colored count).display colored, Text.IsLine sentence
  /-- There is one printed line for everything that happens, in its order. -/
  printed : (Invocation.printed colored (job.opening ++ (job.after count).events)).map some =
    (job.opening ++ (job.after count).events).map (Event.line? colored)

variable {job : Job}

theorem traces_of_located
    (located : ∀ statement ∈ job.statements, statement.location?.isSome = true) (count : Nat) :
    (job.withTrace true).Traces (job.withTrace false) count := by
  have sound := (job.withTrace false).sound_after count
  have untraced := job.untraced_after true count
  constructor
  case state => exact job.state_after_withTrace true count
  case outcome =>
    rw [← untraced]
    rfl
  case notifications => rw [← untraced, Run.notifications_untraced]
  case silent =>
    have plain := job.untraced_after false count
    rw [← plain, Run.events_untraced]
    exact Event.traceLines_untraced _
  case opening =>
    rw [sound.redefinitions]
    rfl
  case redefinitions => rw [sound.redefinitions, State.redefinitions_initial]
  case events => exact events_withTrace located count
  case account =>
    intro index counted
    obtain ⟨statement, next, below⟩ := exists_next?_of_lt_steps counted
    have member : statement ∈ job.statements := List.mem_of_getElem? (getElem?_of_next? next)
    obtain ⟨location, stands⟩ := Option.isSome_iff_exists.mp (located statement member)
    refine ⟨statement, location, next, stands, ?_, ?_⟩
    · rw [steps_after_succ next below, steps_of_isRunning (isRunning_of_next? next)]
    · have told : Event.untraced ((job.withTrace false).stepOf ((job.withTrace false).after index)
          statement).events =
          ((job.withTrace false).stepOf ((job.withTrace false).after index) statement).events :=
        congrArg Step.events (State.untraced_step job.settings job.painting job.budget _ statement
          false)
      rw [account_of_next? next, Event.map_notified_notifications, told]
      simp [State.traceLines, State.jumpLines, Node.line, stands, withTrace,
        State.jumpTaken?_withTrace, Option.toList_map]
  case counter => exact fun index statement next unfailed => counter_after_succ next unfailed

theorem prints_of_wellFormed
    (formed : ∀ statement ∈ job.statements, statement.WellFormedStatement) (colored : Bool)
    (count : Nat) : (job.withTrace true).Prints (job.withTrace false) colored count := by
  have traces := traces_of_located (fun statement member => (formed statement member).located) count
  constructor
  case opening =>
    rw [traces.opening, List.map_map]
    apply List.map_congr_left
    rintro ⟨label, line, replacedLine⟩ member
    rw [traces.redefinitions] at member
    obtain ⟨index, -, found⟩ := List.mem_filterMap.mp member
    obtain ⟨name, rfl⟩ : ∃ name : String, label = name :=
      Labels.exists_name_of_redefinitionAt? formed found
    exact Event.line?_redefinition colored name line replacedLine
  case events => rw [traces.events, List.map_flatMap]
  case account =>
    intro index counted
    obtain ⟨statement, location, next, stands, -, account⟩ := traces.account index counted
    refine ⟨statement, location, next, stands, ?_⟩
    have wellFormed := formed statement (List.mem_of_getElem? (getElem?_of_next? next))
    rw [account, List.map_append, List.map_cons, List.cons_append, List.map_map, List.map_map,
      Event.line?_statement]
    congr 2
    apply List.map_congr_left
    rintro ⟨label, target⟩ member
    obtain ⟨name, rfl⟩ : ∃ name : String, label = name :=
      State.exists_name_of_jumpTaken? wellFormed (Option.mem_toList.mp member)
    exact Event.line?_jump colored name target

theorem displays_of_short {colored : Bool} {count : Nat}
    (short : ∀ told ∈ (job.after count).notifications, told.IsShort) :
    job.Displays colored count where
  run := displayedAfter_of_short short
  sentences := by
    rw [displayedAfter_of_short short]
    exact map_some_display short
  line := by
    rw [displayedAfter_of_short short]
    exact fun sentence member => isLine_of_mem_display member
  printed := Invocation.map_some_printed (job.isSome_line?_of_short short)

/-- Watching the run of a parsed program does not change it, and shows what happens in it.
A trace writes one line for each statement that is counted and one for each jump that is
taken, behind one line for each label that is defined again; of a program that is read from
a text, they are the lines of `Prints`.  A display shows one line for each notification, as
long as no number in them has too many digits. -/
theorem traces_and_displays {tokens : List Token} (job : Job)
    (parsed : parse tokens = .ok job.statements) :
    (∀ count, (job.withTrace true).Traces (job.withTrace false) count) ∧
    (∀ source, tokenize source = .ok tokens → ∀ colored count,
      (job.withTrace true).Prints (job.withTrace false) colored count) ∧
    ∀ trace colored count,
      (∀ told ∈ ((job.withTrace trace).after count).notifications, told.IsShort) →
        (job.withTrace trace).Displays colored count := by
  refine ⟨traces_of_located (isSome_location_of_parse parsed), ?_, ?_⟩
  · intro source tokenized
    have reads : ReadsAs source tokens job.statements := ⟨tokenized, parsed⟩
    exact prints_of_wellFormed reads.wellFormed
  · exact fun trace colored count short => displays_of_short short

/-- The tokens of a program that defines a label twice and goes back to it for ever. -/
def fillingTokens : List Token :=
  [⟨.identifier, "top", some (.string "top"), ⟨1, 1⟩⟩, ⟨.colon, ":", none, ⟨1, 4⟩⟩,
    ⟨.endOfLine, "\n", none, ⟨1, 5⟩⟩,
    ⟨.command .spawn, "Spawn", none, ⟨2, 1⟩⟩, ⟨.leftParenthesis, "(", none, ⟨2, 6⟩⟩,
    ⟨.number, "0", some (.number 0), ⟨2, 7⟩⟩, ⟨.comma, ",", none, ⟨2, 8⟩⟩,
    ⟨.number, "1", some (.number 1), ⟨2, 10⟩⟩, ⟨.rightParenthesis, ")", none, ⟨2, 11⟩⟩,
    ⟨.endOfLine, "\n", none, ⟨2, 12⟩⟩,
    ⟨.identifier, "top", some (.string "top"), ⟨3, 1⟩⟩, ⟨.colon, ":", none, ⟨3, 4⟩⟩,
    ⟨.endOfLine, "\n", none, ⟨3, 5⟩⟩,
    ⟨.command .fill, "Fill", none, ⟨4, 1⟩⟩, ⟨.leftParenthesis, "(", none, ⟨4, 5⟩⟩,
    ⟨.rightParenthesis, ")", none, ⟨4, 6⟩⟩, ⟨.endOfLine, "\n", none, ⟨4, 7⟩⟩,
    ⟨.jump, "goto", none, ⟨5, 1⟩⟩, ⟨.leftBracket, "[", none, ⟨5, 5⟩⟩,
    ⟨.identifier, "top", some (.string "top"), ⟨5, 6⟩⟩, ⟨.rightBracket, "]", none, ⟨5, 9⟩⟩,
    ⟨.leftParenthesis, "(", none, ⟨5, 10⟩⟩, ⟨.boolean, "true", some (.boolean true), ⟨5, 11⟩⟩,
    ⟨.rightParenthesis, ")", none, ⟨5, 15⟩⟩, ⟨.endOfInput, "", none, ⟨5, 16⟩⟩]

/-- The job of that program on a canvas of nine cells. -/
def filling : Job where
  settings := ⟨3, none, true, Nat.succ_pos 2⟩
  painting := ({} : Painting)
  statements :=
    [.label "top" ⟨1, 1⟩,
      .instruction Command.spawn.code [.literal Kind.number.name (some (.number 0)) ⟨2, 7⟩,
        .literal Kind.number.name (some (.number 1)) ⟨2, 10⟩] ⟨2, 1⟩,
      .label "top" ⟨3, 1⟩,
      .instruction Command.fill.code [] ⟨4, 1⟩,
      .jump "top" (.literal Kind.boolean.name (some (.boolean true)) ⟨5, 11⟩) ⟨5, 1⟩]

theorem filling_traces_and_displays :
    tokenize "top:\nSpawn(0, 1)\ntop:\nFill()\ngoto[top](true)" = .ok fillingTokens ∧
    parse fillingTokens = .ok filling.statements ∧
    (filling.withTrace true).Traces (filling.withTrace false) 6 ∧
    (filling.withTrace true).opening = [.traced (.redefinition ⟨"top", 3, 1⟩)] ∧
    ((filling.withTrace true).after 6).events =
      [.traced (.statement 0 "Label" 1), .traced (.statement 1 "Instruction" 2),
        .notified (.spawn 0 1), .traced (.statement 2 "Label" 3),
        .traced (.statement 3 "Instruction" 4), .notified (.fill 0 1 "transparent"),
        .traced (.statement 4 "ConditionalJump" 5), .traced (.jump "top" 2),
        .traced (.statement 3 "Instruction" 4), .notified (.fill 0 1 "transparent")] ∧
    (filling.withTrace true).Prints (filling.withTrace false) false 6 ∧
    (filling.withTrace true).Displays false 6 ∧
    Invocation.printed false
        ((filling.withTrace true).opening ++ ((filling.withTrace true).after 6).events) =
      ["TRACE duplicate label 'top' at line 3 replaces line 1",
        "TRACE pc=0000 Label line=1",
        "TRACE pc=0001 Instruction line=2", "spawn at (0, 1)",
        "TRACE pc=0002 Label line=3",
        "TRACE pc=0003 Instruction line=4", "fill from (0, 1) transparent",
        "TRACE pc=0004 ConditionalJump line=5", "TRACE goto top -> pc=0002",
        "TRACE pc=0003 Instruction line=4", "fill from (0, 1) transparent"] ∧
    (filling.withTrace false).Displays false 6 ∧
    ((filling.withTrace false).displayedAfter false 6).display false =
      ["spawn at (0, 1)", "fill from (0, 1) transparent", "fill from (0, 1) transparent"] := by
  have tokenized : tokenize "top:\nSpawn(0, 1)\ntop:\nFill()\ngoto[top](true)" =
      .ok fillingTokens := by decide +kernel
  have parsed : parse fillingTokens = .ok filling.statements := rfl
  obtain ⟨traces, prints, displays⟩ := traces_and_displays filling parsed
  have told : ∀ trace, ((filling.withTrace trace).after 6).notifications =
      [.spawn 0 1, .fill 0 1 "transparent", .fill 0 1 "transparent"] := by
    intro trace
    cases trace <;> rfl
  have short : ∀ trace, ∀ told ∈ ((filling.withTrace trace).after 6).notifications,
      told.IsShort := by
    intro trace
    have written : ∀ told ∈ [Notification.spawn 0 1, .fill 0 1 "transparent",
        .fill 0 1 "transparent"], (told.sentence? false).isSome = true := by decide +kernel
    rw [told]
    exact fun told member => (told.isSome_sentence? false).mp (written told member)
  refine ⟨tokenized, parsed, traces 6, rfl, rfl, prints _ tokenized false 6,
    displays true false 6 (short true), ?_, displays false false 6 (short false), ?_⟩
  · decide +kernel
  · rw [(displays false false 6 (short false)).run]
    decide +kernel

end Job
end PixelBrush
