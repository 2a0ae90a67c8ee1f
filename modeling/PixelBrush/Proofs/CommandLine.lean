import PixelBrush.Proofs.Display
import PixelBrush.Proofs.Outline
import PixelBrush.Proofs.Refusal.Run
import PixelBrush.Proofs.Segmentation.Front
import PixelBrush.Proofs.StepLimit

/-! # How commands end

A command works in stages: it reads the tokens of a text, reads the program they
make up, and prints its tree or runs it.  Either all of its stages succeed, or
one of them says what is wrong, or a limit of the surroundings is exceeded: a
number has too many digits to be read or to be written, or a tree nests too
deep to be printed.
-/

namespace PixelBrush

/-! ### What cannot be read -/

namespace Cursor

open Segmentation

/-- What cannot be read has a place to blame, or is a number with too many digits. -/
theorem located_or_tooManyDigits {cursor : Cursor} {count : Nat} {error : LexicalError}
    (failed : (tokensWithin count cursor).1 = .error error) :
    (∃ location, error.location? = some location) ∨
      ∃ digits, error = .tooManyDigits digits ∧ Text.digitLimit < digits := by
  refine (breaks_of_tokensWithin failed).imp_left fun ⟨tokens, breaks⟩ => ?_
  obtain ⟨-, -, -, -, here, -, -, -, -, place, -⟩ := breaks.exists_first
  exact ⟨here, place⟩

end Cursor

/-! ### What is printed about a run -/

/-- Whether none of the numbers of a robot has too many digits. -/
structure Robot.IsShort (robot : Robot) : Prop where
  x : Text.digitCount robot.x ≤ Text.digitLimit
  y : Text.digitCount robot.y ≤ Text.digitLimit
  size : Text.digitCount robot.size ≤ Text.digitLimit

/-- A robot whose painter is told short numbers has short numbers itself. -/
theorem Effect.isShort {settings : Settings} {robot after : Robot} {told : Notification}
    (effect : Effect settings robot after told) (robotShort : robot.IsShort)
    (toldShort : told.IsShort) : after.IsShort := by
  cases effect with
  | spawn | line | circle | rectangle =>
      exact ⟨toldShort _ (by simp [Notification.details]),
        toldShort _ (by simp [Notification.details]), robotShort.size⟩
  | size => exact ⟨robotShort.x, robotShort.y, toldShort _ (by simp [Notification.details])⟩
  | color => exact ⟨robotShort.x, robotShort.y, robotShort.size⟩
  | fill => exact robotShort

theorem Job.isShort_robot {job : Job} {count : Nat}
    (short : ∀ told ∈ (job.after count).notifications, told.IsShort) :
    (job.after count).state.robot.IsShort := by
  revert short
  apply notifications_induction
    (motive := fun robot log => (∀ told ∈ log, told.IsShort) → robot.IsShort)
  · exact fun _ => ⟨by decide, by decide, by decide⟩
  · intro robot after notification log holds effect short
    rw [List.forall_mem_append, List.forall_mem_singleton] at short
    exact effect.isShort (holds short.1) short.2

namespace Invocation

variable {terminal : Bool} {job : Job} {run : Run}

/-- As long as every number that is told is short, all lines about a run are printed. -/
theorem conclude_of_short (invocation : Invocation)
    (short : ∀ told ∈ run.notifications, told.IsShort) :
    invocation.conclude terminal job run =
      { invocation.ending terminal run with
        lines := printed terminal (job.opening ++ run.events) ++
          (invocation.ending terminal run).lines } := by
  have writable : ∀ event ∈ job.opening ++ run.events, (event.line? terminal).isSome = true :=
    job.isSome_line?_of_short short
  have lines := congrArg List.length (map_some_printed writable)
  rw [List.length_map, List.length_map] at lines
  unfold conclude
  dsimp only
  rw [if_neg (Nat.not_lt.mpr (Nat.le_of_eq lines.symm))]

theorem exit_conclude_of_long (invocation : Invocation) {told : Notification}
    (member : told ∈ run.notifications) (long : ¬ told.IsShort) :
    (invocation.conclude terminal job run).exit = .crash (.fault .tooManyDigits) := by
  have unwritable : (Event.notified told).line? terminal = none :=
    (told.sentence?_eq_none_iff terminal).mpr long
  have among : .notified told ∈ job.opening ++ run.events :=
    List.mem_append_right _ (Event.mem_notifications.mp member)
  have found : ((job.opening ++ run.events).find? fun event =>
      (event.line? terminal).isNone).isSome = true :=
    List.find?_isSome.mpr ⟨_, among, Option.isNone_iff_eq_none.mpr unwritable⟩
  obtain ⟨event, found⟩ := Option.isSome_iff_exists.mp found
  -- What is printed stops at the first event that cannot be written.
  obtain ⟨stuck, front, rest, events, writable⟩ := List.find?_eq_some_iff_append.mp found
  rw [conclude_of_unwritable invocation events (by simpa using writable)
    (Option.isNone_iff_eq_none.mp stuck)]
  rfl

theorem exists_summary {state : State} (short : state.robot.IsShort) :
    ∃ line, summary? state = some line := by
  obtain ⟨size, shownSize⟩ :=
    Option.isSome_iff_exists.mp (Notification.isSome_decimal?.mpr short.size)
  obtain ⟨place, shownPlace⟩ :=
    Option.isSome_iff_exists.mp (Notification.isSome_point?.mpr ⟨short.x, short.y⟩)
  cases spawned : state.robot.spawned <;> simp [summary?, spawned, shownSize, shownPlace]

/-! ### The stages of a command -/

/-- What an invocation reports about a file.  A program is run to its end before. -/
inductive Reports (invocation : Invocation) (terminal : Bool)
    (file : Except FileError ByteArray) : Report → Prop
  | done {report : Report} (planned : invocation.plan terminal file = .done report) :
      Reports invocation terminal file report
  | ran {job : Job} {count : Nat} (planned : invocation.plan terminal file = .run job)
      (ends : job.EndsAfter count) :
      Reports invocation terminal file (invocation.conclude terminal job (job.after count))

/-- The job of running the statements of a program as it is asked for. -/
def jobOf (invocation : Invocation) (statements : List Node) : Job :=
  { settings := invocation.settings, painting := ({} : Painting), statements }

/-- Whether all stages of a command succeed on a program text. -/
inductive Succeeds (invocation : Invocation) (source : String) : Prop
  | tokens {tokens : List Token} (asked : invocation.task = .tokens)
      (tokenized : tokenize (endLastLine source) = .ok tokens)
  | parse {tokens : List Token} {statements : List Node} (asked : invocation.task = .parse)
      (reads : ReadsAs (endLastLine source) tokens statements)
      (shallow : (Node.ofStatements statements).levels ≤ Node.nestingLimit)
      (near : ∀ part ∈ (Node.ofStatements statements).parts,
        ∀ location, part.location? = some location → ¬ location.IsFar)
  | run {tokens : List Token} {statements : List Node} {count : Nat}
      (asked : invocation.task = .run) (reads : ReadsAs (endLastLine source) tokens statements)
      (ends : (invocation.jobOf statements).EndsAfter count)
      (finished : ((invocation.jobOf statements).after count).outcome = .finished)
      (short : ∀ told ∈ ((invocation.jobOf statements).after count).notifications, told.IsShort)

/-- What one of the stages of a command says is wrong with a program text. -/
inductive Diagnoses (invocation : Invocation) (source : String) : Diagnosis → Prop
  | lexing {error : LexicalError} {location : Location}
      (refused : tokenize (endLastLine source) = .error error)
      (stands : error.location? = some location) :
      Diagnoses invocation source ⟨.lexing, error.message, location⟩
  | parsing {tokens : List Token} {complaint : Complaint} (further : invocation.task ≠ .tokens)
      (tokenized : tokenize (endLastLine source) = .ok tokens)
      (refused : parse tokens = .error complaint) :
      Diagnoses invocation source ⟨.parsing, complaint.message, complaint.location⟩
  | running {tokens : List Token} {statements : List Node} {count : Nat} {fault : Fault}
      {statement : Node} {diagnosis : Diagnosis} (asked : invocation.task = .run)
      (reads : ReadsAs (endLastLine source) tokens statements)
      (ends : (invocation.jobOf statements).EndsAfter count)
      (failed : ((invocation.jobOf statements).after count).outcome = .failed fault statement)
      (short : ∀ told ∈ ((invocation.jobOf statements).after count).notifications, told.IsShort)
      (told : fault.runDiagnosis? statement = some diagnosis) :
      Diagnoses invocation source diagnosis

/-- Which limit of the surroundings a program text makes a command exceed: a number is too
long to be read, the tree is too deep to be printed, or a number is too long to be printed in
the tree, in what the painter is told, or in the message about a mishap. -/
inductive Exceeds (invocation : Invocation) (source : String) : Crash → Prop
  | number {digits : Nat} (refused : tokenize (endLastLine source) = .error (.tooManyDigits digits))
      (long : Text.digitLimit < digits) :
      Exceeds invocation source (.lexical (.tooManyDigits digits))
  | depth {tokens : List Token} {statements : List Node} (asked : invocation.task = .parse)
      (reads : ReadsAs (endLastLine source) tokens statements)
      (deep : Node.nestingLimit < (Node.ofStatements statements).levels) :
      Exceeds invocation source (.outline .tooDeep)
  | place {tokens : List Token} {statements : List Node} {part : Node} {location : Location}
      (asked : invocation.task = .parse)
      (reads : ReadsAs (endLastLine source) tokens statements)
      (shallow : (Node.ofStatements statements).levels ≤ Node.nestingLimit)
      (member : part ∈ (Node.ofStatements statements).parts)
      (stands : part.location? = some location) (far : location.IsFar) :
      Exceeds invocation source (.fault .tooManyDigits)
  | notification {tokens : List Token} {statements : List Node} {count : Nat}
      {told : Notification} (asked : invocation.task = .run)
      (reads : ReadsAs (endLastLine source) tokens statements)
      (ends : (invocation.jobOf statements).EndsAfter count)
      (member : told ∈ ((invocation.jobOf statements).after count).notifications)
      (long : ¬ told.IsShort) :
      Exceeds invocation source (.fault .tooManyDigits)
  | message {tokens : List Token} {statements : List Node} {count : Nat} {cause : Mishap}
      {statement : Node} (asked : invocation.task = .run)
      (reads : ReadsAs (endLastLine source) tokens statements)
      (ends : (invocation.jobOf statements).EndsAfter count)
      (failed : ((invocation.jobOf statements).after count).outcome =
        .failed (.unwritable cause) statement)
      (short : ∀ told ∈ ((invocation.jobOf statements).after count).notifications, told.IsShort)
      (long : ∃ number ∈ cause.numbers, Text.digitLimit < Text.digitCount number) :
      Exceeds invocation source (.fault (.unwritable cause))

/-- Whether a command ends in one of the three ways. -/
def Settles (invocation : Invocation) (source : String) : Prop :=
  invocation.Succeeds source ∨ (∃ diagnosis, invocation.Diagnoses source diagnosis) ∨
    ∃ cause, invocation.Exceeds source cause

section

variable {invocation : Invocation} {source : String} {tokens : List Token}
  {statements : List Node}

theorem settles_of_parse (asked : invocation.task = .parse)
    (reads : ReadsAs (endLastLine source) tokens statements) : invocation.Settles source := by
  by_cases deep : Node.nestingLimit < (Node.ofStatements statements).levels
  · exact .inr (.inr ⟨_, .depth asked reads deep⟩)
  have shallow := Nat.not_lt.mp deep
  by_cases near : ∀ part ∈ (Node.ofStatements statements).parts,
      ∀ location, part.location? = some location → ¬ location.IsFar
  · exact .inl (.parse asked reads shallow near)
  · simp only [not_forall, not_not] at near
    obtain ⟨part, member, location, stands, far⟩ := near
    exact .inr (.inr ⟨_, .place asked reads shallow member stands far⟩)

theorem settles_of_run {count : Nat} (asked : invocation.task = .run)
    (reads : ReadsAs (endLastLine source) tokens statements)
    (ends : (invocation.jobOf statements).EndsAfter count) : invocation.Settles source := by
  by_cases short : ∀ told ∈ ((invocation.jobOf statements).after count).notifications,
      told.IsShort
  · cases stands : ((invocation.jobOf statements).after count).outcome with
    | running =>
        have ended := ends.ended
        rw [Run.isRunning, stands] at ended
        cases ended
    | finished => exact .inl (.run asked reads ends stands short)
    | failed fault statement =>
        obtain ⟨member, regular⟩ := Job.failed_regular reads.wellFormed count stands
        cases regular.told (reads.wellFormed statement member).located with
        | mishap _ _ _ _ running =>
            exact .inr (.inl ⟨_, .running asked reads ends stands short running⟩)
        | tooDeep _ running =>
            exact .inr (.inl ⟨_, .running asked reads ends stands short running⟩)
        | unwritable _ long =>
            exact .inr (.inr ⟨_, .message asked reads ends stands short long⟩)
  · simp only [not_forall] at short
    obtain ⟨told, member, long⟩ := short
    exact .inr (.inr ⟨_, .notification asked reads ends member long⟩)

/-- Either all stages succeed, or one of them says what is wrong, or a limit is exceeded. -/
theorem settles (limited : invocation.task = .run → invocation.settings.stepLimit.isSome = true)
    (source : String) : invocation.Settles source := by
  cases tokenized : tokenize (endLastLine source) with
  | error error =>
      rcases Cursor.located_or_tooManyDigits tokenized with
        ⟨location, stands⟩ | ⟨digits, rfl, long⟩
      · exact .inr (.inl ⟨_, .lexing tokenized stands⟩)
      · exact .inr (.inr ⟨_, .number tokenized long⟩)
  | ok tokens =>
      by_cases only : invocation.task = .tokens
      · exact .inl (.tokens only tokenized)
      cases parsed : parse tokens with
      | error complaint => exact .inr (.inl ⟨_, .parsing only tokenized parsed⟩)
      | ok statements =>
          cases asked : invocation.task with
          | tokens => exact absurd asked only
          | parse => exact settles_of_parse asked ⟨tokenized, parsed⟩
          | run =>
              obtain ⟨count, ends⟩ :=
                (invocation.jobOf statements).exists_endsAfter_of_limited (limited asked)
              exact settles_of_run asked ⟨tokenized, parsed⟩ ends

/-! ### What is reported in each of the three ways -/

variable {terminal : Bool} {bytes : ByteArray} {report : Report}

theorem plan_of_decoded (decoded : decode? bytes = some source) :
    invocation.plan terminal (.ok bytes) = invocation.planFor terminal source := by
  unfold plan
  dsimp only
  rw [decoded]

theorem planFor_of_located {error : LexicalError} {location : Location}
    (refused : tokenize (endLastLine source) = .error error)
    (stands : error.location? = some location) :
    invocation.planFor terminal source =
      .done (invocation.failing terminal
        (Diagnosis.mk .lexing error.message location).description) := by
  simp [planFor, refused, LexicalError.diagnosis?, stands]

theorem planFor_of_tooManyDigits {digits : Nat}
    (refused : tokenize (endLastLine source) = .error (.tooManyDigits digits)) :
    invocation.planFor terminal source =
      .done (.crashing (.lexical (.tooManyDigits digits))) := by
  simp [planFor, refused, LexicalError.diagnosis?, LexicalError.location?]

theorem planFor_tokens (asked : invocation.task = .tokens)
    (tokenized : tokenize (endLastLine source) = .ok tokens) :
    invocation.planFor terminal source = .done (.succeeding (tokens.map Token.row)) := by
  unfold planFor
  rw [tokenized, asked]

theorem planFor_of_complaint {complaint : Complaint} (further : invocation.task ≠ .tokens)
    (tokenized : tokenize (endLastLine source) = .ok tokens)
    (refused : parse tokens = .error complaint) :
    invocation.planFor terminal source =
      .done (invocation.failing terminal complaint.diagnosis.description) := by
  unfold planFor
  rw [tokenized]
  cases asked : invocation.task with
  | tokens => exact absurd asked further
  | parse | run =>
      dsimp only
      rw [refused]

theorem planFor_parse (asked : invocation.task = .parse)
    (reads : ReadsAs (endLastLine source) tokens statements) :
    invocation.planFor terminal source = .done (treeReport statements) := by
  unfold planFor
  rw [reads.tokenized, asked]
  dsimp only
  rw [reads.parsed]
  rfl

theorem planFor_run (asked : invocation.task = .run)
    (reads : ReadsAs (endLastLine source) tokens statements) :
    invocation.planFor terminal source = .run (invocation.jobOf statements) := by
  unfold planFor
  rw [reads.tokenized, asked]
  dsimp only
  rw [reads.parsed]
  rfl

theorem outline_of_reads (reads : ReadsAs (endLastLine source) tokens statements) :
    Node.outline Node.nestingLimit (.ofStatements statements) =
      Node.laidOut (Node.ofStatements statements).levels Node.nestingLimit
        (Node.ofStatements statements).document :=
  Node.outline_eq _ _ (Node.isWhole_of_plain (Node.plain_ofStatements reads.wellFormed))

theorem treeReport_of_deep (reads : ReadsAs (endLastLine source) tokens statements)
    (deep : Node.nestingLimit < (Node.ofStatements statements).levels) :
    treeReport statements = .crashing (.outline .tooDeep) := by
  have outline := outline_of_reads reads
  rw [Node.laidOut, if_neg (Nat.not_le.mpr deep)] at outline
  simp [treeReport, outline]

section

variable (reads : ReadsAs (endLastLine source) tokens statements)
  (shallow : (Node.ofStatements statements).levels ≤ Node.nestingLimit)
include reads shallow

theorem treeReport_of_printed {text : String}
    (shown : (Node.ofStatements statements).document.print? 0 = some text) :
    treeReport statements = .succeeding [text] := by
  have outline := outline_of_reads reads
  rw [Node.laidOut, if_pos shallow] at outline
  simp [treeReport, outline, shown]

theorem treeReport_of_unprinted
    (unshown : (Node.ofStatements statements).document.print? 0 = none) :
    treeReport statements = .crashing (.fault .tooManyDigits) := by
  have outline := outline_of_reads reads
  rw [Node.laidOut, if_pos shallow] at outline
  simp [treeReport, outline, unshown]

end

theorem print?_eq_none_iff (reads : ReadsAs (endLastLine source) tokens statements) :
    (Node.ofStatements statements).document.print? 0 = none ↔
      ∃ part ∈ (Node.ofStatements statements).parts,
        ∃ location, part.location? = some location ∧ location.IsFar := by
  rw [Document.print?_eq_none_iff,
    Node.hasLong_numbers_document_iff (Node.plain_ofStatements reads.wellFormed)]

theorem Reports.unique {file : Except FileError ByteArray} {other : Report}
    (reports : invocation.Reports terminal file report)
    (reportsToo : invocation.Reports terminal file other) : report = other := by
  cases reports with
  | done planned =>
      cases reportsToo with
      | done too =>
          rw [planned] at too
          exact Plan.done.inj too
      | ran too ends =>
          rw [planned] at too
          cases too
  | ran planned ends =>
      cases reportsToo with
      | done too =>
          rw [planned] at too
          cases too
      | ran too endsToo =>
          rw [planned] at too
          obtain rfl := Plan.run.inj too
          rw [ends.unique endsToo]

theorem Reports.eq_of_done {planned : Report} (decoded : decode? bytes = some source)
    (plan : invocation.planFor terminal source = .done planned)
    (reports : invocation.Reports terminal (.ok bytes) report) : report = planned :=
  reports.unique (.done ((plan_of_decoded decoded).trans plan))

theorem Reports.eq_of_run {job : Job} {count : Nat} (decoded : decode? bytes = some source)
    (plan : invocation.planFor terminal source = .run job) (ends : job.EndsAfter count)
    (reports : invocation.Reports terminal (.ok bytes) report) :
    report = invocation.conclude terminal job (job.after count) :=
  reports.unique (.ran ((plan_of_decoded decoded).trans plan) ends)

theorem Succeeds.exit (succeeds : invocation.Succeeds source)
    (decoded : decode? bytes = some source)
    (reports : invocation.Reports terminal (.ok bytes) report) : report.exit = .success := by
  cases succeeds with
  | tokens asked tokenized =>
      rw [reports.eq_of_done decoded (planFor_tokens asked tokenized)]
      rfl
  | @parse tokens statements asked reads shallow near =>
      rw [reports.eq_of_done decoded (planFor_parse asked reads)]
      cases shown : (Node.ofStatements statements).document.print? 0 with
      | some text =>
          rw [treeReport_of_printed reads shallow shown]
          rfl
      | none =>
          obtain ⟨part, member, location, stands, far⟩ := (print?_eq_none_iff reads).mp shown
          exact absurd far (near part member location stands)
  | run asked reads ends finished short =>
      obtain ⟨line, shown⟩ := exists_summary (Job.isShort_robot short)
      rw [reports.eq_of_run decoded (planFor_run asked reads) ends, conclude_of_short _ short,
        ending, finished]
      dsimp only
      rw [shown]
      rfl

/-- A diagnosis as it is shown to a user, in red on a terminal. -/
def shownDiagnosis (terminal : Bool) (diagnosis : Diagnosis) : String :=
  if terminal then Color.red.terminalCode ++ diagnosis.description ++ Color.terminalReset
  else diagnosis.description

theorem failing_of_plain (plain : invocation.debug = false) (diagnosis : Diagnosis) :
    invocation.failing terminal diagnosis.description =
      { lines := [shownDiagnosis terminal diagnosis], exit := .failure } := by
  unfold failing
  rw [plain]
  rfl

theorem Diagnoses.exit {diagnosis : Diagnosis} (diagnoses : invocation.Diagnoses source diagnosis)
    (plain : invocation.debug = false) (decoded : decode? bytes = some source)
    (reports : invocation.Reports terminal (.ok bytes) report) :
    report.exit = .failure ∧
      ∃ before, report.lines = before ++ [shownDiagnosis terminal diagnosis] := by
  cases diagnoses with
  | lexing refused stands =>
      rw [reports.eq_of_done decoded (planFor_of_located refused stands), failing_of_plain plain]
      exact ⟨rfl, [], rfl⟩
  | parsing further tokenized refused =>
      rw [reports.eq_of_done decoded (planFor_of_complaint further tokenized refused),
        failing_of_plain plain]
      exact ⟨rfl, [], rfl⟩
  | running asked reads ends failed short told =>
      rw [reports.eq_of_run decoded (planFor_run asked reads) ends, conclude_of_short _ short,
        ending, failed]
      dsimp only
      rw [told]
      dsimp only
      rw [failing_of_plain plain]
      exact ⟨rfl, _, rfl⟩

theorem Exceeds.exit {cause : Crash} (exceeds : invocation.Exceeds source cause)
    (decoded : decode? bytes = some source)
    (reports : invocation.Reports terminal (.ok bytes) report) : report.exit = .crash cause := by
  cases exceeds with
  | number refused long =>
      rw [reports.eq_of_done decoded (planFor_of_tooManyDigits refused)]
      rfl
  | depth asked reads deep =>
      rw [reports.eq_of_done decoded (planFor_parse asked reads), treeReport_of_deep reads deep]
      rfl
  | place asked reads shallow member stands far =>
      have unshown := (print?_eq_none_iff reads).mpr ⟨_, member, _, stands, far⟩
      rw [reports.eq_of_done decoded (planFor_parse asked reads),
        treeReport_of_unprinted reads shallow unshown]
      rfl
  | notification asked reads ends member long =>
      rw [reports.eq_of_run decoded (planFor_run asked reads) ends]
      exact exit_conclude_of_long invocation member long
  | message asked reads ends failed short long =>
      rw [reports.eq_of_run decoded (planFor_run asked reads) ends, conclude_of_short _ short,
        ending, failed]
      rfl

/-- A job is left to do only if a program is to be run, under the settings asked for. -/
theorem of_planFor_run {job : Job} (plan : invocation.planFor terminal source = .run job) :
    invocation.task = .run ∧ job.settings = invocation.settings := by
  cases tokenized : tokenize (endLastLine source) with
  | error error =>
      cases shown : error.diagnosis? <;> simp [planFor, tokenized, shown] at plan
  | ok tokens =>
      by_cases only : invocation.task = .tokens
      · rw [planFor_tokens only tokenized] at plan
        cases plan
      cases parsed : parse tokens with
      | error complaint =>
          rw [planFor_of_complaint only tokenized parsed] at plan
          cases plan
      | ok statements =>
          cases asked : invocation.task with
          | tokens => exact absurd asked only
          | parse =>
              rw [planFor_parse asked ⟨tokenized, parsed⟩] at plan
              cases plan
          | run =>
              rw [planFor_run asked ⟨tokenized, parsed⟩] at plan
              cases plan
              exact ⟨rfl, rfl⟩

theorem exists_report
    (limited : invocation.task = .run → invocation.settings.stepLimit.isSome = true)
    (decoded : decode? bytes = some source) (terminal : Bool) :
    ∃ report, invocation.Reports terminal (.ok bytes) report := by
  have planned : invocation.plan terminal (.ok bytes) = invocation.planFor terminal source :=
    plan_of_decoded decoded
  cases plan : invocation.planFor terminal source with
  | done report => exact ⟨report, .done (planned.trans plan)⟩
  | run job =>
      obtain ⟨asked, settings⟩ := of_planFor_run plan
      obtain ⟨count, ends⟩ := job.exists_endsAfter_of_limited (settings ▸ limited asked)
      exact ⟨_, .ran (planned.trans plan) ends⟩

/-- A command on a file that holds text comes to one end.  It succeeds exactly if all of its
stages do, fails exactly if one of them says what is wrong, which is then printed last, and is
stopped without a diagnosis exactly if a limit of the surroundings is exceeded. -/
theorem exit_iff_stages (plain : invocation.debug = false)
    (limited : invocation.task = .run → invocation.settings.stepLimit.isSome = true)
    (decoded : decode? bytes = some source) (terminal : Bool) :
    ∃ report, (∀ other, invocation.Reports terminal (.ok bytes) other ↔ other = report) ∧
      (report.exit = .success ↔ invocation.Succeeds source) ∧
      (report.exit = .failure ↔ ∃ diagnosis, invocation.Diagnoses source diagnosis) ∧
      (∀ diagnosis, invocation.Diagnoses source diagnosis →
        ∃ before, report.lines = before ++ [shownDiagnosis terminal diagnosis]) ∧
      ∀ cause, report.exit = .crash cause ↔ invocation.Exceeds source cause := by
  obtain ⟨report, reports⟩ := exists_report limited decoded terminal
  have settled := settles limited source
  refine ⟨report, fun other => ?_, ?_, ?_, ?_, fun cause => ?_⟩
  · refine ⟨fun reportsToo => reportsToo.unique reports, fun same => ?_⟩
    rw [same]
    exact reports
  · refine ⟨fun success => ?_, fun succeeds => succeeds.exit decoded reports⟩
    rcases settled with succeeds | ⟨diagnosis, diagnoses⟩ | ⟨cause, exceeds⟩
    · exact succeeds
    · cases success.symm.trans (diagnoses.exit plain decoded reports).1
    · cases success.symm.trans (exceeds.exit decoded reports)
  · refine ⟨fun failure => ?_, fun ⟨_, diagnoses⟩ => (diagnoses.exit plain decoded reports).1⟩
    rcases settled with succeeds | told | ⟨cause, exceeds⟩
    · cases failure.symm.trans (succeeds.exit decoded reports)
    · exact told
    · cases failure.symm.trans (exceeds.exit decoded reports)
  · exact fun diagnosis diagnoses => (diagnoses.exit plain decoded reports).2
  · refine ⟨fun crash => ?_, fun exceeds => exceeds.exit decoded reports⟩
    rcases settled with succeeds | ⟨diagnosis, diagnoses⟩ | ⟨other, exceeds⟩
    · cases crash.symm.trans (succeeds.exit decoded reports)
    · cases crash.symm.trans (diagnoses.exit plain decoded reports).1
    · cases crash.symm.trans (exceeds.exit decoded reports)
      exact exceeds

end

/-- Running a file for at most five statements. -/
def briefRun : Invocation :=
  ⟨.run, "a.pw", false, ⟨100, some 5, false, Nat.succ_pos 99⟩⟩

/-- A program that ends without a fault. -/
def cornerSource : String := "Spawn(0, 0)"

theorem exit_iff_stages_corner :
    briefRun.debug = false ∧
    (briefRun.task = .run → briefRun.settings.stepLimit.isSome = true) ∧
    decode? cornerSource.toUTF8 = some cornerSource ∧
    ∃ report, (∀ other, briefRun.Reports false (.ok cornerSource.toUTF8) other ↔ other = report) ∧
      (report.exit = .success ↔ briefRun.Succeeds cornerSource) ∧
      (report.exit = .failure ↔ ∃ diagnosis, briefRun.Diagnoses cornerSource diagnosis) ∧
      (∀ diagnosis, briefRun.Diagnoses cornerSource diagnosis →
        ∃ before, report.lines = before ++ [shownDiagnosis false diagnosis]) ∧
      ∀ cause, report.exit = .crash cause ↔ briefRun.Exceeds cornerSource cause := by
  have decoded : decode? cornerSource.toUTF8 = some cornerSource := by decide +kernel
  exact ⟨rfl, fun _ => rfl, decoded, exit_iff_stages rfl (fun _ => rfl) decoded false⟩

/-- A program that spawns the robot outside the canvas, at a place of which one coordinate
has 4301 digits. -/
def remoteSource : String := "Spawn(10 ^ 43 ^ 100, 0)"

/-- Whether a plan is to run a single statement, with a report that says nothing and is cut
off. -/
def cutsOffSilently (invocation : Invocation) : Plan → Bool
  | .done _ => false
  | .run job =>
      job.start.isRunning && !(job.after 1).isRunning &&
        match invocation.conclude false job (job.after 1) with
        | ⟨[], .crash _, _⟩ => true
        | _ => false

/-- Spawning outside the canvas is a mishap, but so far outside it is not diagnosed. -/
theorem remote_not_diagnosed :
    decode? remoteSource.toUTF8 = some remoteSource ∧
    ∃ report cause, briefRun.Reports false (.ok remoteSource.toUTF8) report ∧
      report.lines = [] ∧ report.exit = .crash cause := by
  have silent :
      cutsOffSilently briefRun (briefRun.plan false (.ok remoteSource.toUTF8)) = true := by
    decide +kernel
  refine ⟨by decide +kernel, ?_⟩
  cases plan : briefRun.plan false (.ok remoteSource.toUTF8) with
  | done report =>
      rw [plan] at silent
      cases silent
  | run job =>
      rw [plan, cutsOffSilently, Bool.and_eq_true, Bool.and_eq_true, Bool.not_eq_true'] at silent
      obtain ⟨⟨running, ended⟩, cut⟩ := silent
      have ends : job.EndsAfter 1 := by
        refine ⟨ended, fun earlier before => ?_⟩
        obtain rfl : earlier = 0 := by omega
        exact running
      split at cut
      next cause debugged concluded =>
        exact ⟨_, cause, .ran plan ends, by rw [concluded], by rw [concluded]⟩
      next => cases cut

end Invocation
end PixelBrush
