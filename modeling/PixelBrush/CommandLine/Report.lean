import PixelBrush.CommandLine.Invocation
import PixelBrush.Diagnosis
import PixelBrush.Node.Outline
import PixelBrush.Node.Parser
import PixelBrush.State.Run
import PixelBrush.Text.LineBreak
import PixelBrush.Token.Lexer

/-! # Reports of the command line

Listing the tokens of a file and printing its tree come to an end by
themselves, so their report is known at once.  A program may run forever; for
it we say which job has to be run, and report on the run when it has ended.
What the arguments come to is decided here as well, in any monad that can read
a file.
-/

namespace PixelBrush

/-- Why a file cannot be read. -/
inductive FileError
  /-- The operating system refuses to open it, and gives a number and a reason. -/
  | refused (number : Nat) (reason : String)
  /-- Its name holds a null character, which no file's name does. -/
  | unnameable

namespace FileError

def missing : FileError := refused 2 "No such file or directory"

def directory : FileError := refused 21 "Is a directory"

/-- Whether a path can be the name of a file. -/
def isNameable (path : String) : Bool :=
  !path.toList.contains '\x00'

/-- What is said about a path that cannot be the name of a file. -/
def unnameableMessage : String := "embedded null byte"

/-- A refusal of the operating system as it is shown to a user. -/
def refusal (number : Nat) (reason path : String) : String :=
  "File error: [Errno " ++ toString number ++ "] " ++ reason ++ ": " ++ Text.quoted path

end FileError

/-- What stops a command without a diagnosis. -/
inductive Crash
  /-- The path cannot be the name of a file. -/
  | unnameable
  /-- The file does not hold text. -/
  | undecodable
  /-- A number in the text cannot be read. -/
  | lexical (error : LexicalError)
  /-- The tree cannot be laid out. -/
  | outline (error : Node.OutlineError)
  /-- The run came to a fault that is no mishap, or to a number that cannot be
  written. -/
  | fault (fault : Fault)

/-- How a command ends. -/
inductive Exit
  | success
  | failure
  | crash (cause : Crash)

/-- The status that a command which ends so hands back to the system. -/
def Exit.status : Exit → UInt32
  | success => 0
  | failure | crash _ => 1

/-- What a command prints and how it ends. -/
structure Report where
  lines : List String
  exit : Exit
  /-- Whether details for developers are shown instead of a diagnosis. -/
  debugged : Bool := false

namespace Report

/-- The report of a command that does what it is asked to. -/
def succeeding (lines : List String) : Report :=
  { lines, exit := .success }

/-- The report of a command that is stopped without a diagnosis. -/
def crashing (cause : Crash) : Report :=
  { lines := [], exit := .crash cause }

def output (report : Report) : String :=
  String.join (report.lines.map (· ++ "\n"))

end Report

/-- What is left to do about an invocation. -/
inductive Plan
  | done (report : Report)
  | run (job : Job)

namespace Invocation

def refusal (error : UsageError) : Report :=
  { lines := [error.message], exit := .failure }

/-- The report on a failure.  On a terminal the diagnosis is red. -/
def failing (invocation : Invocation) (terminal : Bool) (description : String) : Report :=
  if invocation.debug then { lines := [], exit := .failure, debugged := true }
  else
    let shown :=
      if terminal then Color.red.terminalCode ++ description ++ Color.terminalReset
      else description
    { lines := [shown], exit := .failure }

/-- The text in a file, with unified line breaks. -/
def decode? (bytes : ByteArray) : Option String :=
  (String.fromUTF8? bytes).map fun text => String.ofList (Text.unifyLineBreaks text.toList)

def treeReport (statements : List Node) : Report :=
  match Node.outline Node.nestingLimit (.ofStatements statements) with
  | .error error => .crashing (.outline error)
  | .ok document =>
      match document.print? 0 with
      | some text => .succeeding [text]
      | none => .crashing (.fault .tooManyDigits)

/-- What is to be done about a program text. -/
def planFor (invocation : Invocation) (terminal : Bool) (source : String) : Plan :=
  match tokenize (endLastLine source) with
  | .error error =>
      match error.diagnosis? with
      | some diagnosis => .done (invocation.failing terminal diagnosis.description)
      | none => .done (.crashing (.lexical error))
  | .ok tokens =>
      match invocation.task with
      | .tokens => .done (.succeeding (tokens.map Token.row))
      | task =>
          match parse tokens with
          | .error complaint =>
              .done (invocation.failing terminal complaint.diagnosis.description)
          | .ok statements =>
              if task = .parse then .done (treeReport statements)
              else .run { settings := invocation.settings, painting := ({} : Painting), statements }

/-- What is to be done about what reading the file has given. -/
def plan (invocation : Invocation) (terminal : Bool) (file : Except FileError ByteArray) :
    Plan :=
  match file with
  | .error (.refused number reason) =>
      .done (invocation.failing terminal (FileError.refusal number reason invocation.path))
  | .error .unnameable => .done (.crashing .unnameable)
  | .ok bytes =>
      match decode? bytes with
      | some source => invocation.planFor terminal source
      | none => .done (.crashing .undecodable)

/-- The lines that events print, up to the first that cannot be written. -/
def printed (terminal : Bool) (events : List Event) : List String :=
  ((events.map (Event.line? terminal)).takeWhile Option.isSome).filterMap id

/-- The last line about a run that has come to its end. -/
def summary? (state : State) : Option String := do
  let robot := state.robot
  let place ← if robot.spawned then Notification.point? robot.x robot.y else some "not spawned"
  return "done: cursor=" ++ place ++ " color=" ++ robot.color.name ++ " size=" ++
    (← Text.decimal? robot.size) ++ " steps=" ++ toString state.steps

/-- The report on how a run has ended, apart from what it printed on the way. -/
def ending (invocation : Invocation) (terminal : Bool) (run : Run) : Report :=
  match run.outcome with
  | .failed fault statement =>
      match fault.runDiagnosis? statement with
      | some diagnosis => invocation.failing terminal diagnosis.description
      | none => .crashing (.fault fault)
  | _ =>
      match summary? run.state with
      | some line => .succeeding [line]
      | none => .crashing (.fault .tooManyDigits)

/-- The report on a run that has ended.  A run whose events cannot all be
written is broken off at the first of them. -/
def conclude (invocation : Invocation) (terminal : Bool) (job : Job) (run : Run) : Report :=
  let events := job.opening ++ run.events
  let lines := printed terminal events
  let ending :=
    if lines.length < events.length then .crashing (.fault .tooManyDigits)
    else invocation.ending terminal run
  { ending with lines := lines ++ ending.lines }

end Invocation

/-- What the arguments of the command line come to. -/
inductive Dispatch
  /-- No command is carried out. -/
  | refused (report : Report)
  | command (invocation : Invocation) (plan : Plan)

/-- Find out what the arguments come to.  Only the file of a command is read. -/
def dispatch {m : Type → Type} [Monad m] (readFile : String → m (Except FileError ByteArray))
    (terminal : Bool) (arguments : List String) : m Dispatch :=
  match Invocation.ofArguments arguments with
  | .error error => return .refused (Invocation.refusal error)
  | .ok invocation => do
      let file ← readFile invocation.path
      return .command invocation (invocation.plan terminal file)

end PixelBrush
