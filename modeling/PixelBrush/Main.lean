import PixelBrush.CommandLine.Report

/-! # The command line

Reading the file, running the program to its end, and printing what there is
to print as soon as it is known.  What is read, run and printed is decided
elsewhere.
-/

namespace PixelBrush

/-- What the system says about a file that it does not let us read.  An error that has no
number counts as one of input and output. -/
def FileError.ofSystem : IO.Error → FileError
  | .alreadyExists _ number reason | .otherError number reason | .resourceBusy number reason
  | .resourceVanished number reason | .unsupportedOperation number reason
  | .hardwareFault number reason | .unsatisfiedConstraints number reason
  | .illegalOperation number reason | .protocolError number reason
  | .timeExpired number reason | .interrupted _ number reason
  | .noFileOrDirectory _ number reason | .invalidArgument _ number reason
  | .permissionDenied _ number reason | .resourceExhausted _ number reason
  | .inappropriateType _ number reason | .noSuchThing _ number reason =>
      .refused number.toNat reason
  | .unexpectedEof => .refused 5 "Input/output error"
  | .userError reason => .refused 5 reason

def readProgram (path : String) : IO (Except FileError ByteArray) := do
  unless FileError.isNameable path do
    return .error .unnameable
  try
    -- Opened by hand, so that an error keeps the number and the reason of the system.
    return .ok (← IO.FS.withFile path .read fun handle => handle.readBinToEnd)
  catch error =>
    return .error (.ofSystem error)

def printReport (report : Report) : IO UInt32 := do
  IO.print report.output
  if report.debugged then
    IO.eprintln "The command failed."
  if let .crash _ := report.exit then
    IO.eprintln "The command came up against a limit."
  return report.exit.status

/-- Print what happened, advance the run, and so on until it has ended.  What
has been printed is dropped from the run. -/
partial def printRun (invocation : Invocation) (terminal : Bool) (job : Job)
    (events : List Event) (run : Run) : IO UInt32 := do
  let lines := Invocation.printed terminal events
  for line in lines do
    IO.println line
  if lines.length < events.length then
    printReport (.crashing (.fault .tooManyDigits))
  else if run.isRunning then
    let further := job.proceed 100 { run with trail := [] }
    printRun invocation terminal job further.events further
  else
    printReport (invocation.ending terminal run)

def carryOut (invocation : Invocation) (terminal : Bool) : Plan → IO UInt32
  | .done report => printReport report
  | .run job => printRun invocation terminal job job.opening job.start

def commandLine (arguments : List String) : IO UInt32 := do
  let terminal ← (← IO.getStdout).isTty
  match ← dispatch readProgram terminal arguments with
  | .refused report => printReport report
  | .command invocation plan => carryOut invocation terminal plan

end PixelBrush

/-- The command line program. -/
def main (arguments : List String) : IO UInt32 :=
  PixelBrush.commandLine arguments
