import PixelBrush.State
import PixelBrush.Text.Decimal

/-! # Arguments of the command line

The arguments are a command and a path, with options anywhere before, between
or behind them.  The first occurrence of each option is taken out, in a fixed
order; what remains has to be the command and the path.
-/

namespace PixelBrush

/-- What the command line can do with a file. -/
inductive Task
  | tokens
  | parse
  | run
  deriving DecidableEq

def Task.ofCommand? : String → Option Task
  | "tokens" => some .tokens
  | "parse" => some .parse
  | "run" => some .run
  | _ => none

/-- Why arguments are refused. -/
inductive UsageError
  | numberMissing (option : String)
  | notANumber (option given : String)
  | notPositive (option : String) (value : Int)
  | wrongCount
  | unknownCommand (command : String)
  deriving DecidableEq

def UsageError.message : UsageError → String
  | numberMissing option => option ++ " expects a number."
  | notANumber option given => option ++ " expects a number, got " ++ given
  | notPositive option value => option ++ " must be positive, got " ++ toString value
  | wrongCount =>
      "Usage:\n" ++
      "  python cli.py tokens <file.pw>\n" ++
      "  python cli.py parse <file.pw>\n" ++
      "  python cli.py run <file.pw> [--size N] [--trace] [--max-steps N]\n" ++
      "  (optional) --debug to show Python traceback"
  | unknownCommand command => "Unknown command: " ++ command

/-- What the command line is asked to do. -/
structure Invocation where
  task : Task
  path : String
  debug : Bool
  settings : Settings

namespace Invocation

/-- Take a switch out of the arguments, and tell whether it was there. -/
def takeSwitch (name : String) (arguments : List String) : Bool × List String :=
  (arguments.contains name, arguments.erase name)

/-- Take an option with a positive number behind it out of the arguments. -/
def takeNumber (name : String) (arguments : List String) :
    Except UsageError (Option { number : Nat // 0 < number } × List String) :=
  let before := arguments.takeWhile (· != name)
  match arguments.dropWhile (· != name) with
  | [] => .ok (none, arguments)
  | [_] => .error (.numberMissing name)
  | _ :: given :: later =>
      match Text.integer? given with
      | none => .error (.notANumber name given)
      | some (.ofNat (number + 1)) =>
          .ok (some ⟨number + 1, Nat.succ_pos number⟩, before ++ later)
      | some value => .error (.notPositive name value)

/-- The side of the canvas unless another one is asked for. -/
def defaultCanvasSize : { size : Nat // 0 < size } := ⟨100, by decide⟩

def ofArguments (arguments : List String) : Except UsageError Invocation := do
  let (debug, arguments) := takeSwitch "--debug" arguments
  let (trace, arguments) := takeSwitch "--trace" arguments
  let (size?, arguments) ← takeNumber "--size" arguments
  let (limit?, arguments) ← takeNumber "--max-steps" arguments
  match arguments with
  | [command, path] =>
      match Task.ofCommand? command with
      | some task =>
          let size := size?.getD defaultCanvasSize
          return ⟨task, path, debug, ⟨size.1, limit?.map Subtype.val, trace, size.2⟩⟩
      | none => throw (.unknownCommand command)
  | _ => throw .wrongCount

end Invocation
end PixelBrush
