import PixelBrush.Complaint
import PixelBrush.Fault
import PixelBrush.Token.LexicalError

/-! # Diagnoses

A diagnosis is an error as it is reported: what is wrong, where, and at which
stage it was noticed.
-/

namespace PixelBrush

/-- The stage at which an error is noticed. -/
inductive Stage
  | unspecified
  | lexing
  | parsing
  | stepping
  | running
  deriving DecidableEq

/-- A located message about an error. -/
structure Diagnosis where
  stage : Stage
  message : String
  location : Location := .nowhere
  deriving DecidableEq

namespace Diagnosis

def isWritable (diagnosis : Diagnosis) : Bool :=
  (Text.decimal? diagnosis.location.line).isSome &&
    (Text.decimal? diagnosis.location.column).isSome

def place (location : Location) : String :=
  "line " ++ toString location.line ++ ", position " ++ toString location.column

/-- The message about an error that has ended a run, behind some indentation. -/
def runtimeText (diagnosis : Diagnosis) (indentation : String) : String :=
  indentation ++ "Runtime error at " ++ place diagnosis.location ++ ": " ++ diagnosis.message

def text (diagnosis : Diagnosis) : String :=
  match diagnosis.stage with
  | .running => diagnosis.runtimeText ""
  | _ => diagnosis.message ++ " at " ++ place diagnosis.location

/-- The text under the name of the stage, as it is shown to a user. -/
def description (diagnosis : Diagnosis) : String :=
  match diagnosis.stage with
  | .running => diagnosis.text
  | .lexing => "Lexical error: " ++ diagnosis.text
  | .parsing => "Parse error: " ++ diagnosis.text
  | .stepping | .unspecified => "Error: " ++ diagnosis.text

end Diagnosis

/-- The diagnosis of an unreadable text.  A number that cannot be read has
none. -/
def LexicalError.diagnosis? (error : LexicalError) : Option Diagnosis :=
  error.location?.map fun location => ⟨.lexing, error.message, location⟩

def Complaint.diagnosis (complaint : Complaint) : Diagnosis :=
  ⟨.parsing, complaint.message, complaint.location⟩

/-- The diagnosis of a fault in a single step.  Only mishaps have one. -/
def Fault.stepDiagnosis? : Fault → Option Diagnosis
  | mishap cause location =>
      cause.message?.map fun message => ⟨.stepping, message, location⟩
  | _ => none

/-- The diagnosis of a fault that has ended a run at a statement.  Nesting that
is too deep is reported for the statement as a whole. -/
def Fault.runDiagnosis? (statement : Node) : Fault → Option Diagnosis
  | mishap cause location =>
      cause.message?.map fun message => ⟨.running, message, location⟩
  | tooDeep =>
      statement.location?.map fun location =>
        ⟨.running, Reason.nestedTooDeeply.message, location⟩
  | _ => none

end PixelBrush
