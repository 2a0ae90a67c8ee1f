import PixelBrush.Token

/-! # Complaints about the order of tokens

A complaint says why tokens do not make up a program, and where.  Its
location is that of the token that does not fit, or nowhere if the tokens
have run out.
-/

namespace PixelBrush

/-- Why tokens do not make up a program. -/
inductive Reason
  | nestedTooDeeply
  | endOfInput
  | unexpected (kind : TokenKind)
  | statementWanted
  | openingWanted (owner : String)
  | queryOpeningWanted
  | separatorWanted (owner : String)
  | closingWanted (owner : String)
  | expressionClosingWanted
  | jumpWanted
  | labelOpeningWanted
  | labelWanted
  | labelClosingWanted
  | conditionOpeningWanted
  | conditionClosingWanted
  | tokenWanted
  | stated (message : String)
  deriving DecidableEq

/-- What is said about a reason.  A reason that was stated speaks for itself. -/
def Reason.message : Reason → String
  | nestedTooDeeply => "Expression nested too deeply"
  | endOfInput => "Unexpected end of input"
  | unexpected kind => "Unexpected token: " ++ kind.name
  | statementWanted => "Expected assignment or label"
  | openingWanted owner => "Expected '(' after " ++ owner
  | queryOpeningWanted => "Expected '(' after function name"
  | separatorWanted owner => "Expected ',' or ')' in " ++ owner ++ " arguments"
  | closingWanted owner => "Expected ')' after " ++ owner ++ " arguments"
  | expressionClosingWanted => "Expected ')' after expression"
  | jumpWanted => "Expected 'GoTo'"
  | labelOpeningWanted => "Expected '[' after GoTo"
  | labelWanted => "Expected label identifier"
  | labelClosingWanted => "Expected ']' after label"
  | conditionOpeningWanted => "Expected '(' before condition"
  | conditionClosingWanted => "Expected ')' after condition"
  | tokenWanted => "Expected a token"
  | stated message => message

/-- A reason with the location that it concerns. -/
structure Complaint where
  reason : Reason
  location : Location
  deriving DecidableEq

/-- What is said about a complaint, apart from its location. -/
def Complaint.message (complaint : Complaint) : String :=
  complaint.reason.message

end PixelBrush
