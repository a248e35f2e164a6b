-- Error details: what the server says about an error, and what the client says about
-- those it raises itself.

namespace PresenceClient

/-- A code, the status it goes with, and a text. -/
structure ErrorInfo where
  code : Int := 0
  statusCode : Option Int := none
  message : String := ""
deriving DecidableEq, Repr, Inhabited

namespace ErrorInfo

/-- The code and the status in brackets, then the text. -/
def display (e : ErrorInfo) : String :=
  match e.statusCode with
  | some status => "[" ++ toString e.code ++ " " ++ toString status ++ "] " ++ e.message
  | none => "[" ++ toString e.code ++ "] " ++ e.message

/-- Codes that are worth another attempt whatever their status. -/
def retriableCodes : List Int := [80003, 80002, 80000, 80017, 50002, 50001]

/-- An error is worth another attempt if it has no status, if the server is at fault, or
if it is about the connection as such. -/
def isRetriable (e : ErrorInfo) : Bool :=
  match e.statusCode with
  | none => true
  | some status => decide (500 ≤ status) || retriableCodes.contains e.code

end ErrorInfo

end PresenceClient
