-- Links: what a client opens to reach the server, and what comes back on one.
import PresenceClient.Message

namespace PresenceClient

/-- What it takes to open a link. -/
structure LinkParams where
  host : String
  tls : Bool := true
  key : Option String := none
  token : Option String := none
  clientId : Option String := none
  echo : Bool := false
  /-- The key of the session to resume. -/
  resume : Option String := none
  extra : Table String String := ∅
deriving DecidableEq, Repr

/-- What a link reports. -/
inductive LinkEvent where
  | message (m : Message)
  /-- The link is gone; without details if it ended in order. -/
  | ended (error : Option ErrorInfo)
deriving DecidableEq, Repr

end PresenceClient
