-- Arrivals: presence entries of a message become records. What an entry leaves open is
-- taken from the message around it.
import PresenceClient.Presence
import PresenceClient.Message

namespace PresenceClient

namespace Presence

/-- The id of the entry at `index` of a message. -/
def idWithin (envelope : String) (index : Nat) : String := envelope ++ ":" ++ toString index

/-- The record of the entry at `index`; none if it names no client, no connection or no
known action. -/
def ofEntry? (envelope : Message) (index : Nat) (e : Entry) : Option Presence := do
  let action ← Action.ofCode? e.action
  let clientId ← e.clientId
  let connectionId ← e.connectionId <|> envelope.connectionId
  some {
    id := e.id <|> envelope.id.map fun id => idWithin id index
    action := action
    clientId := clientId
    connectionId := connectionId
    data := Encoding.decode (e.data.getD .null) e.encoding
    timestamp := e.timestamp <|> envelope.timestamp }

/-- The records of some entries, the first of which stands at `index`. -/
def ofEntries (envelope : Message) : (index : Nat) → List Entry → List Presence
  | _, [] => []
  | index, e :: rest =>
    match ofEntry? envelope index e with
    | some p => p :: ofEntries envelope (index + 1) rest
    | none => ofEntries envelope (index + 1) rest

/-- The records that a message carries, in its order. -/
def arrivals (m : Message) : List Presence := ofEntries m 0 (m.presence.getD [])

end Presence

/-- A page of a sync names its sequence and, after a colon, a cursor. The sync is over
when there is no cursor. -/
def isLastPage (serial : Option String) : Bool :=
  match serial with
  | none => true
  | some serial => match Text.cutAt ':' serial.toList with
    | some (_, cursor) => cursor.isEmpty
    | none => true

end PresenceClient
