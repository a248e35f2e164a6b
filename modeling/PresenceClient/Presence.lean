-- Presence records: what is known of a member at one time, and which of two records of a
-- member is the newer one.
import PresenceClient.Payload
import PresenceClient.Presence.Action
import PresenceClient.Number.Signed
import PresenceClient.Text.Parts

namespace PresenceClient

/-! ## Members -/

/-- A client is present once per connection. -/
structure MemberKey where
  clientId : String
  connectionId : String
deriving DecidableEq, Repr, Inhabited

namespace MemberKey

/-- By client, then by connection. -/
instance : LT MemberKey where
  lt a b := a.clientId < b.clientId ∨ (a.clientId = b.clientId ∧ a.connectionId < b.connectionId)

instance : DecidableLT MemberKey := fun a b =>
  inferInstanceAs (Decidable (a.clientId < b.clientId ∨
    (a.clientId = b.clientId ∧ a.connectionId < b.connectionId)))

end MemberKey

/-! ## Records -/

structure Presence where
  /-- `connection:serial:index` for what a client published; anything else is the server's. -/
  id : Option String
  action : Presence.Action
  clientId : String
  connectionId : String
  data : Payload
  timestamp : Option Int
deriving DecidableEq, Repr, Inhabited

namespace Presence

def key (p : Presence) : MemberKey := ⟨p.clientId, p.connectionId⟩

/-- A record of the server's making: its id does not begin with its connection. -/
def isSynthesized (p : Presence) : Bool :=
  match p.id with
  | some id => !(p.connectionId.toList.isPrefixOf id.toList)
  | none => true

/-- The message serial and the index that the last two parts of an id give. -/
def order? (p : Presence) : Option (Int × Int) :=
  match p.id with
  | none => none
  | some id => match (Text.partsOf ':' id.toList).reverse with
    | index :: serial :: _ => do
      let index ← Number.readSigned? index
      let serial ← Number.readSigned? serial
      some (serial, index)
    | _ => none

/-- Later in the order of serials, and of indices under one serial. -/
def orderAfter (a b : Int × Int) : Bool := decide (b.1 < a.1 ∨ (a.1 = b.1 ∧ b.2 < a.2))

/-- Two records that clients published go by their serials. With any other, the later or
equal timestamp wins. -/
def isNewerThan (p q : Presence) : Bool :=
  let byTime : Bool := decide (q.timestamp.getD 0 ≤ p.timestamp.getD 0)
  if p.isSynthesized || q.isSynthesized then byTime
  else match p.order?, q.order? with
    | some a, some b => orderAfter a b
    | _, _ => byTime

/-- The record as a member is kept. -/
def asMember (p : Presence) : Presence := { p with action := .present }

end Presence

/-! ## Queries -/

/-- Which members a caller asks for, and whether the answer waits for a sync. -/
structure MemberQuery where
  waitForSync : Bool := true
  clientId : Option String := none
  connectionId : Option String := none
deriving DecidableEq, Repr

def MemberQuery.admits (q : MemberQuery) (p : Presence) : Bool :=
  q.clientId.all (· == p.clientId) && q.connectionId.all (· == p.connectionId)

end PresenceClient
