-- The roster: who is present on a channel. A sync goes through all members page by page;
-- members that were there before it and that nothing names until its end have left.
-- While it lasts, those who leave are kept in mind, so that no older page brings them back.
import PresenceClient.Presence
import PresenceClient.Table

namespace PresenceClient

namespace Roster

inductive Sync where
  | notStarted
  | inProgress
  | complete
deriving DecidableEq, Repr, Inhabited

end Roster

structure Roster where
  /-- The newest record of each member, with action present. -/
  members : Table MemberKey Presence := ∅
  /-- Those who left during the sync. -/
  gone : Table MemberKey Presence := ∅
  /-- Members from before the sync that nothing has named since, ascending. -/
  residual : List MemberKey := []
  /-- What this connection entered itself, by client. -/
  own : Table String Presence := ∅
  sync : Roster.Sync := .notStarted
  /-- The serial of the last page. -/
  cursor : Option String := none
deriving DecidableEq, Repr, Inhabited

namespace Roster

def isSyncing (r : Roster) : Bool := r.sync == .inProgress

def isComplete (r : Roster) : Bool := r.sync == .complete

/-! ## The sync -/

/-- Begin a sync. One that is under way goes on. -/
def startSync (r : Roster) : Roster :=
  if r.isSyncing then r
  else { r with residual := r.members.keys, gone := ∅, cursor := none, sync := .inProgress }

/-- What is reported of a member that the sync did not name. -/
def leaveOf (timestamp : Option Int) (p : Presence) : Presence :=
  { p with id := none, action := .leave, timestamp := timestamp <|> p.timestamp }

/-- End the sync. Members that it did not name are dropped and reported, in key order. -/
def endSync (r : Roster) (timestamp : Option Int) : Roster × List Presence :=
  let left := r.residual.filterMap r.members.get?
  ({ r with
      members := r.residual.foldl Table.erase r.members
      gone := ∅
      residual := []
      cursor := none
      sync := .complete },
    left.map (leaveOf timestamp))

def setCursor (r : Roster) (cursor : Option String) : Roster := { r with cursor := cursor }

/-! ## Records -/

/-- What is known of a key: the member, or else the one who left. -/
def known? (r : Roster) (key : MemberKey) : Option Presence :=
  r.members.get? key <|> r.gone.get? key

/-- A record names its key: the sync need not miss it any more. -/
def mark (r : Roster) (key : MemberKey) : Roster :=
  if r.isSyncing then { r with residual := r.residual.filter fun k => !decide (k = key) } else r

/-- Take in a record without asking whether it is new. -/
def accept (r : Roster) (p : Presence) : Roster :=
  if p.action.isHere then
    { r with members := r.members.put p.key p.asMember, gone := r.gone.erase p.key }
  else
    { r with
      members := r.members.erase p.key
      gone := if r.isSyncing then r.gone.put p.key p else r.gone }

/-- Would the record be news? -/
def isNews (r : Roster) (p : Presence) : Bool := (r.known? p.key).all fun q => p.isNewerThan q

/-- Take in a record. It is given back to be reported, unless what is known is as new. -/
def put (r : Roster) (p : Presence) : Roster × Option Presence :=
  if r.isNews p then ((r.mark p.key).accept p, some p) else (r.mark p.key, none)

/-- Note what this connection entered or left itself. -/
def trackOwn (r : Roster) (p : Presence) : Roster :=
  if p.action.isHere then { r with own := r.own.put p.clientId p }
  else { r with own := r.own.erase p.clientId }

/-- Forget everybody. -/
def reset (_ : Roster) : Roster := {}

/-! ## Views -/

/-- The members that a query asks for, in key order. -/
def select (r : Roster) (q : MemberQuery) : List Presence := r.members.values.filter q.admits

/-- What this connection entered, in the order of client ids. -/
def ownMembers (r : Roster) : List Presence := r.own.values

def size (r : Roster) : Nat := r.members.size

end Roster

end PresenceClient
