-- A switchboard: several registries that take their ids from one counter, and what each
-- registration has received. No id of one registry means anything to another.
import PresenceClient.Listener.Registry
import PresenceClient.Table

namespace PresenceClient.Listener

structure Switchboard (κ ε : Type) where
  registries : Table Nat (Registry κ) := ∅
  nextId : ListenerId := 0
  /-- What was delivered and to whom, oldest first. -/
  delivered : List (ListenerId × ε) := []
deriving Inhabited

namespace Switchboard

variable {κ ε : Type} [DecidableEq κ]

/-- What can be done at a switchboard, with the number of the registry it is done at. -/
inductive Move (κ ε : Type) where
  | on (registry : Nat) (filter : Option κ)
  | off (registry : Nat) (id : ListenerId)
  | offFiltered (registry : Nat) (filter : Option κ) (id : ListenerId)
  | offAll (registry : Nat)
  | emit (registry : Nat) (kind : κ) (event : ε)
  | drop (id : ListenerId)

def registry (b : Switchboard κ ε) (n : Nat) : Registry κ := (b.registries.get? n).getD {}

def setRegistry (b : Switchboard κ ε) (n : Nat) (r : Registry κ) : Switchboard κ ε :=
  { b with registries := b.registries.put n r }

/-- One move. A new registration gets the next id. -/
def step (b : Switchboard κ ε) : Move κ ε → Switchboard κ ε
  | .on n filter =>
    { b.setRegistry n ((b.registry n).on b.nextId filter) with nextId := b.nextId + 1 }
  | .off n id => b.setRegistry n ((b.registry n).off id)
  | .offFiltered n filter id => b.setRegistry n ((b.registry n).offFiltered filter id)
  | .offAll n => b.setRegistry n (b.registry n).offAll
  | .emit n kind event =>
    { b.setRegistry n (b.registry n).prune with
      delivered := b.delivered ++ ((b.registry n).recipients kind).map fun id => (id, event) }
  | .drop id =>
    { b with registries := ⟨b.registries.entries.map fun (n, r) => (n, r.drop id)⟩ }

def run (b : Switchboard κ ε) (moves : List (Move κ ε)) : Switchboard κ ε := moves.foldl step b

/-- The events that a registration has received, in order. -/
def received (b : Switchboard κ ε) (id : ListenerId) : List ε :=
  b.delivered.filterMap fun (recipient, event) => if recipient = id then some event else none

/-- Does any registry still hold the registration? -/
def holds (b : Switchboard κ ε) (id : ListenerId) : Bool :=
  b.registries.values.any fun r => r.contains id

end Switchboard

end PresenceClient.Listener
