-- The states of a channel and the steps between them. Attached may follow attached, for
-- an update of a live channel; attaching can be entered from everywhere but itself.

namespace PresenceClient.Channel

inductive State where
  | initialized
  | attaching
  | attached
  | detaching
  | detached
  | suspended
  | failed
deriving DecidableEq, Repr, Inhabited

namespace State

def name : State → String
  | initialized => "initialized"
  | attaching => "attaching"
  | attached => "attached"
  | detaching => "detaching"
  | detached => "detached"
  | suspended => "suspended"
  | failed => "failed"

def all : List State :=
  [initialized, attaching, attached, detaching, detached, suspended, failed]

theorem mem_all (s : State) : s ∈ all := by cases s <;> decide

/-- May a channel go from the first state to the second? -/
def canBecome : State → State → Bool
  | from_, failed => decide (from_ ≠ failed)
  | from_, attaching => decide (from_ ≠ attaching)
  | attaching, attached | attached, attached | suspended, attached | detaching, attached => true
  | attaching, detaching | attached, detaching => true
  | attaching, detached | attached, detached | detaching, detached | suspended, detached => true
  | attaching, suspended | attached, suspended | detaching, suspended => true
  | _, _ => false

end State

end PresenceClient.Channel
