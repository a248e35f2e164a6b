-- The states of a connection and the steps between them. Failed can be entered from
-- everywhere but itself; connected may follow connected, for an update on a live link.

namespace PresenceClient.Connection

inductive State where
  | initialized
  | connecting
  | connected
  | disconnected
  | suspended
  | closing
  | closed
  | failed
deriving DecidableEq, Repr, Inhabited

namespace State

def name : State → String
  | initialized => "initialized"
  | connecting => "connecting"
  | connected => "connected"
  | disconnected => "disconnected"
  | suspended => "suspended"
  | closing => "closing"
  | closed => "closed"
  | failed => "failed"

def all : List State :=
  [initialized, connecting, connected, disconnected, suspended, closing, closed, failed]

theorem mem_all (s : State) : s ∈ all := by cases s <;> decide

/-- May a connection go from the first state to the second? -/
def canBecome : State → State → Bool
  | from_, failed => decide (from_ ≠ failed)
  | initialized, connecting | initialized, closed => true
  | connecting, connected | connecting, disconnected | connecting, suspended
  | connecting, closed => true
  | connected, connected | connected, disconnected | connected, suspended
  | connected, closing => true
  | disconnected, connecting | disconnected, suspended | disconnected, closed => true
  | suspended, connecting | suspended, closed => true
  | failed, connecting | failed, closed => true
  | closing, closed => true
  | closed, connecting => true
  | _, _ => false

end State

end PresenceClient.Connection
