-- Times in whole nanoseconds, counted from the start of the clock.

namespace PresenceClient

/-- A length of time in nanoseconds. -/
abbrev Duration := Nat

/-- A point in time: the nanoseconds since the clock began. -/
abbrev Instant := Nat

namespace Duration

def ofMillis (ms : Nat) : Duration := ms * 1000000

def ofSeconds (s : Nat) : Duration := s * 1000000000

/-- The whole milliseconds in it. -/
def toMillis (d : Duration) : Nat := d / 1000000

/-- Milliseconds from elsewhere; a negative number counts as none. -/
def ofMillisInt (ms : Int) : Duration := ofMillis ms.toNat

end Duration

/-- The time from `since` to `now`; none if that lies ahead. -/
def Instant.elapsed (now since : Instant) : Duration := now - since

/-- Something to be done at a point in time. -/
structure Alarm (τ : Type) where
  due : Instant
  kind : τ
deriving DecidableEq, Repr

namespace Alarm

/-- Set an alarm some time from now. -/
def after {τ : Type} (now : Instant) (wait : Duration) (kind : τ) : Alarm τ := ⟨now + wait, kind⟩

/-- Has its time come? -/
def isDue {τ : Type} (a : Alarm τ) (now : Instant) : Bool := decide (a.due ≤ now)

end Alarm

end PresenceClient
