-- Back-off: how long to wait before the next attempt. The wait grows by a third of the
-- first one with each attempt, up to twice, and is shortened by a random part of up to a
-- fifth. All of it is double arithmetic, rounded after every operation.
import PresenceClient.Number.Binary64
import PresenceClient.Time

namespace PresenceClient.Backoff

open Number

/-! ## Growth -/

def two : Binary64 := Binary64.ofNat 2

/-- 1, 4/3, 5/3, 2, 2, … for the attempts from the first on. -/
def coefficient (attempt : UInt32) : Binary64 :=
  (Binary64.ofRatio (max attempt.toNat 1 + 2) 3).smaller two

/-! ## Jitter -/

/-- The least factor, 0.8. -/
def leastFactor : Binary64 := ⟨0x3fe999999999999a⟩

/-- What a draw is multiplied with: 0.2 over the greatest draw, `1 - 2⁻⁵²`, as large as it may be
for no factor to exceed 1. -/
def spread : Binary64 := ⟨0x3fc999999999999a⟩

/-- The upper fifty-two bits of a word as a fraction of one. -/
def draw (word : UInt64) : Binary64 := Binary64.ofScaled (word.toNat / twoTo 12) (-52)

/-- A factor from 0.8 to 1. -/
def jitter (word : UInt64) : Binary64 := ((draw word).mul spread).add leastFactor

/-! ## The delay -/

def nanosPerSecond : Nat := 1000000000

/-- A length of time in seconds. -/
def seconds (d : Duration) : Binary64 :=
  (Binary64.ofNat (d / nanosPerSecond)).add
    ((Binary64.ofNat (d % nanosPerSecond)).div (Binary64.ofNat nanosPerSecond))

/-- The nanoseconds nearest to a number of seconds. -/
def ofSeconds (x : Binary64) : Duration :=
  roundHalfEven (x.significand * twoTo x.power.toNat * nanosPerSecond) (twoTo (-x.power).toNat)

/-- The wait before an attempt, given the first wait and a random word. -/
def delay (initial : Duration) (attempt : UInt32) (word : UInt64) : Duration :=
  ofSeconds (((coefficient attempt).mul (jitter word)).mul (seconds initial))

end PresenceClient.Backoff
