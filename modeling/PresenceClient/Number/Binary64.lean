-- Doubles as 64-bit words. A finite word stands for `significand * 2 ^ power` with a
-- sign; every operation is the exact result rounded once, to the nearest word, a half
-- going to the even one. Nothing here uses the machine's own floating point.
import PresenceClient.Number.Power
import PresenceClient.Number.Rounding

namespace PresenceClient.Number

/-- A double, given by its bits. -/
structure Binary64 where
  bits : UInt64
deriving DecidableEq, Repr, Inhabited

namespace Binary64

/-! ## The parts of a word -/

def isNegative (x : Binary64) : Bool := decide (twoTo 63 ≤ x.bits.toNat)

/-- The biased exponent, eleven bits. -/
def exponentField (x : Binary64) : Nat := x.bits.toNat / twoTo 52 % twoTo 11

/-- The fraction, fifty-two bits. -/
def fraction (x : Binary64) : Nat := x.bits.toNat % twoTo 52

def isFinite (x : Binary64) : Bool := decide (x.exponentField < 2047)

def isNaN (x : Binary64) : Bool := decide (x.exponentField = 2047 ∧ x.fraction ≠ 0)

def isInfinite (x : Binary64) : Bool := decide (x.exponentField = 2047 ∧ x.fraction = 0)

/-- The size of a finite word is `significand * 2 ^ power`. -/
def significand (x : Binary64) : Nat :=
  if x.exponentField = 0 then x.fraction else twoTo 52 + x.fraction

def power (x : Binary64) : Int :=
  if x.exponentField = 0 then -1074 else (x.exponentField : Int) - 1075

def isZero (x : Binary64) : Bool := decide (x.exponentField = 0 ∧ x.fraction = 0)

/-- The same size with the other sign. -/
def negate (x : Binary64) : Binary64 := ⟨x.bits ^^^ 0x8000000000000000⟩

/-! ## Rounding to a word -/

def zero : Binary64 := ⟨0⟩

def infinity : Binary64 := ⟨0x7ff0000000000000⟩

/-- The power that gives `num / den` fifty-three significant bits, and no less than the
least power there is. -/
def powerFor (num den : Nat) : Int :=
  let top : Int := (Nat.log2 num : Int) - (Nat.log2 den : Int)
  let reaches : Bool := decide (den * twoTo top.toNat ≤ num * twoTo (-top).toNat)
  max (if reaches then top - 52 else top - 53) (-1074)

/-- The word of `significand * 2 ^ power`, for a significand of at most fifty-three bits
that `powerFor` chose the power of, or `twoTo 53` when rounding carried. -/
def ofParts (significand : Nat) (power : Int) : Binary64 :=
  if significand < twoTo 52 then ⟨UInt64.ofNat significand⟩
  else
    let word := (power + 1075).toNat * twoTo 52 + (significand - twoTo 52)
    if word < 2047 * twoTo 52 then ⟨UInt64.ofNat word⟩ else infinity

/-- The double nearest to `num / den`. -/
def ofRatio (num den : Nat) : Binary64 :=
  if num = 0 then zero
  else
    let power := powerFor num den
    ofParts (roundHalfEven (num * twoTo (-power).toNat) (den * twoTo power.toNat)) power

/-- The double nearest to `n * 2 ^ power`. -/
def ofScaled (n : Nat) (power : Int) : Binary64 :=
  ofRatio (n * twoTo power.toNat) (twoTo (-power).toNat)

def ofNat (n : Nat) : Binary64 := ofRatio n 1

/-! ## Arithmetic on sizes

The signs of the arguments are ignored; the results are not negative. -/

def mul (x y : Binary64) : Binary64 :=
  ofScaled (x.significand * y.significand) (x.power + y.power)

def div (x y : Binary64) : Binary64 :=
  let power := x.power - y.power
  ofRatio (x.significand * twoTo power.toNat) (y.significand * twoTo (-power).toNat)

def add (x y : Binary64) : Binary64 :=
  let power := min x.power y.power
  ofScaled (x.significand * twoTo (x.power - power).toNat +
    y.significand * twoTo (y.power - power).toNat) power

/-- The smaller of two sizes. -/
def smaller (x y : Binary64) : Binary64 := if x.bits ≤ y.bits then x else y

end Binary64

/-! ## Single precision -/

/-- The double with the value of a 32-bit word; infinities and NaN stay what they are. -/
def Binary64.ofSingle (word : UInt32) : Binary64 :=
  let fraction : Nat := word.toNat % twoTo 23
  let exponent : Nat := word.toNat / twoTo 23 % twoTo 8
  let size :=
    if exponent = 255 then
      ⟨Binary64.infinity.bits ||| UInt64.ofNat (fraction * twoTo 29)⟩
    else if exponent = 0 then Binary64.ofScaled fraction (-149)
    else Binary64.ofScaled (twoTo 23 + fraction) ((exponent : Int) - 150)
  if twoTo 31 ≤ word.toNat then size.negate else size

end PresenceClient.Number
