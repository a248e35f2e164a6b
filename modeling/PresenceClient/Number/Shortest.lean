-- Shortest decimals: the fewest digits that lie closer to a binary number than to its
-- neighbours, and of those the nearest; a tie rule chooses between two equally near ones.
-- Also the two ways such digits are written out.
import PresenceClient.Number.Binary64

namespace PresenceClient.Number

/-! ## Choosing the digits -/

/-- The number `digits * 10 ^ exponent`. -/
structure Decimal where
  digits : Nat
  exponent : Int
deriving DecidableEq, Repr

/-- A binary number `significand * 2 ^ power`. `atStep` says that the neighbour below is
only half as far away as the one above. -/
structure Binary where
  significand : Nat
  power : Int
  atStep : Bool
deriving DecidableEq, Repr

namespace Binary

/-- The number as a fraction over `denominator`. -/
def numerator (b : Binary) : Nat := b.significand * twoTo b.power.toNat

def denominator (b : Binary) : Nat := twoTo (-b.power).toNat

/-- The place of the leading decimal digit of `num / den`. -/
def leadingPlace (num den : Nat) : Int :=
  if den ≤ num then ((Nat.toDigits 10 (num / den)).length : Int) - 1
  else
    let places := (Nat.toDigits 10 (den / num)).length
    if num * tenTo (places - 1) = den then 1 - (places : Int) else -(places : Int)

/-- Does `n * 10 ^ exponent` read back as `b`? The ends of the interval belong to an even
significand. -/
def owns (b : Binary) (n : Nat) (exponent : Int) : Bool :=
  let point := 4 * n * tenTo exponent.toNat * b.denominator
  let unit := twoTo b.power.toNat * tenTo (-exponent).toNat
  let low := (4 * b.significand - (if b.atStep then 1 else 2)) * unit
  let high := (4 * b.significand + 2) * unit
  if b.significand % 2 = 0 then decide (low ≤ point ∧ point ≤ high)
  else decide (low < point ∧ point < high)

/-- The nearest multiple of `10 ^ exponent` that reads back as `b`. -/
def onGrid (b : Binary) (tie : Tie) (exponent : Int) : Option Decimal :=
  let num := b.numerator * tenTo (-exponent).toNat
  let den := b.denominator * tenTo exponent.toNat
  let below := num / den
  match b.owns below exponent, b.owns (below + 1) exponent with
  | true, true => some ⟨tie.round num den, exponent⟩
  | true, false => some ⟨below, exponent⟩
  | false, true => some ⟨below + 1, exponent⟩
  | false, false => none

/-- The shortest decimal that reads back as `b`: the first grid with a hit, from one digit
to seventeen. -/
def shortest (b : Binary) (tie : Tie) : Decimal :=
  if b.significand = 0 then ⟨0, 0⟩
  else
    let place := leadingPlace b.numerator b.denominator
    match (List.range 17).findSome? fun (n : Nat) => b.onGrid tie (place - (n : Int)) with
    | some d => d
    | none => ⟨b.numerator / b.denominator, 0⟩

end Binary

/-- The parts of a finite double. -/
def Binary64.toBinary (x : Binary64) : Binary :=
  ⟨x.significand, x.power, decide (x.fraction = 0 ∧ 1 < x.exponentField)⟩

/-- The parts of a finite 32-bit word. -/
def singleToBinary (word : UInt32) : Binary :=
  let fraction : Nat := word.toNat % twoTo 23
  let exponent : Nat := word.toNat / twoTo 23 % twoTo 8
  if exponent = 0 then ⟨fraction, -149, false⟩
  else ⟨twoTo 23 + fraction, (exponent : Int) - 150, decide (fraction = 0 ∧ 1 < exponent)⟩

/-! ## Writing the digits -/

namespace Decimal

/-- The digits without the zeros at their end, and the place of the first one. -/
def significant (d : Decimal) : List Char × Int :=
  let written := Nat.toDigits 10 d.digits
  let kept := (written.reverse.dropWhile (· == '0')).reverse
  (if kept.isEmpty then ['0'] else kept, d.exponent + written.length - 1)

/-- Positional writing, with `fraction` as what follows a number without a fractional part. -/
def positional (d : Decimal) (fraction : List Char) : List Char :=
  let (digits, place) := d.significant
  if place < 0 then
    '0' :: '.' :: (List.replicate (-place - 1).toNat '0' ++ digits)
  else
    let whole := place.toNat + 1
    if digits.length ≤ whole then
      digits ++ List.replicate (whole - digits.length) '0' ++ fraction
    else digits.take whole ++ '.' :: digits.drop whole

/-- Writing with one digit before the point and a signed exponent. -/
def scientific (d : Decimal) : List Char :=
  let (digits, place) := d.significant
  let mantissa := match digits with
    | first :: second :: rest => first :: '.' :: second :: rest
    | few => few
  mantissa ++ 'e' :: (if place < 0 then '-' else '+') :: Nat.toDigits 10 place.natAbs

end Decimal

end PresenceClient.Number
