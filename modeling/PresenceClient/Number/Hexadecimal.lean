-- Digits in bases up to sixteen.

namespace PresenceClient.Number

/-- The value of a hexadecimal digit of either case. -/
def hexValue? (c : Char) : Option Nat :=
  if '0' ≤ c ∧ c ≤ '9' then some (c.toNat - '0'.toNat)
  else if 'a' ≤ c ∧ c ≤ 'f' then some (c.toNat - 'a'.toNat + 10)
  else if 'A' ≤ c ∧ c ≤ 'F' then some (c.toNat - 'A'.toNat + 10)
  else none

/-- The upper-case digit of a value below sixteen. -/
def upperDigit (n : Nat) : Char := (Nat.digitChar n).toUpper

theorem hexValue?_upperDigit : ∀ n < 16, hexValue? (upperDigit n) = some n := by decide

/-- One more digit of a number in a base. -/
def pushDigit? (base n : Nat) (c : Char) : Option Nat := do
  let d ← hexValue? c
  if d < base then some (n * base + d) else none

/-- The number that digits of a base write; none without a digit or with anything else. -/
def readIn? (base : Nat) (cs : List Char) : Option Nat :=
  if cs.isEmpty then none else cs.foldlM (pushDigit? base) 0

end PresenceClient.Number
