-- Rounding: the integer nearest to a quotient. A half has two, and a tie rule chooses.

namespace PresenceClient.Number

/-- The integer nearest to `num / den`; of two equally near ones the even one. -/
def roundHalfEven (num den : Nat) : Nat :=
  let low := num / den
  let rest := num % den
  if 2 * rest < den then low
  else if den < 2 * rest then low + 1
  else if low % 2 = 0 then low else low + 1

/-- The integer nearest to `num / den`; of two equally near ones the greater one. -/
def roundHalfUp (num den : Nat) : Nat :=
  if den ≤ 2 * (num % den) then num / den + 1 else num / den

/-- Where a half goes. -/
inductive Tie where
  | even
  | up
deriving DecidableEq, Repr

def Tie.round : Tie → (num den : Nat) → Nat
  | even => roundHalfEven
  | up => roundHalfUp

end PresenceClient.Number
