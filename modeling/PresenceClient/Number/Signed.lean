-- Signed whole numbers of 64 bits in decimal text: an optional sign and at least one
-- digit. A number outside the range does not read.

namespace PresenceClient.Number

def isDigit (c : Char) : Bool := decide ('0' ≤ c ∧ c ≤ '9')

/-- The number that some digits write. -/
def ofDigits (cs : List Char) : Nat := cs.foldl (fun n c => n * 10 + (c.toNat - '0'.toNat)) 0

/-- The number that a text of digits writes; none without a digit or with anything else. -/
def readNat? (cs : List Char) : Option Nat :=
  if cs.isEmpty ∨ !cs.all isDigit then none else some (ofDigits cs)

def readSigned? (cs : List Char) : Option Int :=
  let read : Option Int := match cs with
    | '-' :: rest => (readNat? rest).map fun n => -(n : Int)
    | '+' :: rest => (readNat? rest).map fun n => (n : Int)
    | rest => (readNat? rest).map fun n => (n : Int)
  match read with
  | some n => if -0x8000000000000000 ≤ n ∧ n < 0x8000000000000000 then some n else none
  | none => none

end PresenceClient.Number
