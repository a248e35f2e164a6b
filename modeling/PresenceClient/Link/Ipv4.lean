-- IPv4 addresses, in the forms that a host may take: up to four numbers, each decimal,
-- octal after a `0` or hexadecimal after `0x`. The last number fills the bytes that are left.
import PresenceClient.Number.Hexadecimal
import PresenceClient.Number.Power
import PresenceClient.Number.Signed
import PresenceClient.Text.Parts

namespace PresenceClient.Link.Ipv4

open Number (readIn? twoTo)

/-- One part. Nothing after `0x` is zero. -/
def readPart? : List Char → Option Nat
  | [] => none
  | '0' :: 'x' :: digits => if digits.isEmpty then some 0 else readIn? 16 digits
  | '0' :: 'X' :: digits => if digits.isEmpty then some 0 else readIn? 16 digits
  | '0' :: digits => if digits.isEmpty then some 0 else readIn? 8 digits
  | digits => readIn? 10 digits

/-- The parts of a name; a dot at its end does not count. -/
def partsOf (name : List Char) : List (List Char) :=
  match (Text.partsOf '.' name).reverse with
  | [] :: rest => rest.reverse
  | parts => parts.reverse

/-- Is the last part of the name meant as a number? Then the name is to be an address. -/
def isMeant (name : List Char) : Bool :=
  match (Text.partsOf '.' name).reverse with
  | [[]] => false
  | [] :: part :: _ => isNumber part
  | part :: _ => isNumber part
  | [] => false
where
  isNumber (part : List Char) : Bool :=
    (!part.isEmpty && part.all Number.isDigit) || (readPart? part).isSome

/-- Numbers as bytes, the first of which stands at a place. -/
def bytesFrom : (place : Nat) → List Nat → Nat
  | _, [] => 0
  | place, n :: rest => n * twoTo (8 * place) + bytesFrom (place - 1) rest

/-- The value of some numbers; none if there are too many or one is too large. -/
def ofNumbers? (numbers : List Nat) : Option Nat :=
  match numbers.reverse with
  | [] => none
  | last :: front =>
    if front.length ≤ 3 ∧ front.all (fun n => decide (n < 256)) ∧
        last < twoTo (8 * (4 - front.length)) then some (bytesFrom 3 front.reverse + last)
    else none

def parse? (name : List Char) : Option Nat := do
  let numbers ← (partsOf name).mapM readPart?
  ofNumbers? numbers

/-- Four numbers with dots between. -/
def render (address : Nat) : List Char :=
  let part (n : Nat) : List Char := Nat.toDigits 10 (n % 256)
  part (address / 0x1000000) ++ '.' :: part (address / 0x10000) ++ '.' :: part (address / 0x100) ++
    '.' :: part address

end PresenceClient.Link.Ipv4
