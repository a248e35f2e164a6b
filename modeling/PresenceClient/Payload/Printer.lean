-- Payloads as JSON text: no blanks, fields in name order, whole numbers in full and
-- doubles with the fewest digits that read back.
import PresenceClient.Payload
import PresenceClient.Number.Shortest

namespace PresenceClient.Payload

open Number

/-! ## Text -/

def hexDigits (n : Nat) : List Char := [Nat.digitChar (n / 16), Nat.digitChar (n % 16)]

/-- A character inside quotes. Control characters are escaped, all else stands for itself
but for the quote and the backslash. -/
def writeChar (c : Char) : List Char :=
  if c = '"' then ['\\', '"']
  else if c = '\\' then ['\\', '\\']
  else if c.toNat < 0x20 then
    match c.toNat with
    | 8 => ['\\', 'b']
    | 9 => ['\\', 't']
    | 10 => ['\\', 'n']
    | 12 => ['\\', 'f']
    | 13 => ['\\', 'r']
    | n => ['\\', 'u', '0', '0'] ++ hexDigits n
  else [c]

def writeText (s : String) : List Char := '"' :: (s.toList.flatMap writeChar ++ ['"'])

/-! ## Numbers -/

def writeInt (n : Int) : List Char :=
  if n < 0 then '-' :: Nat.toDigits 10 n.natAbs else Nat.toDigits 10 n.natAbs

/-- A finite double: positional from `1e-5` up to below `1e16`, always with a point, and
with an exponent outside. Of two shortest writings that are equally near, the even one is
taken. -/
def writeFloat (x : Binary64) : List Char :=
  let decimal := x.toBinary.shortest .even
  let place := decimal.significant.2
  let size :=
    if x.isZero ∨ (-5 ≤ place ∧ place ≤ 15) then decimal.positional ['.', '0']
    else decimal.scientific
  if x.isNegative then '-' :: size else size

/-! ## Values -/

mutual

def write : Payload → List Char
  | .null => ['n', 'u', 'l', 'l']
  | .bool true => ['t', 'r', 'u', 'e']
  | .bool false => ['f', 'a', 'l', 's', 'e']
  | .int n => writeInt n
  | .float x => if x.isFinite then writeFloat x else ['n', 'u', 'l', 'l']
  | .text s => writeText s
  | .list items => '[' :: writeItems items
  | .record fields => '{' :: writeFields fields

/-- The items of a list, up to and with the closing bracket. -/
def writeItems : List Payload → List Char
  | [] => [']']
  | [p] => p.write ++ [']']
  | p :: q :: rest => p.write ++ ',' :: writeItems (q :: rest)

/-- The fields of a record, up to and with the closing brace. -/
def writeFields : List (String × Payload) → List Char
  | [] => ['}']
  | [(name, p)] => writeText name ++ ':' :: (p.write ++ ['}'])
  | (name, p) :: q :: rest => writeText name ++ ':' :: (p.write ++ ',' :: writeFields (q :: rest))

end

/-- The JSON text of a payload. -/
def render (p : Payload) : String := String.ofList p.write

end PresenceClient.Payload
