-- IPv6 addresses: eight pieces of sixteen bits in hexadecimal. One run of zero pieces may be
-- left out, and the last two pieces may be written as an IPv4 address.
import PresenceClient.Number.Hexadecimal
import PresenceClient.Number.Signed
import PresenceClient.Text.Parts

namespace PresenceClient.Link.Ipv6

open Number (isDigit readIn? readNat?)

/-! ## Reading -/

def readPiece? (cs : List Char) : Option Nat := if cs.length ≤ 4 then readIn? 16 cs else none

/-- A byte of an IPv4 address at the end: decimal, with no zero before it. -/
def readByte? : List Char → Option Nat
  | '0' :: _ :: _ => none
  | cs => (readNat? cs).bind fun n => if n < 256 then some n else none

/-- The two pieces that an IPv4 address makes. -/
def readTail? (cs : List Char) : Option (List Nat) := do
  let bytes ← (Text.partsOf '.' cs).mapM readByte?
  match bytes with
  | [a, b, c, d] => some [a * 256 + b, c * 256 + d]
  | _ => none

/-- The pieces of the parts between colons. -/
def readPieces? : List (List Char) → Option (List Nat)
  | [] => some []
  | [last] => if last.contains '.' then readTail? last else (readPiece? last).map fun n => [n]
  | part :: rest => do
    let piece ← readPiece? part
    let pieces ← readPieces? rest
    some (piece :: pieces)

/-- What stands before the first two colons in a row and what stands after them. -/
def cutAtGap : List Char → Option (List Char × List Char)
  | ':' :: ':' :: rest => some ([], rest)
  | c :: rest => (cutAtGap rest).map fun (before, after) => (c :: before, after)
  | [] => none

/-- The pieces of a side of the gap, which may be empty. -/
def readSide? (cs : List Char) : Option (List Nat) :=
  if cs.isEmpty then some [] else readPieces? (Text.partsOf ':' cs)

/-- The eight pieces. An IPv4 address stands at the end only. -/
def parse? (cs : List Char) : Option (List Nat) :=
  match cutAtGap cs with
  | none => (readSide? cs).bind fun pieces => if pieces.length = 8 then some pieces else none
  | some (before, after) => do
    let front ← readSide? before
    let back ← readSide? after
    if before.contains '.' ∨ front.length + back.length > 7 then none
    else some (front ++ List.replicate (8 - front.length - back.length) 0 ++ back)

/-! ## Writing -/

/-- How many zeros some pieces begin with. -/
def zerosAt (pieces : List Nat) : Nat := (pieces.takeWhile (· == 0)).length

/-- Where the first of the longest runs of zeros begins and how long it is. -/
def longestRun (pieces : List Nat) : Nat × Nat :=
  (List.range pieces.length).foldl
    (fun best i =>
      let run := zerosAt (pieces.drop i)
      if best.2 < run then (i, run) else best)
    (0, 0)

/-- Pieces with a colon between each two. -/
def renderPieces (pieces : List Nat) : List Char :=
  List.intercalate [':'] (pieces.map (Nat.toDigits 16))

/-- The longest run of at least two zeros is left out. -/
def render (pieces : List Nat) : List Char :=
  let (start, length) := longestRun pieces
  if length < 2 then renderPieces pieces
  else renderPieces (pieces.take start) ++ [':', ':'] ++ renderPieces (pieces.drop (start + length))

end PresenceClient.Link.Ipv6
