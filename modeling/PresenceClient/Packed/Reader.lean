-- Packed values read from bytes. Reading takes the value in front and leaves the bytes
-- behind it. Each reader has a room that shrinks with every step inwards, so values
-- nested too deep are refused, as are values that end early.
import PresenceClient.Number.Power
import PresenceClient.Packed

namespace PresenceClient.Packed

open Number (twoTo)

/-! ## Plain bytes -/

/-- The first `n` bytes and the rest; none if there are fewer. -/
def takeBytes : (n : Nat) → List UInt8 → Option (List UInt8 × List UInt8)
  | 0, bytes => some ([], bytes)
  | _ + 1, [] => none
  | n + 1, b :: bytes => (takeBytes n bytes).map fun (front, rest) => (b :: front, rest)

/-- The number that some bytes write, the highest first. -/
def ofBigEndian (bytes : List UInt8) : Nat := bytes.foldl (fun n b => n * 0x100 + b.toNat) 0

/-- A number of `width` bytes. -/
def readNat (width : Nat) (bytes : List UInt8) : Option (Nat × List UInt8) :=
  (takeBytes width bytes).map fun (front, rest) => (ofBigEndian front, rest)

/-- The number of `width` bytes that is negative from half the range on. -/
def signed (width : Nat) (n : Nat) : Int :=
  if 2 * n < twoTo (8 * width) then n else (n : Int) - twoTo (8 * width)

/-! ## Heads -/

/-- What stands at the front of a value: all of it, or a length. -/
inductive Head where
  | whole (v : Packed)
  | text (length : Nat)
  | bin (length : Nat)
  | ext (length : Nat)
  | list (length : Nat)
  | map (length : Nat)
deriving Repr

/-- The head that starts with byte `b`. A number that is nobody's head is nil. -/
def headOf (b : Nat) (bytes : List UInt8) : Option (Head × List UInt8) :=
  let number (width : Nat) (f : Nat → Head) : Option (Head × List UInt8) :=
    (readNat width bytes).map fun (n, rest) => (f n, rest)
  if b < 0x80 then some (.whole (.int b), bytes)
  else if b < 0x90 then some (.map (b - 0x80), bytes)
  else if b < 0xa0 then some (.list (b - 0x90), bytes)
  else if b < 0xc0 then some (.text (b - 0xa0), bytes)
  else if 0xe0 ≤ b then some (.whole (.int ((b : Int) - 0x100)), bytes)
  else match b with
    | 0xc2 => some (.whole (.bool false), bytes)
    | 0xc3 => some (.whole (.bool true), bytes)
    | 0xc4 => number 1 .bin
    | 0xc5 => number 2 .bin
    | 0xc6 => number 4 .bin
    | 0xc7 => number 1 .ext
    | 0xc8 => number 2 .ext
    | 0xc9 => number 4 .ext
    | 0xca => number 4 fun n => .whole (.single (UInt32.ofNat n))
    | 0xcb => number 8 fun n => .whole (.double ⟨UInt64.ofNat n⟩)
    | 0xcc => number 1 fun n => .whole (.int n)
    | 0xcd => number 2 fun n => .whole (.int n)
    | 0xce => number 4 fun n => .whole (.int n)
    | 0xcf => number 8 fun n => .whole (.int n)
    | 0xd0 => number 1 fun n => .whole (.int (signed 1 n))
    | 0xd1 => number 2 fun n => .whole (.int (signed 2 n))
    | 0xd2 => number 4 fun n => .whole (.int (signed 4 n))
    | 0xd3 => number 8 fun n => .whole (.int (signed 8 n))
    | 0xd4 => some (.ext 1, bytes)
    | 0xd5 => some (.ext 2, bytes)
    | 0xd6 => some (.ext 4, bytes)
    | 0xd7 => some (.ext 8, bytes)
    | 0xd8 => some (.ext 16, bytes)
    | 0xd9 => number 1 .text
    | 0xda => number 2 .text
    | 0xdb => number 4 .text
    | 0xdc => number 2 .list
    | 0xdd => number 4 .list
    | 0xde => number 2 .map
    | 0xdf => number 4 .map
    | _ => some (.whole .nil, bytes)

def readHead : List UInt8 → Option (Head × List UInt8)
  | [] => none
  | b :: bytes => headOf b.toNat bytes

/-! ## Values -/

/-- `n` values, one behind the other. -/
def readMany (value : List UInt8 → Option (Packed × List UInt8)) :
    (n : Nat) → List UInt8 → Option (List Packed × List UInt8)
  | 0, bytes => some ([], bytes)
  | n + 1, bytes => do
    let (v, bytes) ← value bytes
    let (vs, bytes) ← readMany value n bytes
    some (v :: vs, bytes)

/-- `n` keys, each with its value behind it. -/
def readPairs (value : List UInt8 → Option (Packed × List UInt8)) :
    (n : Nat) → List UInt8 → Option (List (Packed × Packed) × List UInt8)
  | 0, bytes => some ([], bytes)
  | n + 1, bytes => do
    let (k, bytes) ← value bytes
    let (v, bytes) ← value bytes
    let (es, bytes) ← readPairs value n bytes
    some ((k, v) :: es, bytes)

/-- The value in front. A value takes one of the room, a container one more before its
first element, plain bytes one more, and text and tagged bytes two more. -/
def read : (room : Nat) → List UInt8 → Option (Packed × List UInt8)
  | 0, _ => none
  | 1, bytes => do
    let (head, bytes) ← readHead bytes
    match head with
    | .whole v => some (v, bytes)
    | _ => none
  | room + 2, bytes => do
    let (head, bytes) ← readHead bytes
    match head with
    | .whole v => some (v, bytes)
    | .bin n => (takeBytes n bytes).map fun (b, rest) => (.bin b, rest)
    | .text n =>
      if room = 0 then none else (takeBytes n bytes).map fun (b, rest) => (.text b, rest)
    | .ext n =>
      if room = 0 then none
      else do
        let (tag, bytes) ← readNat 1 bytes
        let (b, bytes) ← takeBytes n bytes
        some (.ext (signed 1 tag) b, bytes)
    | .list n => (readMany (read room) n bytes).map fun (vs, rest) => (.list vs, rest)
    | .map n => (readPairs (read room) n bytes).map fun (es, rest) => (.map es, rest)

/-- The room that a message is read with. -/
def roomLimit : Nat := 1024

/-- The value at the front of a message. What follows it does not matter. -/
def parse (bytes : List UInt8) : Option Packed := (read roomLimit bytes).map (·.1)

end PresenceClient.Packed
