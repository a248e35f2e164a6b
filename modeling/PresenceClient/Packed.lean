-- Packed values: the binary form in which messages travel. This module holds the values
-- and the shortest way to write each one.
import PresenceClient.Number.Binary64

namespace PresenceClient

open Number (Binary64)

/-- A value in packed form. Text is kept as bytes, since those that arrive need not be
text at all; a map keeps every entry in the order it came. -/
inductive Packed where
  | nil
  | bool (b : Bool)
  | int (n : Int)
  | single (word : UInt32)
  | double (x : Binary64)
  | text (bytes : List UInt8)
  | bin (bytes : List UInt8)
  | ext (tag : Int) (bytes : List UInt8)
  | list (items : List Packed)
  | map (entries : List (Packed × Packed))
deriving Repr, Inhabited

namespace Packed

/-- The `width` low bytes of `n`, the highest first. -/
def bigEndian : (width : Nat) → (n : Nat) → List UInt8
  | 0, _ => []
  | width + 1, n => bigEndian width (n / 0x100) ++ [UInt8.ofNat n]

/-! ## Writing -/

/-- A whole number in the fewest bytes. -/
def writeInt (n : Int) : List UInt8 :=
  if 0 ≤ n then
    let size := n.toNat
    if size < 0x80 then [UInt8.ofNat size]
    else if size < 0x100 then 0xcc :: bigEndian 1 size
    else if size < 0x10000 then 0xcd :: bigEndian 2 size
    else if size < 0x100000000 then 0xce :: bigEndian 4 size
    else 0xcf :: bigEndian 8 size
  else if -0x20 ≤ n then [UInt8.ofNat (n + 0x100).toNat]
  else if -0x80 ≤ n then 0xd0 :: bigEndian 1 (n + 0x100).toNat
  else if -0x8000 ≤ n then 0xd1 :: bigEndian 2 (n + 0x10000).toNat
  else if -0x80000000 ≤ n then 0xd2 :: bigEndian 4 (n + 0x100000000).toNat
  else 0xd3 :: bigEndian 8 (n + 0x10000000000000000).toNat

def textHead (length : Nat) : List UInt8 :=
  if length < 0x20 then [UInt8.ofNat (0xa0 + length)]
  else if length < 0x100 then 0xd9 :: bigEndian 1 length
  else if length < 0x10000 then 0xda :: bigEndian 2 length
  else 0xdb :: bigEndian 4 length

def binHead (length : Nat) : List UInt8 :=
  if length < 0x100 then 0xc4 :: bigEndian 1 length
  else if length < 0x10000 then 0xc5 :: bigEndian 2 length
  else 0xc6 :: bigEndian 4 length

def extHead (length : Nat) : List UInt8 :=
  if length = 1 then [0xd4]
  else if length = 2 then [0xd5]
  else if length = 4 then [0xd6]
  else if length = 8 then [0xd7]
  else if length = 16 then [0xd8]
  else if length < 0x100 then 0xc7 :: bigEndian 1 length
  else if length < 0x10000 then 0xc8 :: bigEndian 2 length
  else 0xc9 :: bigEndian 4 length

def listHead (length : Nat) : List UInt8 :=
  if length < 0x10 then [UInt8.ofNat (0x90 + length)]
  else if length < 0x10000 then 0xdc :: bigEndian 2 length
  else 0xdd :: bigEndian 4 length

def mapHead (length : Nat) : List UInt8 :=
  if length < 0x10 then [UInt8.ofNat (0x80 + length)]
  else if length < 0x10000 then 0xde :: bigEndian 2 length
  else 0xdf :: bigEndian 4 length

mutual

def write : Packed → List UInt8
  | .nil => [0xc0]
  | .bool false => [0xc2]
  | .bool true => [0xc3]
  | .int n => writeInt n
  | .single word => 0xca :: bigEndian 4 word.toNat
  | .double x => 0xcb :: bigEndian 8 x.bits.toNat
  | .text bytes => textHead bytes.length ++ bytes
  | .bin bytes => binHead bytes.length ++ bytes
  | .ext tag bytes => extHead bytes.length ++ UInt8.ofNat (tag + 0x100).toNat :: bytes
  | .list items => listHead items.length ++ writeItems items
  | .map entries => mapHead entries.length ++ writeEntries entries

def writeItems : List Packed → List UInt8
  | [] => []
  | v :: rest => v.write ++ writeItems rest

def writeEntries : List (Packed × Packed) → List UInt8
  | [] => []
  | (k, v) :: rest => k.write ++ (v.write ++ writeEntries rest)

end

end Packed

end PresenceClient
