-- Percent-encoding: a byte of a text may be written as `%` and two hexadecimal digits.
-- A `%` without two digits stands for itself.
import PresenceClient.Number.Hexadecimal

namespace PresenceClient.Link.Percent

open Number (hexValue? upperDigit)

def encodeByte (b : UInt8) : List Char :=
  ['%', upperDigit (b.toNat / 16), upperDigit (b.toNat % 16)]

/-- A character as it is if `keeps` says so, and byte by byte otherwise. -/
def encodeChar (keeps : Char → Bool) (c : Char) : List Char :=
  if keeps c then [c] else (String.utf8EncodeChar c).flatMap encodeByte

def encode (keeps : Char → Bool) (cs : List Char) : List Char := cs.flatMap (encodeChar keeps)

/-- The bytes that a text stands for. -/
def decode : List Char → List UInt8
  | '%' :: a :: b :: rest => match hexValue? a, hexValue? b with
    | some x, some y => UInt8.ofNat (x * 16 + y) :: decode rest
    | _, _ => String.utf8EncodeChar '%' ++ decode (a :: b :: rest)
  | c :: rest => String.utf8EncodeChar c ++ decode rest
  | [] => []

theorem decode_encodeByte (b : UInt8) (rest : List Char) :
    decode (encodeByte b ++ rest) = b :: decode rest := by
  have high : b.toNat / 16 < 16 := Nat.div_lt_of_lt_mul b.toNat_lt
  have low : b.toNat % 16 < 16 := Nat.mod_lt _ (by decide)
  simp only [encodeByte, List.cons_append, List.nil_append, decode,
    Number.hexValue?_upperDigit _ high, Number.hexValue?_upperDigit _ low]
  rw [Nat.div_add_mod' b.toNat 16, UInt8.ofNat_toNat]

end PresenceClient.Link.Percent
