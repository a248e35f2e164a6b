-- Labels: the text that stands for a packed value where a field name is wanted.
import PresenceClient.Packed
import PresenceClient.Bytes.Utf8
import PresenceClient.Number.Shortest
import PresenceClient.Text.Quoted

namespace PresenceClient.Packed

open Number

/-! ## Parts -/

def labelInt (n : Int) : List Char :=
  if n < 0 then '-' :: Nat.toDigits 10 n.natAbs else Nat.toDigits 10 n.natAbs

/-- A double in full, without an exponent and without a needless point. Of two shortest
writings that are equally near, the greater size is taken. -/
def labelSize (negative infinite nan : Bool) (size : Binary) : List Char :=
  if nan then ['N', 'a', 'N']
  else
    let text := if infinite then ['i', 'n', 'f'] else (size.shortest .up).positional []
    if negative then '-' :: text else text

def labelDouble (x : Binary64) : List Char :=
  labelSize x.isNegative x.isInfinite x.isNaN x.toBinary

/-- A single has digits of its own, as few as tell it from other singles. -/
def labelSingle (word : UInt32) : List Char :=
  let x := Binary64.ofSingle word
  labelSize x.isNegative x.isInfinite x.isNaN (singleToBinary word)

/-- Texts with a comma and a blank between them. -/
def commaSeparated (texts : List (List Char)) : List Char := [',', ' '].intercalate texts

def labelBytes (bytes : List UInt8) : List Char :=
  '[' :: (commaSeparated (bytes.map fun b => Nat.toDigits 10 b.toNat) ++ [']'])

/-! ## Labels -/

mutual

/-- The label of a value inside another one, where text stands in quotes. -/
def label : Packed → List Char
  | .nil => ['n', 'i', 'l']
  | .bool true => ['t', 'r', 'u', 'e']
  | .bool false => ['f', 'a', 'l', 's', 'e']
  | .int n => labelInt n
  | .single word => labelSingle word
  | .double x => labelDouble x
  | .text bytes => match Bytes.toText? bytes with
    | some s => Text.quoted s
    | none => labelBytes bytes
  | .bin bytes => labelBytes bytes
  | .ext tag bytes => '[' :: (labelInt tag ++ ',' :: ' ' :: (labelBytes bytes ++ [']']))
  | .list items => '[' :: (commaSeparated (labelItems items) ++ [']'])
  | .map entries => '{' :: (commaSeparated (labelEntries entries) ++ ['}'])

def labelItems : List Packed → List (List Char)
  | [] => []
  | v :: rest => v.label :: labelItems rest

def labelEntries : List (Packed × Packed) → List (List Char)
  | [] => []
  | (k, v) :: rest => (k.label ++ ':' :: ' ' :: v.label) :: labelEntries rest

end

/-- Text for what should be text; bytes that are none count as empty. -/
def textOrEmpty (bytes : List UInt8) : String := (Bytes.toText? bytes).getD ""

/-- The field name that a key gives. -/
def fieldName : Packed → String
  | .text bytes => textOrEmpty bytes
  | key => String.ofList key.label

end PresenceClient.Packed
