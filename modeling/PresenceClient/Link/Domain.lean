-- Domains: names of hosts as labels with a dot between each two. A domain is written in small
-- letters of ASCII, without the characters that mean something else in an address.
import PresenceClient.Bytes.Utf8
import PresenceClient.Link.Label

namespace PresenceClient.Link.Domain

open Punycode (isAscii)

/-- May the character not stand in a domain? -/
def isForbidden (c : Char) : Bool :=
  decide (c.toNat ≤ 0x20) || c.toNat == 0x7f || "%#/:<>?@[\\]^|".toList.contains c

/-- The labels of a name. Folding may make a dot of a character. -/
def labels? (name : List Char) : Option (List Label) :=
  (Text.partsOf '.' (Text.composed (Text.folded name))).mapM Label.ofText?

/-- Labels with a dot between each two. -/
def joined (labels : List (List Char)) : List Char := List.intercalate ['.'] labels

/-- The domain that some bytes name. -/
def ofBytes? (bytes : List UInt8) : Option (List Char) := do
  let name ← Bytes.toText? bytes
  let labels ← labels? name.toList
  let domain := joined (labels.map Label.written)
  if Label.areSettled labels && domain.all fun c => isAscii c && !isForbidden c then some domain
  else none

end PresenceClient.Link.Domain
