-- Hosts: a domain, or an address as a number.
import PresenceClient.Error
import PresenceClient.Link.Domain
import PresenceClient.Link.Ipv4
import PresenceClient.Link.Ipv6
import PresenceClient.Link.Percent

namespace PresenceClient.Link

inductive Host where
  | domain (name : List Char)
  | ipv4 (address : Nat)
  | ipv6 (pieces : List Nat)
deriving DecidableEq, Repr

namespace Host

/-- What stands in brackets, if the text begins with one. -/
def bracketed? : List Char → Option (Option (List Char))
  | '[' :: rest => match rest.reverse with
    | ']' :: inner => some (some inner.reverse)
    | _ => some none
  | _ => none

/-- A name that is no bracketed address. It is an address all the same if its last part is
meant as a number. -/
def ofName? (text : List Char) : Except AddressError Host :=
  match Domain.ofBytes? (Percent.decode text) with
  | none => .error .invalidDomain
  | some name =>
    if name.isEmpty then .error .emptyHost
    else if Ipv4.isMeant name then match Ipv4.parse? name with
      | some address => .ok (.ipv4 address)
      | none => .error .invalidIpv4
    else .ok (.domain name)

def parse? (text : List Char) : Except AddressError Host :=
  if text.isEmpty then .error .emptyHost
  else match bracketed? text with
  | some inner => match inner.bind Ipv6.parse? with
    | some pieces => .ok (.ipv6 pieces)
    | none => .error .invalidIpv6
  | none => ofName? text

def render : Host → List Char
  | domain name => name
  | ipv4 address => Ipv4.render address
  | ipv6 pieces => '[' :: (Ipv6.render pieces ++ [']'])

end Host

end PresenceClient.Link
