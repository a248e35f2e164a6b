-- The errors an operation, a message or an address can end with.
import PresenceClient.Cause

namespace PresenceClient

/-- Why an address is none. -/
inductive AddressError where
  | emptyHost
  | invalidPort
  | invalidIpv6
  | invalidIpv4
  | invalidDomain
deriving DecidableEq, Repr

def AddressError.message : AddressError → String
  | .emptyHost => "empty host"
  | .invalidPort => "invalid port number"
  | .invalidIpv6 => "invalid IPv6 address"
  | .invalidIpv4 => "invalid IPv4 address"
  | .invalidDomain => "invalid international domain name"

inductive Error where
  /-- Raised by the server or by a change of state. -/
  | service (info : ErrorInfo)
  /-- A message that cannot be read or sent. -/
  | protocol (code : Int) (message : String)
  | address (e : AddressError)
  /-- The client is gone. -/
  | closed
deriving DecidableEq, Repr

namespace Error

def display : Error → String
  | service info => "Ably error " ++ info.display
  | protocol code message => "Ably protocol error: code=" ++ toString code ++ ", " ++ message
  | address e => "URL parse error: " ++ e.message
  | closed => "client is closed"

/-- The details, of an error that carries some. -/
def info? : Error → Option ErrorInfo
  | service info => some info
  | _ => none

def code? : Error → Option Int
  | service info => some info.code
  | protocol code _ => some code
  | _ => none

/-- Bytes that are no packed value. -/
def notPacked : Error := protocol 40000 "msgpack decode error"

/-- A packed value that is no message. -/
def notMessage : Error := protocol 40000 "message decode error"

/-- A send on a link that is not open. -/
def notOpen : Error := protocol 80003 "transport is not open"

end Error

end PresenceClient
