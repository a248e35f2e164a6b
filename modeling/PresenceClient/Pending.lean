-- Pending messages: sent, but not yet acknowledged. An acknowledgement names a first
-- serial and a count; a count below one counts as one.
import PresenceClient.Effect

namespace PresenceClient

/-- A message under the serial that it was sent with. -/
structure Unacked where
  serial : Int
  message : Message
  responder : Responder
deriving DecidableEq, Repr

/-- The unacknowledged messages, oldest first. -/
structure Pending where
  entries : List Unacked := []
deriving DecidableEq, Repr, Inhabited

namespace Pending

def push (p : Pending) (serial : Int) (message : Message) (responder : Responder) : Pending :=
  ⟨p.entries ++ [⟨serial, message, responder⟩]⟩

/-! ## Taking out -/

/-- The greatest serial there is. -/
def lastSerial : Int := 0x7fffffffffffffff

/-- Where the serials of an acknowledgement end. -/
def rangeEnd (serial count : Int) : Int := min (serial + max count 1) lastSerial

def inRange (serial count : Int) (e : Unacked) : Bool :=
  decide (serial ≤ e.serial ∧ e.serial < rangeEnd serial count)

/-- The entries that a test picks. -/
def picked (p : Pending) (test : Unacked → Bool) : List Unacked := p.entries.filter test

/-- What is left when they are taken out. -/
def without (p : Pending) (test : Unacked → Bool) : Pending :=
  ⟨p.entries.filter fun e => !test e⟩

/-- Take out the entries that a test picks and tell each how it ended. -/
def settle (p : Pending) (test : Unacked → Bool) (reply : Reply) : Logged Pending :=
  { value := p.without test, log := (p.picked test).flatMap fun e => e.responder.resolve reply }

/-- The serials from `serial` on succeed. -/
def ack (p : Pending) (serial count : Int) : Logged Pending := p.settle (inRange serial count) .done

/-- The serials from `serial` on fail. -/
def nack (p : Pending) (serial count : Int) (error : ErrorInfo) : Logged Pending :=
  p.settle (inRange serial count) (.failed (.service error))

def failAll (p : Pending) (error : ErrorInfo) : Logged Pending :=
  p.settle (fun _ => true) (.failed (.service error))

def onChannel (channel : String) (e : Unacked) : Bool := e.message.channel == some channel

/-- Fail what was sent on one channel. -/
def failChannel (p : Pending) (channel : String) (error : ErrorInfo) : Logged Pending :=
  p.settle (onChannel channel) (.failed (.service error))

end Pending

end PresenceClient
