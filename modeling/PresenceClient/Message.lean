-- Messages as they travel on a link, and the ones that the client sends. A message is
-- one record for all kinds: its action says which fields matter.
import PresenceClient.ErrorInfo
import PresenceClient.Encoding
import PresenceClient.Presence.Action

namespace PresenceClient

/-! ## Parts of a message -/

/-- What a server says about a connection it has set up. Times are in milliseconds. -/
structure ConnectionDetails where
  clientId : Option String := none
  connectionKey : Option String := none
  connectionStateTtl : Option Int := none
  maxIdleInterval : Option Int := none
  maxMessageSize : Option Int := none
  serverId : Option String := none
deriving DecidableEq, Repr, Inhabited

/-- One presence entry of a message, before its gaps are filled. -/
structure Entry where
  id : Option String := none
  action : Int := 0
  clientId : Option String := none
  connectionId : Option String := none
  data : Option Payload := none
  encoding : Option String := none
  timestamp : Option Int := none
deriving DecidableEq, Repr, Inhabited

structure Message where
  action : Int := 0
  id : Option String := none
  channel : Option String := none
  channelSerial : Option String := none
  connectionId : Option String := none
  connectionKey : Option String := none
  connectionDetails : Option ConnectionDetails := none
  msgSerial : Option Int := none
  count : Option Int := none
  flags : Option Int := none
  error : Option ErrorInfo := none
  presence : Option (List Entry) := none
  timestamp : Option Int := none
  params : Option (Table String String) := none
deriving DecidableEq, Repr, Inhabited

namespace Message

/-! ## Actions -/

/-- The kinds of message that the client knows. -/
inductive Action where
  | heartbeat
  | ack
  | nack
  | connected
  | disconnected
  | close
  | closed
  | error
  | attach
  | attached
  | detach
  | detached
  | presence
  | message
  | sync
deriving DecidableEq, Repr

namespace Action

def code : Action → Int
  | heartbeat => 0
  | ack => 1
  | nack => 2
  | connected => 4
  | disconnected => 6
  | close => 7
  | closed => 8
  | error => 9
  | attach => 10
  | attached => 11
  | detach => 12
  | detached => 13
  | presence => 14
  | message => 15
  | sync => 16

def ofCode? : Int → Option Action
  | 0 => some heartbeat
  | 1 => some ack
  | 2 => some nack
  | 4 => some connected
  | 6 => some disconnected
  | 7 => some close
  | 8 => some closed
  | 9 => some error
  | 10 => some attach
  | 11 => some attached
  | 12 => some detach
  | 13 => some detached
  | 14 => some presence
  | 15 => some message
  | 16 => some sync
  | _ => none

theorem ofCode?_code (a : Action) : ofCode? a.code = some a := by cases a <;> rfl

end Action

/-! ## Flags -/

inductive Flag where
  | hasPresence
  | hasBacklog
  | resumed
  | attachResume
deriving DecidableEq, Repr

/-- The value of a flag, a power of two. -/
def Flag.value : Flag → Nat
  | hasPresence => 1
  | hasBacklog => 2
  | resumed => 4
  | attachResume => 32

/-- Is the flag set? A negative number has the flags of its two's complement. -/
def has (m : Message) (f : Flag) : Bool :=
  decide ((m.flags.getD 0).fdiv f.value % 2 = 1)

/-! ## The messages that the client sends -/

/-- Attach a channel; with the serial of the last time, so that it goes on from there. -/
def attach (channel : String) (params : Option (Table String String)) (serial : Option String) :
    Message :=
  { action := Action.attach.code
    channel := some channel
    channelSerial := serial
    flags := serial.map fun _ => (Flag.attachResume.value : Int)
    params := params }

def detach (channel : String) : Message :=
  { action := Action.detach.code, channel := some channel }

/-- Ask for the rest of a sync from the page after `cursor` on. -/
def sync (channel cursor : String) : Message :=
  { action := Action.sync.code, channel := some channel, channelSerial := some cursor }

/-- One entry for `clientId` on a channel. -/
def publish (channel : String) (action : Presence.Action) (clientId : String) (data : Payload) :
    Message :=
  let (wired, encoding) := Encoding.encode data
  { action := Action.presence.code
    channel := some channel
    presence := some
      [{ action := action.code, clientId := some clientId, data := wired, encoding := encoding }] }

def close : Message := { action := Action.close.code }

end Message

end PresenceClient
