-- The client: one connection, the channels on it, what awaits an acknowledgement, and
-- who listens. This module holds the state and the small steps that all others share.
import PresenceClient.Backoff
import PresenceClient.Channel
import PresenceClient.Connection
import PresenceClient.Options
import PresenceClient.Pending

namespace PresenceClient

open Logged (tell)

structure Client where
  options : Options
  connection : Connection
  channels : Table String Channel := ∅
  pending : Pending := {}
  connectionListeners : Listener.Registry Connection.State := {}
  /-- The id of the next registration. -/
  nextListener : ListenerId := 0
  /-- Random words for the waits to come. -/
  jitterWords : List UInt64 := []
  clock : Instant := 0
deriving DecidableEq, Repr

namespace Client

/-- A client before it has done anything. -/
def fresh (options : Options) (jitterWords : List UInt64) : Client :=
  { options := options
    connection :=
      { stateTtl := options.timing.defaultStateTtl, maxIdle := options.timing.defaultMaxIdle }
    jitterWords := jitterWords }

def isConnected (c : Client) : Bool := c.connection.isConnected

/-! ## Channels -/

def channel? (c : Client) (name : String) : Option Channel := c.channels.get? name

def setChannel (c : Client) (name : String) (ch : Channel) : Client :=
  { c with channels := c.channels.put name ch }

/-- The channel of a name, new if there is none. -/
def channelOrNew (c : Client) (name : String) : Channel := (c.channel? name).getD {}

/-- Have a channel of the name. -/
def ensureChannel (c : Client) (name : String) : Client := c.setChannel name (c.channelOrNew name)

/-- Do something on a channel, if there is one of the name. -/
def onChannel (c : Client) (name : String) (f : Channel → Logged Channel) : Logged Client :=
  match c.channel? name with
  | none => pure c
  | some ch => do
    let ch ← f ch
    pure (c.setChannel name ch)

/-- Do something for each of some names in turn. -/
def forNames (c : Client) (names : List String) (f : Client → String → Logged Client) :
    Logged Client := names.foldlM f c

/-! ## Sending -/

/-- Send a message that nothing acknowledges. -/
def transmit (m : Message) : Logged Unit := tell [.send m .notice]

/-- Send a message under the next serial and wait for its acknowledgement. -/
def sendForAck (c : Client) (m : Message) (responder : Responder) : Logged Client := do
  let serial := c.connection.nextSerial
  let m := { m with msgSerial := some serial }
  tell [.send m (.first responder)]
  pure { c with
    connection := c.connection.takeSerial
    pending := c.pending.push serial m responder }

/-! ## Listeners -/

/-- Use up a listener id. -/
def takeListenerId (c : Client) : Client := { c with nextListener := c.nextListener + 1 }

/-- The receiver of a listener goes away. -/
def dropListener (c : Client) (id : ListenerId) : Client :=
  { c with
    connectionListeners := c.connectionListeners.drop id
    channels := ⟨c.channels.entries.map fun (name, ch) =>
      (name, { ch with
        presenceListeners := ch.presenceListeners.drop id
        stateListeners := ch.stateListeners.drop id })⟩ }

/-- Does any registry hold the listener? -/
def holdsListener (c : Client) (id : ListenerId) : Bool :=
  c.connectionListeners.contains id ||
    c.channels.values.any fun ch =>
      ch.presenceListeners.contains id || ch.stateListeners.contains id

/-! ## The state of the connection -/

/-- Go to a state, if there is a way, and tell the listeners. Coming up and closing clear
the reason that another state left. -/
def become (c : Client) (next : Connection.State) (reason : Option ErrorInfo)
    (retryIn : Option Duration) : Logged Client :=
  let state := c.connection.state
  if state.canBecome next then do
    let listeners ← c.connectionListeners.publish next (.connection ⟨state, next, reason, retryIn⟩)
    let kept := if next = .connected ∨ next = .closed then none else c.connection.errorReason
    pure { c with
      connection := { c.connection with state := next, errorReason := reason <|> kept }
      connectionListeners := listeners }
  else pure c

/-- Set or clear what the connection waits for. -/
def setTimer (c : Client) (timer : Option (Alarm Connection.Timer)) : Client :=
  { c with connection := { c.connection with timer := timer } }

/-- Give up the link, so that nothing more is heard of it. -/
def dropLink (c : Client) : Logged Client := do
  tell [.closeLink]
  pure { c with connection := { c.connection with generation := c.connection.generation + 1 } }

/-- Wait for the next word of the server. -/
def resetIdleTimer (c : Client) : Client :=
  if c.isConnected then
    c.setTimer (some (Alarm.after c.clock (c.connection.maxIdle + c.options.timing.heartbeatMargin)
      .idle))
  else c

end Client

end PresenceClient
