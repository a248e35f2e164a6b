-- The life of the connection: it comes up, is lost, retries, is suspended, fails or is
-- closed, and its channels go along. Where every channel is gone through, the order is
-- a parameter, since it makes no difference.
import PresenceClient.Client.Channels

namespace PresenceClient.Client

open Logged (tell)

/-! ## Coming up -/

/-- Send an unacknowledged message again: under its old serial in a session that was
resumed, under the next one in a new session. -/
def resend (resumed : Bool) (c : Client) (e : Unacked) : Logged Client := do
  let serial := if resumed then e.serial else c.connection.nextSerial
  let m := { e.message with msgSerial := some serial }
  tell [.send m (.again e.responder)]
  pure { c with
    connection := if resumed then c.connection else c.connection.takeSerial
    pending := c.pending.push serial m e.responder }

/-- Send all unacknowledged messages again, in their order. -/
def resendPending (c : Client) (resumed : Bool) : Logged Client :=
  c.pending.entries.foldlM (resend resumed) { c with pending := {} }

/-- Does a greeting go on with the session that the client had? -/
def resumes (c : Client) (m : Message) : Bool :=
  m.error.isNone && c.connection.id.isSome && c.connection.id == m.connectionId

/-- A link is up for the first time. -/
def linkUp (c : Client) (resumed : Bool) : Logged Client := do
  let c := if resumed then c else { c with connection := { c.connection with nextSerial := 0 } }
  let c ← c.resendPending resumed
  c.forNames c.channels.keys (onLinkUp resumed)

/-- The greeting of the server. On a live link it only brings news of the session. -/
def onConnected (c : Client) (m : Message) : Logged Client :=
  match c.connection.state with
  | .connecting | .connected => do
    let wasUp := c.isConnected
    let resumed := c.resumes m
    let connection :=
      { c.connection.greet m with retryAttempts := 0, disconnectedAt := none }
    let c ← { c with connection := connection }.become .connected m.error none
    let c := c.resetIdleTimer
    if wasUp then pure c else c.linkUp resumed
  | _ => pure c

/-! ## Being suspended, failing, closing -/

def failPending (c : Client) (error : ErrorInfo) : Logged Client := do
  let pending ← c.pending.failAll error
  pure { c with pending := pending }

/-- What a suspended connection does to a channel. -/
def suspendUnder (error : ErrorInfo) (c : Client) (name : String) : Logged Client :=
  match c.channel? name with
  | none => pure c
  | some ch => match ch.state with
    | .attached | .attaching => c.suspendChannel name error false
    | _ => c.onChannel name fun ch => ch.failQueue error

/-- Give up on a quick recovery: the channels named in `order` are suspended. -/
def enterSuspendedVisiting (order : List String) (c : Client) : Logged Client :=
  if c.connection.state.canBecome .suspended then do
    let error := Cause.unavailable.info
    let wait := c.options.timing.suspendedRetry
    let c ← c.become .suspended (some error) (some wait)
    let c ← (c.setTimer (some (Alarm.after c.clock wait .retry))).failPending error
    c.forNames order (suspendUnder error)
  else pure c

def enterSuspended (c : Client) : Logged Client := c.enterSuspendedVisiting c.channels.keys

/-- What a failed connection does to a channel. -/
def failUnder (error : ErrorInfo) (c : Client) (name : String) : Logged Client :=
  match c.channel? name with
  | none => pure c
  | some ch => match ch.state with
    | .attaching | .attached | .detaching | .suspended => c.failChannel name error
    | _ => c.onChannel name fun ch => ch.failQueue error

/-- A fatal error: the channels named in `order` fail with it, and all that waits. -/
def failConnectionVisiting (order : List String) (c : Client) (error : ErrorInfo) :
    Logged Client := do
  let c ← c.dropLink
  if c.connection.state.canBecome .failed then do
    let c ← c.become .failed (some error) none
    let c ← { c with connection := c.connection.endSession }.failPending error
    c.forNames order (failUnder error)
  else pure c

def failConnection (c : Client) (error : ErrorInfo) : Logged Client :=
  c.failConnectionVisiting c.channels.keys error

/-- The connection is closed: the channels named in `order` are detached. -/
def finishCloseVisiting (order : List String) (c : Client) : Logged Client := do
  let c ← c.dropLink
  if c.connection.state.canBecome .closed then do
    let c ← c.become .closed none none
    let connection := { c.connection.endSession with retryAttempts := 0 }
    let error := Cause.connectionClosed.info
    let c ← { c with connection := connection }.failPending error
    c.forNames order fun c name => c.onChannel name (detachOnClose error)
  else pure c

def finishClose (c : Client) : Logged Client := c.finishCloseVisiting c.channels.keys

/-- Close the connection. On a live link the server is told and may answer. -/
def close (c : Client) : Logged Client :=
  match c.connection.state with
  | .closing | .closed => pure c
  | .connected => do
    let c ← c.become .closing none none
    transmit Message.close
    pure (c.setTimer (some (Alarm.after c.clock c.options.timing.requestTimeout .closeTimeout)))
  | _ => c.finishClose

/-! ## Being lost -/

/-- Use up a random word. -/
def takeWord (c : Client) : UInt64 × Client :=
  (c.jitterWords.headD 0, { c with jitterWords := c.jitterWords.tail })

/-- Count a loss, and note when the first one was. -/
def noteLoss (c : Client) : Client :=
  { c with connection := { c.connection with
      disconnectedAt := some (c.connection.disconnectedAt.getD c.clock)
      retryAttempts := c.connection.retryAttempts + 1 } }

/-- Have there been too many losses, or is the first one too long ago? -/
def isHopeless (c : Client) : Bool :=
  decide (c.options.timing.maxAttempts < c.connection.retryAttempts) ||
    c.connection.disconnectedAt.any fun lost =>
      decide (c.connection.stateTtl ≤ c.clock.elapsed lost)

/-- Wait for the next attempt. -/
def enterDisconnected (c : Client) (reason : ErrorInfo) : Logged Client :=
  let (word, c) := c.takeWord
  let wait := Backoff.delay c.options.timing.disconnectedRetry c.connection.retryAttempts word
  if c.connection.state.canBecome .disconnected then do
    let c ← c.become .disconnected (some reason) (some wait)
    let c := c.setTimer (some (Alarm.after c.clock wait .retry))
    if c.options.queueMessages then pure c
    else c.forNames c.channels.keys fun c name => c.onChannel name fun ch => ch.failQueue reason
  else pure c

/-- The link is lost: try again after a while, or give up on a quick recovery. -/
def handleLoss (c : Client) (reason : ErrorInfo) : Logged Client := do
  let c ← c.dropLink
  let c := c.noteLoss
  if c.isHopeless then c.enterSuspended else c.enterDisconnected reason

/-- The server ends the session: for good, or so that another attempt is worth while. -/
def onDisconnected (c : Client) (error : Option ErrorInfo) : Logged Client :=
  match error with
  | some e => if e.isRetriable then c.handleLoss e else c.failConnection e
  | none => c.handleLoss Cause.disconnectedByServer.info

/-- The link has ended. -/
def onLinkEnded (c : Client) (error : Option ErrorInfo) : Logged Client :=
  match c.connection.state with
  | .connecting | .connected => c.handleLoss (error.getD Cause.connectionLost.info)
  | .closing => c.finishClose
  | _ => pure c

/-- What the connection waited for has come to its time. -/
def onConnectionTimer (c : Client) (kind : Connection.Timer) : Logged Client :=
  let c := c.setTimer none
  match kind with
  | .connectTimeout => c.handleLoss Cause.connectTimedOut.info
  | .idle => c.handleLoss Cause.linkIdle.info
  | .retry => c.startConnecting
  | .closeTimeout => c.finishClose

end PresenceClient.Client
