-- Channels on the connection: attaching, detaching, releasing, and what the server says
-- about that.
import PresenceClient.Client.Connect

namespace PresenceClient.Client

open Logged (tell)

/-! ## Asking the server -/

/-- Set what a channel waits for. -/
def setChannelTimer (c : Client) (name : String) (ch : Channel) (wait : Duration)
    (kind : Channel.Timer) : Client :=
  c.setChannel name { ch with timer := some (Alarm.after c.clock wait kind) }

def sendAttach (c : Client) (name : String) : Logged Client :=
  match c.channel? name with
  | none => pure c
  | some ch => do
    transmit (Message.attach name none ch.serial)
    pure (c.setChannelTimer name ch c.options.timing.requestTimeout .attachTimeout)

def sendDetach (c : Client) (name : String) : Logged Client :=
  match c.channel? name with
  | none => pure c
  | some ch => do
    transmit (Message.detach name)
    pure (c.setChannelTimer name ch c.options.timing.requestTimeout .detachTimeout)

/-- Send what is queued on an attached channel, in the order of its submission. -/
def flushQueue (c : Client) (name : String) : Logged Client :=
  match c.channel? name with
  | none => pure c
  | some ch =>
    if c.isConnected && ch.state == .attached then
      ch.queue.entries.foldlM (fun c e => c.sendForAck e.message e.responder)
        (c.setChannel name { ch with queue := {} })
    else pure c

/-! ## Attaching -/

/-- What an operation is told on a connection that cannot serve it. -/
def connectionError (c : Client) : ErrorInfo :=
  c.connection.errorReason.getD (Cause.connectionState c.connection.state).info

/-- Why no attach can begin: the connection will not come up by itself. -/
def attachRefusal (c : Client) : Option ErrorInfo :=
  match c.connection.state with
  | .closing | .closed | .failed | .suspended => some c.connectionError
  | _ => none

/-- Start to attach a channel. A detach that was under way is superseded. -/
def beginAttach (c : Client) (name : String) (ch : Channel) (waiters : List Responder) :
    Logged Client := do
  let ch ← (ch.awaitAttach waiters).failDetachWaiters Cause.detachSuperseded.info
  let ch ← ch.become .attaching none false
  let c := c.setChannel name ch
  match c.connection.state with
  | .connected => c.sendAttach name
  | .initialized => c.connect
  | _ => pure c

/-- Attach a channel, or join an attach that is under way. -/
def attachChannel (c : Client) (name : String) (waiters : List Responder) : Logged Client :=
  let ch := c.channelOrNew name
  let refusal := c.attachRefusal
  let c := c.ensureChannel name
  match ch.state with
  | .attached => do
    tell (Channel.succeedEach waiters)
    pure c
  | .attaching => pure (c.setChannel name (ch.awaitAttach waiters))
  | _ => match refusal with
    | some error => do
      tell (Channel.failEach waiters error)
      pure c
    | none => c.beginAttach name ch waiters

/-! ## Detaching -/

/-- Detach a channel. Without a live link it is detached at once. -/
def detachChannel (c : Client) (name : String) (waiter : Responder) : Logged Client :=
  let ch := c.channelOrNew name
  let c := c.ensureChannel name
  match ch.state with
  | .initialized | .detached => do
    tell waiter.succeed
    pure c
  | .failed => do
    tell (waiter.fail (Cause.channelState .detach .failed).info)
    pure c
  | .detaching => pure (c.setChannel name (ch.awaitDetach waiter))
  | .suspended => c.onChannel name fun ch =>
      (ch.awaitDetach waiter).enterDetached none Cause.channelDetached.info
  | .attached | .attaching =>
    if c.isConnected then do
      let ch ← ch.failAttachWaiters Cause.detachedWhileAttaching.info
      let ch ← (ch.awaitDetach waiter).become .detaching none false
      (c.setChannel name ch).sendDetach name
    else c.onChannel name fun ch =>
      (ch.awaitDetach waiter).enterDetached none Cause.channelDetached.info

/-- Fail what was sent on a channel and is not acknowledged. -/
def failPendingOf (c : Client) (name : String) (error : ErrorInfo) : Logged Client := do
  let pending ← c.pending.failChannel name error
  pure { c with pending := pending }

/-- Drop a channel with everything that waits or listens on it. -/
def releaseChannel (c : Client) (name : String) : Logged Client :=
  match c.channel? name with
  | none => pure c
  | some ch => do
    let _ ← ch.failWaiters Cause.channelReleased.info
    let c ← { c with channels := c.channels.erase name }.failPendingOf name
      Cause.channelReleased.info
    if c.isConnected && (ch.state == .attached || ch.state == .attaching) then
      transmit (Message.detach name)
    pure c

/-! ## Failing and suspending -/

/-- A fatal error of one channel: everything that waits on it fails with that error. -/
def failChannel (c : Client) (name : String) (error : ErrorInfo) : Logged Client :=
  match c.channel? name with
  | none => pure c
  | some ch =>
    if ch.state == .failed then pure c
    else do
      let ch ← { ch with timer := none, serial := none }.become .failed (some error) false
      let ch ← { ch with roster := ch.roster.reset }.failWaiters error
      (c.setChannel name ch).failPendingOf name error

/-- Suspend a channel, to attach again later if `retry` is set. Its members are kept. -/
def suspendChannel (c : Client) (name : String) (reason : ErrorInfo) (retry : Bool) :
    Logged Client :=
  c.onChannel name fun ch =>
    if ch.state.canBecome .suspended then do
      let ch ← ch.become .suspended (some reason) false
      let ch ← ch.failWaiters reason
      let wait := Alarm.after c.clock c.options.timing.channelRetry Channel.Timer.reattach
      pure { ch with timer := if retry then some wait else none }
    else pure ch

/-- The connection is closed: a channel that was in use is detached, and nothing waits. -/
def detachOnClose (error : ErrorInfo) (ch : Channel) : Logged Channel :=
  match ch.state with
  | .attached | .attaching | .detaching | .suspended => ch.enterDetached none error
  | _ => ch.failWaiters error

/-! ## What the server says -/

/-- Is the channel in a state in which the server may attach it? -/
def acceptsAttached (ch : Channel) : Bool :=
  match ch.state with
  | .attaching | .attached | .suspended => true
  | _ => false

/-- What an attach does to the channel itself: whoever waits is told, and a sync begins,
which is over at once if nobody is present. -/
def attachedChannel (m : Message) (ch : Channel) : Logged Channel := do
  let ch := { ch with serial := m.channelSerial <|> ch.serial, timer := none, reattachedAt := none }
  let ch ← ch.become .attached m.error (m.has .resumed)
  let ch ← ch.attachDone
  let ch := { ch with roster := ch.roster.startSync }
  if m.has .hasPresence then ch.answerUnsyncedGets
  else do
    let ch ← ch.endSync m.timestamp
    ch.answerGets

/-- Enter a member again that this connection had entered. -/
def reenter (name : String) (c : Client) (p : Presence) : Logged Client :=
  c.sendForAck (Message.publish name .enter p.clientId p.data) (.reentry name p.clientId)

def onAttached (c : Client) (m : Message) : Logged Client :=
  match m.channel with
  | none => pure c
  | some name => match c.channel? name with
    | none => pure c
    | some ch =>
      if acceptsAttached ch then do
        let ch ← attachedChannel m ch
        let c := c.setChannel name ch
        if c.isConnected then do
          let mine := if m.has .resumed then [] else ch.roster.ownMembers
          let c ← mine.foldlM (reenter name) c
          c.flushQueue name
        else pure c
      else pure c

/-- The server has detached a channel that is in use: attach it again, unless that was
tried a short time ago. -/
def reattach (c : Client) (name : String) (ch : Channel) (error : Option ErrorInfo) :
    Logged Client :=
  let soon := ch.reattachedAt.any fun last =>
    decide (c.clock.elapsed last < c.options.timing.channelRetry)
  if soon then c.suspendChannel name (error.getD Cause.channelDetached.info) true
  else do
    let ch ← { ch with reattachedAt := some c.clock }.become .attaching error false
    let c := c.setChannel name ch
    if c.isConnected then c.sendAttach name else pure c

def onDetached (c : Client) (m : Message) : Logged Client :=
  match m.channel with
  | none => pure c
  | some name => match c.channel? name with
    | none => pure c
    | some ch => match ch.state with
      | .detaching => c.onChannel name fun ch =>
          ch.enterDetached m.error (m.error.getD Cause.channelDetached.info)
      | .attached | .attaching => match m.error with
        | some error =>
          if error.isRetriable then c.reattach name ch m.error else c.failChannel name error
        | none => c.reattach name ch none
      | _ => pure c

/-- A link is up: take up again what a channel was doing. -/
def onLinkUp (resumed : Bool) (c : Client) (name : String) : Logged Client :=
  match c.channel? name with
  | none => pure c
  | some ch => match ch.state with
    | .attaching => c.sendAttach name
    | .detaching => c.sendDetach name
    | .attached =>
      if resumed then do
        match ch.roster.isSyncing, ch.roster.cursor with
        | true, some cursor => transmit (Message.sync name cursor)
        | _, _ => pure ()
        c.flushQueue name
      else do
        let c ← c.onChannel name fun ch => ch.become .attaching none false
        c.sendAttach name
    | .suspended => do
      let c ← c.onChannel name fun ch => ch.become .attaching none false
      c.sendAttach name
    | _ => pure c

/-! ## Timers -/

/-- The server has not answered a detach: the channel is attached as before. -/
def detachTimedOut (ch : Channel) : Logged Channel := do
  let ch ← ch.become .attached (some Cause.detachTimedOut.info) false
  ch.failDetachWaiters Cause.detachTimedOut.info

/-- What a channel waited for has come to its time. -/
def onChannelTimer (c : Client) (name : String) : Logged Client :=
  match c.channel? name with
  | none => pure c
  | some ch => match ch.timer with
    | none => pure c
    | some alarm =>
      let c := c.setChannel name { ch with timer := none }
      match alarm.kind with
      | .attachTimeout => c.suspendChannel name Cause.attachTimedOut.info true
      | .detachTimeout => if c.isConnected then c.onChannel name detachTimedOut else pure c
      | .reattach =>
        if ch.state == .suspended && c.isConnected then c.attachChannel name [] else pure c

end PresenceClient.Client
