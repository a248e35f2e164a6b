-- Presence on a channel: entering, updating and leaving, asking for members, listening,
-- and taking in what the server reports of others.
import PresenceClient.Presence.Arrival
import PresenceClient.Client.Channels

namespace PresenceClient.Client

open Logged (tell)

/-- An answer to the caller with the ticket. -/
def answer (ticket : Ticket) (reply : Reply) : Logged Unit := tell [.resolve ticket reply]

def refuse (ticket : Ticket) (cause : Cause) : Logged Unit :=
  answer ticket (.failed (.service cause.info))

/-! ## Publishing -/

/-- Does the connection take operations, for now or for later? -/
def takesOperations (c : Client) : Bool :=
  match c.connection.state with
  | .connected => true
  | .connecting | .disconnected => c.options.queueMessages
  | _ => false

/-- Queue a message on a channel, and attach the channel if it is not about to be. -/
def queueMessage (c : Client) (name : String) (m : Message) (ticket : Ticket) : Logged Client :=
  let ch := c.channelOrNew name
  let c := c.setChannel name { ch with queue := ch.queue.enqueue m (.caller ticket) }
  match ch.state with
  | .initialized | .detached | .detaching => c.attachChannel name []
  | _ => pure c

/-- Enter, update or leave: sent at once on an attached channel of a live connection,
queued otherwise. -/
def publish (c : Client) (name : String) (action : Presence.Action) (clientId : Option String)
    (data : Payload) (ticket : Ticket) : Logged Client :=
  match clientId <|> c.options.clientId with
  | none => do
    refuse ticket .missingClientId
    pure c
  | some clientId =>
    let state := (c.channelOrNew name).state
    let c := c.ensureChannel name
    let m := Message.publish name action clientId data
    if state = .failed ∨ state = .suspended then do
      refuse ticket (.channelState .publish state)
      pure c
    else if !c.takesOperations then do
      answer ticket (.failed (.service c.connectionError))
      pure c
    else if state = .attached ∧ c.isConnected then c.sendForAck m (.caller ticket)
    else c.queueMessage name m ticket

/-! ## Asking and listening -/

/-- Put a caller among those who wait for members. -/
def parkGet (c : Client) (name : String) (query : MemberQuery) (ticket : Ticket) : Client :=
  let ch := c.channelOrNew name
  c.setChannel name { ch with pendingGets := ch.pendingGets ++ [⟨query, ticket⟩] }

/-- The members of a channel; the answer waits for an attach and, if it is to, for a sync. -/
def getMembers (c : Client) (name : String) (query : MemberQuery) (ticket : Ticket) :
    Logged Client :=
  let ch := c.channelOrNew name
  let c := c.ensureChannel name
  let now : Reply := .members (ch.roster.select query)
  match ch.state with
  | .failed => do
    refuse ticket (.channelState .get .failed)
    pure c
  | .suspended => do
    if query.waitForSync then refuse ticket .syncSuspended else answer ticket now
    pure c
  | .attached =>
    if ch.roster.isComplete || !query.waitForSync then do
      answer ticket now
      pure c
    else pure (c.parkGet name query ticket)
  | .attaching => pure (c.parkGet name query ticket)
  | .initialized | .detached | .detaching =>
    let c := c.parkGet name query ticket
    match c.attachRefusal with
    | some error => c.onChannel name fun ch => ch.failGets error
    | none => c.attachChannel name []

/-- Register a listener for presence on a channel. -/
def addPresenceListener (c : Client) (name : String) (filter : Option Presence.Action)
    (ticket : Ticket) : Logged Client := do
  let ch := c.channelOrNew name
  let id := c.nextListener
  answer ticket (.listener id)
  pure ((c.setChannel name
    { ch with presenceListeners := ch.presenceListeners.on id filter }).takeListenerId)

/-- Listen for presence; a channel that is not in use is attached first. -/
def subscribe (c : Client) (name : String) (filter : Option Presence.Action) (ticket : Ticket) :
    Logged Client :=
  let state := (c.channelOrNew name).state
  let c := c.ensureChannel name
  match state with
  | .failed => do
    refuse ticket (.channelState .subscribe .failed)
    pure c
  | .initialized | .detached => match c.attachRefusal with
    | some error => do
      answer ticket (.failed (.service error))
      pure c
    | none => do
      let c ← c.attachChannel name []
      c.addPresenceListener name filter ticket
  | _ => c.addPresenceListener name filter ticket

/-! ## What the server reports -/

/-- Is the record one of this connection's own, and not the server's word that it left? -/
def isOwn (c : Client) (p : Presence) : Bool :=
  c.connection.id == some p.connectionId && !(p.action == .leave && p.isSynthesized)

/-- Take in one live record. -/
def takeLive (c : Client) (ch : Channel) (p : Presence) : Logged Channel :=
  (if c.isOwn p then { ch with roster := ch.roster.trackOwn p } else ch).take p

def onPresence (c : Client) (m : Message) : Logged Client :=
  match m.channel with
  | none => pure c
  | some name => c.onChannel name fun ch => (Presence.arrivals m).foldlM c.takeLive ch

/-- Take in one page of a sync. The last one ends it. -/
def takePage (m : Message) (ch : Channel) : Logged Channel := do
  let ch ← (Presence.arrivals m).foldlM Channel.take { ch with roster := ch.roster.startSync }
  let ch := { ch with roster := ch.roster.setCursor m.channelSerial }
  if isLastPage m.channelSerial then do
    let ch ← ch.endSync m.timestamp
    ch.answerGets
  else pure ch

def onSync (c : Client) (m : Message) : Logged Client :=
  match m.channel with
  | none => pure c
  | some name => c.onChannel name fun ch =>
      if ch.state == .attached then takePage m ch else pure ch

end PresenceClient.Client
