-- The steps of a client: a command, a report of a link, a timer, or the end.
import PresenceClient.Client.Lifecycle
import PresenceClient.Client.Members

namespace PresenceClient

open Logged (tell)

/-! ## Inputs -/

/-- What a caller asks of one channel. -/
inductive ChannelCommand where
  | attach
  | detach
  | publish (action : Presence.Action) (clientId : Option String) (data : Payload)
  | get (query : MemberQuery)
  | subscribe (action : Option Presence.Action)
  | unsubscribe (id : ListenerId)
  | unsubscribeAction (action : Presence.Action) (id : ListenerId)
  | unsubscribeAll
  | onState (filter : Option Channel.State)
  | offState (id : ListenerId)
  | release
  | state
  | errorReason
  | queuedCount
  | syncComplete
  | listenerCount (filter : Option Presence.Action)
deriving DecidableEq

/-- What a caller asks of the client. -/
inductive Command where
  | connect
  | close
  | queryConnection
  | onConnection (filter : Option Connection.State)
  | offConnection (id : ListenerId)
  | channel (name : String) (command : ChannelCommand)
deriving DecidableEq

inductive Input where
  /-- A command, with the ticket under which it is answered. -/
  | command (ticket : Ticket) (command : Command)
  /-- The link of a generation reports something. -/
  | link (generation : Nat) (event : LinkEvent)
  /-- The clock moves on. -/
  | clock (now : Instant)
  /-- The timers that are due fire. -/
  | timers
  /-- The receiver of a listener goes away. -/
  | dropListener (id : ListenerId)
  /-- Nobody holds the client any more. -/
  | shutdown
deriving DecidableEq

namespace Client

/-! ## Commands -/

/-- Answer a question about a channel, which is there from then on. -/
def ask (c : Client) (name : String) (ticket : Ticket) (question : Channel → Reply) :
    Logged Client := do
  answer ticket (question (c.channelOrNew name))
  pure (c.ensureChannel name)

/-- Change who listens on a channel. -/
def setListeners (c : Client) (name : String) (f : Channel → Channel) : Client :=
  c.setChannel name (f (c.channelOrNew name))

def onChannelState (c : Client) (name : String) (filter : Option Channel.State)
    (ticket : Ticket) : Logged Client := do
  let id := c.nextListener
  answer ticket (.listener id)
  pure (c.setListeners name fun ch =>
    { ch with stateListeners := ch.stateListeners.on id filter }).takeListenerId

def channelCommand (c : Client) (name : String) (ticket : Ticket) :
    ChannelCommand → Logged Client
  | .attach => c.attachChannel name [.caller ticket]
  | .detach => c.detachChannel name (.caller ticket)
  | .publish action clientId data => c.publish name action clientId data ticket
  | .get query => c.getMembers name query ticket
  | .subscribe action => c.subscribe name action ticket
  | .unsubscribe id => pure (c.setListeners name fun ch =>
      { ch with presenceListeners := ch.presenceListeners.off id })
  | .unsubscribeAction action id => pure (c.setListeners name fun ch =>
      { ch with presenceListeners := ch.presenceListeners.offFiltered (some action) id })
  | .unsubscribeAll => pure (c.setListeners name fun ch =>
      { ch with presenceListeners := ch.presenceListeners.offAll })
  | .onState filter => c.onChannelState name filter ticket
  | .offState id => pure (c.setListeners name fun ch =>
      { ch with stateListeners := ch.stateListeners.off id })
  | .release => c.releaseChannel name
  | .state => c.ask name ticket fun ch => .channelState ch.state
  | .errorReason => c.ask name ticket fun ch => .channelError ch.errorReason
  | .queuedCount => c.ask name ticket fun ch => .count ch.queue.size
  | .syncComplete => c.ask name ticket fun ch => .flag ch.roster.isComplete
  | .listenerCount filter => c.ask name ticket fun ch => .count (ch.presenceListeners.count filter)

def onConnectionState (c : Client) (filter : Option Connection.State) (ticket : Ticket) :
    Logged Client := do
  let id := c.nextListener
  answer ticket (.listener id)
  pure { c with connectionListeners := c.connectionListeners.on id filter }.takeListenerId

def command (c : Client) (ticket : Ticket) : Command → Logged Client
  | .connect => c.connect
  | .close => c.close
  | .queryConnection => do
    answer ticket (.connection c.connection.state c.connection.id c.connection.errorReason)
    pure c
  | .onConnection filter => c.onConnectionState filter ticket
  | .offConnection id => pure { c with connectionListeners := c.connectionListeners.off id }
  | .channel name command => c.channelCommand name ticket command

/-! ## Messages -/

/-- An error of one channel, or of the connection. -/
def onError (c : Client) (m : Message) : Logged Client :=
  let error := m.error.getD Cause.noDetails.info
  match m.channel with
  | some name => c.failChannel name error
  | none => c.failConnection error

def onAck (c : Client) (m : Message) : Logged Client := do
  let pending ← c.pending.ack (m.msgSerial.getD 0) (m.count.getD 1)
  pure { c with pending := pending }

def onNack (c : Client) (m : Message) : Logged Client := do
  let pending ← c.pending.nack (m.msgSerial.getD 0) (m.count.getD 1)
    (m.error.getD Cause.messageRejected.info)
  pure { c with pending := pending }

/-- Any message shows that the link is alive. Kinds that the client has no use for do
nothing else. -/
def onMessage (c : Client) (m : Message) : Logged Client :=
  let c := c.resetIdleTimer
  match Message.Action.ofCode? m.action with
  | some .connected => c.onConnected m
  | some .disconnected => c.onDisconnected m.error
  | some .closed => c.finishClose
  | some .error => c.onError m
  | some .ack => c.onAck m
  | some .nack => c.onNack m
  | some .attached => c.onAttached m
  | some .detached => c.onDetached m
  | some .sync => c.onSync m
  | some .presence => c.onPresence m
  | _ => pure c

/-- What an older link reports is dropped. -/
def onLinkEvent (c : Client) (generation : Nat) (event : LinkEvent) : Logged Client :=
  if generation = c.connection.generation then
    match event with
    | .message m => c.onMessage m
    | .ended error => c.onLinkEnded error
  else pure c

/-! ## Timers -/

/-- When the first timer is due. -/
def nextDeadline (c : Client) : Option Instant :=
  let alarms := (c.connection.timer.map (·.due)).toList ++
    c.channels.values.filterMap fun ch => ch.timer.map (·.due)
  alarms.min?

/-- The channels whose timer is due, in the order of their names. -/
def dueChannels (c : Client) (now : Instant) : List String :=
  (c.channels.entries.filter fun (_, ch) => ch.timer.any fun a => a.isDue now).map (·.1)

/-- Fire the timer of the connection if it is due. -/
def fireConnectionTimer (c : Client) (now : Instant) : Logged Client :=
  match c.connection.timer with
  | some alarm => if alarm.isDue now then c.onConnectionTimer alarm.kind else pure c
  | none => pure c

/-- Fire the timers that are due, the connection's first. -/
def fireTimers (c : Client) (now : Instant) : Logged Client := do
  let c ← c.fireConnectionTimer now
  c.forNames (c.dueChannels now) onChannelTimer

/-! ## The end -/

/-- Say good-bye, and fail everything that still waits. -/
def shutdown (c : Client) : Logged Client := do
  if c.isConnected then transmit Message.close
  tell [.closeLink]
  let error := Cause.clientDropped.info
  let c ← c.failPending error
  c.forNames c.channels.keys fun c name => c.onChannel name fun ch => ch.failWaiters error

/-! ## Steps -/

def step (c : Client) : Input → Logged Client
  | .command ticket command => c.command ticket command
  | .link generation event => c.onLinkEvent generation event
  | .clock now => pure { c with clock := max c.clock now }
  | .timers => c.fireTimers c.clock
  | .dropListener id => pure (c.dropListener id)
  | .shutdown => c.shutdown

/-- A run from a state, with all effects in order. -/
def run (c : Client) (inputs : List Input) : Logged Client := inputs.foldlM step c

theorem run_cons (c : Client) (i : Input) (rest : List Input) :
    c.run (i :: rest) = c.step i >>= fun c => c.run rest := rfl

/-- A run goes on where an earlier one has ended. -/
theorem run_append (c : Client) (first later : List Input) :
    c.run (first ++ later) = c.run first >>= fun c => c.run later := List.foldlM_append

end Client

end PresenceClient
