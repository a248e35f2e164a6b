-- The paths of the states in a whole step: every function of the client tells the listeners of
-- all the steps that its states take, one by one. Registering and removing listeners, and
-- releasing a channel, change no state and tell of none.
import PresenceClient.Proofs.ChangePaths

namespace PresenceClient.Client

open Logged (tell)

/-! ## The connection by itself -/

section Connection

variable {c : Client}

/-- A step that may be taken is taken and told of, and no other. -/
theorem tells_become (next : Connection.State) (reason : Option ErrorInfo)
    (retryIn : Option Duration) : Tells c (c.become next reason retryIn) := by
  refine become_cases (fun hmay => ?goes) fun _ => tells_pure
  let change : Connection.Change := ⟨c.connection.state, next, reason, retryIn⟩
  have htold : ∀ id,
      connectionChanges id (c.connectionListeners.publish next (.connection change)).log =
        ((c.connectionListeners.seats id).filter fun e => e.wants next).map fun _ => change :=
    fun id => Listener.Registry.filterMap_publish next (.connection change)
      (Effect.connectionChange? id) change (if_pos rfl) fun _ hne => if_neg hne
  refine ⟨c.connectionListeners.live_prune, fun _ => rfl, Nat.le_refl _, fun id hid => ?_,
    fun name id _ => ?_⟩
  · rw [Logged.log_bind, Logged.log_pure, List.append_nil, htold, hid]
    exact ⟨rfl, hmay, rfl⟩
  · have hnone : channelChanges id
        (c.connectionListeners.publish next (.connection change)).log = [] := by
      refine List.filterMap_eq_nil_iff.mpr fun e he => ?_
      obtain ⟨_, rfl⟩ := mem_publish he
      rfl
    rw [Logged.log_bind, Logged.log_pure, List.append_nil, hnone]
    exact rfl

theorem tells_startConnecting : Tells c c.startConnecting := by
  refine startConnecting_cases (fun _ => ?opens) fun _ => tells_pure
  refine tells_bind (tells_become _ _ _) (tells_same rfl rfl rfl (Nat.le_refl _) ?_)
  exact still_append (still_singleton rfl) (still_append (still_singleton rfl) still_nil)

theorem tells_connect : Tells c c.connect :=
  connect_cases (fun _ => tells_pure) fun _ _ _ => tells_startConnecting

theorem tells_resetIdleTimer {r : Logged Client} (h : Tells c.resetIdleTimer r) : Tells c r := by
  revert h
  exact resetIdleTimer_cases (fun _ h => tells_from h rfl rfl rfl rfl) fun _ => id

theorem tells_sendForAck (m : Message) (responder : Responder) :
    Tells c (c.sendForAck m responder) :=
  tells_same rfl rfl rfl (Nat.le_refl _) (still_append (still_singleton rfl) still_nil)

end Connection

/-! ## Attaching and detaching -/

section Channels

variable {c : Client} {name : String} {ch : Channel}

theorem tells_sendAttach : Tells c (c.sendAttach name) :=
  sendAttach_cases (fun _ => tells_pure) fun _ hch =>
    tells_quiet (still_singleton rfl) (tells_change hch tells_pure rfl rfl)

theorem tells_sendDetach : Tells c (c.sendDetach name) :=
  sendDetach_cases (fun _ => tells_pure) fun _ hch =>
    tells_quiet (still_singleton rfl) (tells_change hch tells_pure rfl rfl)

theorem tells_flushQueue : Tells c (c.flushQueue name) := by
  refine flushQueue_cases (fun _ => tells_pure) fun ch hch _ _ => ?_
  exact tells_change hch (tells_foldlM (fun _ _ => tells_sendForAck _ _) _) rfl rfl

theorem tells_beginAttach (hch : c.channelOrNew name = ch) (waiters : List Responder) :
    Tells c (c.beginAttach name ch waiters) := by
  have hx := Channel.tells_toAttaching ch waiters
  exact beginAttach_cases (fun _ => tells_channel hch hx tells_sendAttach)
    (fun _ => tells_channel hch hx tells_connect) fun _ _ => tells_channel hch hx tells_pure

theorem tells_attachChannel (waiters : List Responder) :
    Tells c (c.attachChannel name waiters) := by
  have hch := channelOrNew_ensureChannel c name name
  refine attachChannel_cases (fun _ => ?done) (fun _ => ?joins) (fun _ _ => ?refused)
    fun _ _ _ => ?begins
  all_goals refine tells_ensure name ?_
  case done => exact tells_told (still_resolveEach _ id _)
  case joins => exact tells_change (channel?_ensureChannel c name) tells_pure rfl rfl
  case refused => exact tells_told (still_resolveEach _ id _)
  case begins => exact tells_beginAttach hch waiters

theorem tells_detachAtOnce (waiter : Responder) (reason : Option ErrorInfo) (e : ErrorInfo) :
    Tells c (c.onChannel name fun ch => (ch.awaitDetach waiter).enterDetached reason e) :=
  tells_onChannel fun ch => Channel.tells_from
    (Channel.tells_enterDetached (ch.awaitDetach waiter) reason e) rfl rfl

theorem tells_detachChannel (waiter : Responder) : Tells c (c.detachChannel name waiter) := by
  have hch := channelOrNew_ensureChannel c name name
  have htold : ∀ reply, Tells c
      (tell (waiter.resolve reply) >>= fun _ => pure (c.ensureChannel name)) := fun reply =>
    tells_ensure name (tells_told (still_resolve waiter reply))
  refine detachChannel_cases (fun _ => htold _) (fun _ => htold _) (fun _ => ?joins)
    (fun _ => ?atOnce) fun _ _ => ?asks
  all_goals refine tells_ensure name ?_
  case joins => exact tells_change (channel?_ensureChannel c name) tells_pure rfl rfl
  case atOnce => exact tells_detachAtOnce waiter none _
  case asks => exact tells_channel hch (Channel.tells_toDetaching _ waiter) tells_sendDetach

theorem still_failPendingOf (e : ErrorInfo) : Still (c.failPendingOf name e).log :=
  still_append (still_resolveEach _ _ _) still_nil

theorem tells_failPendingOf (e : ErrorInfo) : Tells c (c.failPendingOf name e) :=
  tells_same rfl rfl rfl (Nat.le_refl _) (still_failPendingOf e)

/-! ## Failing and suspending -/

theorem tells_failChannel (e : ErrorInfo) : Tells c (c.failChannel name e) :=
  failChannel_cases (fun _ => tells_pure) fun _ hch _ =>
    tells_channel (channelOrNew_of_some hch) (Channel.tells_toFailed _ e) (tells_failPendingOf e)

theorem tells_suspendChannel (e : ErrorInfo) (retry : Bool) :
    Tells c (c.suspendChannel name e retry) :=
  tells_onChannel fun ch => Channel.tells_suspendedChannel ch e (c.retryAlarm retry)

theorem tells_failQueue (name : String) (e : ErrorInfo) :
    Tells c (c.onChannel name fun ch => ch.failQueue e) :=
  tells_onChannel fun ch => Channel.tells_failQueue ch e

theorem tells_suspendUnder (e : ErrorInfo) : Tells c (suspendUnder e c name) :=
  suspendUnder_cases (fun _ => tells_pure) (fun _ _ _ => tells_suspendChannel e false)
    fun _ _ _ _ => tells_failQueue name e

theorem tells_failUnder (e : ErrorInfo) : Tells c (failUnder e c name) :=
  failUnder_cases (fun _ => tells_pure) (fun _ _ _ => tells_failChannel e)
    fun _ _ _ _ _ _ => tells_failQueue name e

/-! ## What the server says of a channel -/

theorem tells_reattach (hch : c.channelOrNew name = ch) (e : Option ErrorInfo) :
    Tells c (c.reattach name ch e) := by
  have hx := Channel.tells_toAttachingAgain ch c.clock e
  exact reattach_cases (tells_suspendChannel _ true)
    (fun _ => tells_channel hch hx tells_sendAttach) fun _ => tells_channel hch hx tells_pure

theorem tells_onDetached (m : Message) : Tells c (c.onDetached m) :=
  onDetached_cases (fun _ => tells_pure)
    (fun _ _ _ _ _ => tells_onChannel fun ch => Channel.tells_enterDetached ch _ _)
    (fun _ _ _ hch _ => tells_reattach (channelOrNew_of_some hch) _)
    fun _ _ _ _ _ _ _ _ => tells_failChannel _

theorem tells_onAttached (m : Message) : Tells c (c.onAttached m) := by
  have hx := fun ch => Channel.tells_attachedChannel ch m
  refine onAttached_cases (fun _ => tells_pure) (fun _ ch _ hch _ _ => ?live)
    fun _ ch _ hch _ _ => ?down
  all_goals refine tells_channel (channelOrNew_of_some hch) (hx ch) ?_
  case live => exact tells_bind (tells_foldlM (fun _ _ => tells_sendForAck _ _) _) tells_flushQueue
  case down => exact tells_pure

theorem tells_onSync (m : Message) : Tells c (c.onSync m) :=
  onSync_cases (fun _ => tells_pure) fun _ _ => tells_onChannel fun ch =>
    syncedChannel_cases (fun _ => Channel.tells_takePage ch m) fun _ => Channel.tells_pure

theorem tells_onPresence (m : Message) : Tells c (c.onPresence m) :=
  onPresence_cases (fun _ => tells_pure) fun _ _ => tells_onChannel fun _ =>
    Channel.tells_foldlM (fun ch p => Channel.tells_takeLive ch c p) _

theorem tells_onLinkUp (resumed : Bool) : Tells c (c.onLinkUp resumed name) := by
  refine onLinkUp_cases (fun _ => tells_pure) (fun _ _ _ => tells_sendAttach)
    (fun _ _ _ => tells_sendDetach) (fun ch asks _ _ _ hasks => ?goesOn) fun _ _ _ => ?anew
  case goesOn =>
    refine tells_quiet ?_ tells_flushQueue
    rcases hasks with ⟨rfl, -⟩ | ⟨_, _, _, rfl⟩
    · exact still_nil
    · exact still_singleton rfl
  case anew =>
    exact tells_bind (tells_onChannel fun ch => Channel.tells_become ch _ _ _) tells_sendAttach

theorem tells_onChannelTimer : Tells c (c.onChannelTimer name) := by
  have hset : ∀ {ch : Channel} {r : Logged Client}, c.channel? name = some ch →
      Tells (c.setChannel name { ch with timer := none }) r → Tells c r := fun hch h =>
    tells_change hch h rfl rfl
  exact onChannelTimer_cases (fun _ => tells_pure)
    (fun _ _ hch _ _ => hset hch (tells_suspendChannel _ true))
    (fun _ _ hch _ _ _ => hset hch (tells_onChannel Channel.tells_detachTimedOut))
    (fun _ _ hch _ _ _ _ => hset hch (tells_attachChannel []))
    fun _ _ hch _ _ => hset hch tells_pure

end Channels

/-! ## The connection and its channels -/

section Lifecycle

variable {c : Client}

theorem tells_dropLink : Tells c c.dropLink :=
  tells_same rfl rfl rfl (Nat.le_refl _) (still_append (still_singleton rfl) still_nil)

theorem tells_failPending (e : ErrorInfo) : Tells c (c.failPending e) :=
  tells_same rfl rfl rfl (Nat.le_refl _) (still_append (still_resolveEach _ _ _) still_nil)

/-- What awaits an acknowledgement fails when the connection has come to a state, and each of some
channels goes along. -/
theorem tells_goDown {d : Client} {e : ErrorInfo} {order : List String}
    {visit : Client → String → Logged Client} (hs : d.connection.state = c.connection.state)
    (hch : d.channels = c.channels) (hl : d.connectionListeners = c.connectionListeners)
    (hn : d.nextListener = c.nextListener) (hvisit : ∀ d name, Tells d (visit d name)) :
    Tells c (do
      let c ← d.failPending e
      c.forNames order visit) :=
  tells_bind (tells_from (tells_failPending e) hs hch hl hn) (tells_foldlM hvisit _)

theorem tells_enterSuspended : Tells c c.enterSuspended :=
  enterSuspended_cases
    (fun _ => tells_bind (tells_become _ _ _)
      (tells_goDown rfl rfl rfl rfl fun _ _ => tells_suspendUnder _))
    fun _ => tells_pure

theorem tells_failConnection (e : ErrorInfo) : Tells c (c.failConnection e) :=
  failConnection_cases
    (fun _ => tells_bind tells_dropLink (tells_bind (tells_become _ _ _)
      (tells_goDown rfl rfl rfl rfl fun _ _ => tells_failUnder _)))
    fun _ => tells_dropLink

theorem tells_finishClose : Tells c c.finishClose :=
  finishClose_cases
    (fun _ => tells_bind tells_dropLink (tells_bind (tells_become _ _ _)
      (tells_goDown rfl rfl rfl rfl fun _ _ =>
        tells_onChannel fun ch => Channel.tells_detachOnClose ch _)))
    fun _ => tells_dropLink

theorem tells_close : Tells c c.close := by
  refine close_cases (fun _ => tells_pure) (fun _ => ?asks) fun _ _ _ => tells_finishClose
  refine tells_bind (tells_become _ _ _) (tells_same rfl rfl rfl (Nat.le_refl _) ?_)
  exact still_append (still_singleton rfl) still_nil

theorem tells_enterDisconnected (e : ErrorInfo) : Tells c (c.enterDisconnected e) := by
  refine tells_from (d := c.takeWord.2) ?_ rfl rfl rfl rfl
  refine enterDisconnected_cases (fun _ _ => ?keeps) (fun _ _ => ?drops) fun _ => tells_pure
  all_goals refine tells_bind (tells_become _ _ _) ?_
  case keeps => exact tells_same rfl rfl rfl (Nat.le_refl _) still_nil
  case drops =>
    exact tells_from (tells_foldlM (fun _ name => tells_failQueue name e) _) rfl rfl rfl rfl

theorem tells_loseLink : Tells c c.loseLink :=
  tells_bind tells_dropLink (tells_same rfl rfl rfl (Nat.le_refl _) still_nil)

theorem tells_handleLoss (e : ErrorInfo) : Tells c (c.handleLoss e) :=
  handleLoss_cases (fun _ => tells_bind tells_loseLink tells_enterSuspended)
    fun _ => tells_bind tells_loseLink (tells_enterDisconnected e)

theorem tells_onDisconnected (e : Option ErrorInfo) : Tells c (c.onDisconnected e) :=
  onDisconnected_cases (fun _ _ => tells_handleLoss _) fun _ _ _ => tells_failConnection _

theorem tells_onLinkEnded (e : Option ErrorInfo) : Tells c (c.onLinkEnded e) :=
  onLinkEnded_cases (fun _ _ => tells_handleLoss _) (fun _ => tells_finishClose)
    fun _ _ _ => tells_pure

theorem tells_onConnectionTimer (kind : Connection.Timer) : Tells c (c.onConnectionTimer kind) :=
  tells_from (d := c.setTimer none)
    (onConnectionTimer_cases (fun _ _ => tells_handleLoss _) (fun _ => tells_startConnecting)
      fun _ => tells_finishClose) rfl rfl rfl rfl

theorem tells_fireTimers (now : Instant) : Tells c (c.fireTimers now) := by
  refine tells_bind ?_ (tells_foldlM (fun _ _ => tells_onChannelTimer) _)
  exact fireConnectionTimer_cases (fun _ _ _ => tells_onConnectionTimer _) fun _ => tells_pure

theorem tells_resend (resumed : Bool) (e : Unacked) : Tells c (resend resumed c e) := by
  unfold resend
  cases resumed
  all_goals
    exact tells_same rfl rfl rfl (Nat.le_refl _) (still_append (still_singleton rfl) still_nil)

theorem tells_linkUp (resumed : Bool) : Tells c (c.linkUp resumed) := by
  have hup : ∀ (b : Bool) (d : Client), Tells d (do
      let d ← d.resendPending b
      d.forNames d.channels.keys (onLinkUp b)) := fun b d =>
    tells_bind (tells_from (d := { d with pending := {} })
      (tells_foldlM (fun _ e => tells_resend b e) _) rfl rfl rfl rfl)
      (tells_foldlM (fun _ _ => tells_onLinkUp b) _)
  exact linkUp_cases (fun _ => hup true c) fun _ =>
    tells_from (hup false c.renumbered) rfl rfl rfl rfl

theorem tells_onConnected (m : Message) : Tells c (c.onConnected m) := by
  have hgreeted : Tells c ((c.greeted m).become .connected m.error none) :=
    tells_from (tells_become _ _ _) rfl rfl rfl rfl
  exact onConnected_cases (fun _ => tells_bind hgreeted (tells_resetIdleTimer tells_pure))
    (fun _ => tells_bind hgreeted (tells_resetIdleTimer (tells_linkUp _))) fun _ _ => tells_pure

theorem tells_onError (m : Message) : Tells c (c.onError m) :=
  onError_cases (fun _ _ => tells_failChannel _) fun _ => tells_failConnection _

theorem tells_onMessage (m : Message) : Tells c (c.onMessage m) := by
  have hsettled : ∀ (d : Client) test reply, Tells d (do
      let pending ← d.pending.settle test reply
      pure { d with pending := pending }) := fun _ _ _ =>
    tells_same rfl rfl rfl (Nat.le_refl _) (still_append (still_resolveEach _ _ _) still_nil)
  refine tells_resetIdleTimer ?_
  exact onMessage_cases (fun _ => tells_onConnected m) (fun _ => tells_onDisconnected m.error)
    (fun _ => tells_finishClose) (fun _ => tells_onError m) (fun _ => hsettled _ _ _)
    (fun _ => hsettled _ _ _) (fun _ => tells_onAttached m) (fun _ => tells_onDetached m)
    (fun _ => tells_onSync m) (fun _ => tells_onPresence m) fun _ => tells_pure

theorem tells_onLinkEvent (generation : Nat) (event : LinkEvent) :
    Tells c (c.onLinkEvent generation event) :=
  onLinkEvent_cases (fun m _ _ => tells_onMessage m) (fun e _ _ => tells_onLinkEnded e)
    fun _ => tells_pure

theorem tells_shutdown : Tells c c.shutdown := by
  refine shutdown_cases fun farewell hsaid => ?_
  refine tells_quiet ?_ (tells_quiet (still_singleton rfl) ?_)
  · rcases hsaid with rfl | ⟨rfl, -⟩
    · exact still_nil
    · exact still_singleton rfl
  · exact tells_goDown rfl rfl rfl rfl fun _ _ =>
      tells_onChannel fun ch => Channel.tells_failWaiters ch _

end Lifecycle

/-! ## Commands -/

section Commands

variable {c : Client} {name : String}

theorem tells_answered (ticket : Ticket) (reply : Reply) : Tells c (do
    answer ticket reply
    pure c) := tells_told (still_singleton rfl)

theorem tells_refused (ticket : Ticket) (cause : Cause) : Tells c (do
    refuse ticket cause
    pure c) := tells_answered ticket _

theorem tells_queueMessage (m : Message) (ticket : Ticket) :
    Tells c (c.queueMessage name m ticket) := by
  refine queueMessage_cases (fun _ => tells_set ?_ ?_ (tells_attachChannel []))
    fun _ _ _ => tells_set ?_ ?_ tells_pure
  all_goals rfl

theorem tells_publish (action : Presence.Action) (clientId : Option String) (data : Payload)
    (ticket : Ticket) : Tells c (c.publish name action clientId data ticket) :=
  publish_cases (fun _ => tells_refused _ _) (fun _ _ => tells_ensure name (tells_answered _ _))
    (fun _ _ _ _ _ => tells_ensure name (tells_sendForAck _ _))
    fun _ _ _ _ _ _ => tells_ensure name (tells_queueMessage _ ticket)

theorem tells_getMembers (query : MemberQuery) (ticket : Ticket) :
    Tells c (c.getMembers name query ticket) := by
  have hpark : ∀ {r : Logged Client},
      Tells ((c.ensureChannel name).parkGet name query ticket) r → Tells c r := fun h => by
    refine tells_ensure name (tells_set ?_ ?_ h)
    all_goals rfl
  exact getMembers_cases (fun _ _ => tells_ensure name (tells_answered _ _))
    (fun _ => tells_ensure name (tells_answered _ _)) (fun _ => hpark tells_pure)
    (fun _ _ _ => hpark (tells_onChannel fun ch => Channel.tells_failGets ch _))
    fun _ _ => hpark (tells_attachChannel [])

theorem tells_addPresenceListener (filter : Option Presence.Action) (ticket : Ticket) :
    Tells c (c.addPresenceListener name filter ticket) := by
  refine tells_quiet (still_singleton rfl) (tells_set ?_ ?_
    (tells_same rfl rfl rfl (Nat.le_succ _) still_nil))
  all_goals rfl

theorem tells_subscribe (filter : Option Presence.Action) (ticket : Ticket) :
    Tells c (c.subscribe name filter ticket) :=
  subscribe_cases (fun _ _ => tells_ensure name (tells_answered _ _))
    (fun _ _ => tells_ensure name
      (tells_bind (tells_attachChannel []) (tells_addPresenceListener filter ticket)))
    fun _ _ _ => tells_ensure name (tells_addPresenceListener filter ticket)

/-- Listeners for presence are removed. -/
theorem tells_setListeners {f : Channel → Channel} (hs : ∀ ch, (f ch).state = ch.state)
    (hl : ∀ ch, (f ch).stateListeners = ch.stateListeners) :
    Tells c (pure (c.setListeners name f)) := tells_set (hs _) (hl _) tells_pure

end Commands

/-! ## Steps -/

/-- Does an input change who listens to states, or is a channel released? -/
def rearranges : Input → Bool
  | .command _ (.onConnection _) | .command _ (.offConnection _) => true
  | .command _ (.channel _ (.onState _)) | .command _ (.channel _ (.offState _)) => true
  | .command _ (.channel _ .release) | .dropListener _ => true
  | _ => false

section Steps

variable {c : Client} {name : String}

theorem tells_channelCommand {ticket : Ticket} {command : ChannelCommand}
    (h : rearranges (.command ticket (.channel name command)) = false) :
    Tells c (c.channelCommand name ticket command) := by
  have hask : ∀ reply, Tells c (answer ticket reply >>= fun _ => pure (c.ensureChannel name)) :=
    fun _ => tells_quiet (still_singleton rfl) (tells_ensure name tells_pure)
  cases command with
  | attach => exact tells_attachChannel _
  | detach => exact tells_detachChannel _
  | publish action clientId data => exact tells_publish action clientId data ticket
  | get query => exact tells_getMembers query ticket
  | subscribe filter => exact tells_subscribe filter ticket
  | unsubscribe id => exact tells_setListeners (fun _ => rfl) fun _ => rfl
  | unsubscribeAction action id => exact tells_setListeners (fun _ => rfl) fun _ => rfl
  | unsubscribeAll => exact tells_setListeners (fun _ => rfl) fun _ => rfl
  | onState filter => cases h
  | offState id => cases h
  | release => cases h
  | _ => exact hask _

/-- A step changes no state but by steps that may be taken, one by one, and the listeners are told
of all of them. -/
theorem tells_step {i : Input} (h : rearranges i = false) : Tells c (c.step i) := by
  cases i with
  | command ticket asked =>
    cases asked with
    | connect => exact tells_connect
    | close => exact tells_close
    | queryConnection => exact tells_answered _ _
    | onConnection filter => cases h
    | offConnection id => cases h
    | channel name command => exact tells_channelCommand h
  | link generation event => exact tells_onLinkEvent generation event
  | clock now => exact tells_same rfl rfl rfl (Nat.le_refl _) still_nil
  | timers => exact tells_fireTimers c.clock
  | dropListener id => cases h
  | shutdown => exact tells_shutdown

end Steps

end PresenceClient.Client
