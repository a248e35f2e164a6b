-- What a client keeps for later is no more than the state of its connection has use for: what
-- awaits an acknowledgement, what is queued, and the channels in use. Each function of the
-- client leaves it so, whatever it is asked in whichever state.
import PresenceClient.Proofs.MemberTurns
import PresenceClient.Proofs.StepOutcomes
import PresenceClient.Proofs.Teardown

namespace PresenceClient

open Logged (tell)

/-! ## What a connection has use for -/

namespace Connection.State

/-- In this state nothing is sent, and nothing comes that was asked for before. -/
def isIdle : State → Bool
  | .initialized | .suspended | .closed | .failed => true
  | _ => false

/-- May operations be in a queue in this state? While the connection is away for a short time,
that is as the options say. -/
def queues (keep : Bool) : State → Bool
  | .connected | .closing => true
  | .connecting | .disconnected => keep
  | .initialized | .suspended | .closed | .failed => false

/-- May a channel be in the second state when the connection is in the first? -/
def admits : State → Channel.State → Bool
  | .closed, s | .failed, s => s.isResting
  | .suspended, s => decide (s ≠ .attached ∧ s ≠ .attaching)
  | _, _ => true

variable {s : State} {keep : Bool} {t : Channel.State}

/-- A channel that is out of use is never in the way. -/
theorem admits_of_isResting (h : t.isResting = true) : s.admits t = true := by
  cases s <;> cases t <;> first | rfl | cases h

theorem admits_of_isLive (h : s.isLive = true) (t : Channel.State) : s.admits t = true := by
  cases s <;> first | rfl | cases h

/-- Nothing is queued where the connection starts from, if nothing may be queued on the way. -/
theorem queues_of_canBecome (h : s.canBecome .connecting = true)
    (hq : State.connecting.queues keep = false) : s.queues keep = false := by
  cases s <;> first | rfl | exact hq | cases h

/-- Only a channel in use is suspended, and a connection that admits it admits it suspended. -/
theorem admits_suspended (h : s.admits t = true) (hcan : t.canBecome .suspended = true) :
    s.admits .suspended = true := by
  revert h hcan
  cases s <;> cases t <;> decide

end Connection.State

/-! ## One channel -/

namespace Channel

/-- A channel holds no more than a connection in the state has use for. -/
structure Suits (s : Connection.State) (keep : Bool) (ch : Channel) : Prop where
  queue : s.queues keep = false → ch.queue.entries = []
  state : s.admits ch.state = true

variable {s : Connection.State} {keep : Bool} {ch ch' : Channel}

theorem suits_fresh : Suits s keep {} :=
  ⟨fun _ => rfl, Connection.State.admits_of_isResting rfl⟩

/-- Nothing is queued anew, and the state stays or the channel goes out of use. -/
theorem Suits.left (h : ch.Suits s keep) (hq : ch.core.queue = [] → ch'.core.queue = [])
    (hs : ch'.core.state = ch.core.state ∨ ch'.core.state.isResting = true) :
    ch'.Suits s keep := by
  refine ⟨fun hkeep => hq (h.queue hkeep), ?_⟩
  rcases hs with hs | hs
  · exact (congrArg s.admits hs).trans h.state
  · exact Connection.State.admits_of_isResting hs

/-- All that is suited is the core. -/
theorem Suits.same (h : ch.Suits s keep) (hcore : ch'.core = ch.core) : ch'.Suits s keep :=
  h.left (fun hq => hcore ▸ hq) (.inl (congrArg Core.state hcore))

theorem suits_of_isLive (hlive : s.isLive = true)
    (hq : s.queues keep = false → ch.core.queue = []) : ch.Suits s keep :=
  ⟨hq, Connection.State.admits_of_isLive hlive _⟩

theorem state_become (k : Core) (next : State) :
    (k.become next).state = k.state ∨ (k.become next).state = next := by
  unfold Core.become
  split
  · exact .inr rfl
  · exact .inl rfl

theorem suits_enterDetached (h : ch.Suits s keep) (reason : Option ErrorInfo) (e : ErrorInfo) :
    (ch.enterDetached reason e).value.Suits s keep := by
  have hcore := (ch.enterDetached_spec reason e).1
  refine h.left (fun _ => hcore ▸ rfl) ?_
  rw [hcore]
  refine (state_become { ch.core with timer := none } .detached).imp id fun hs => ?_
  exact (congrArg State.isResting hs).trans rfl

theorem suits_failWaiters (h : ch.Suits s keep) (e : ErrorInfo) :
    (ch.failWaiters e).value.Suits s keep := h.left (fun _ => rfl) (.inl rfl)

end Channel

/-! ## All of them -/

namespace Client

/-- The client holds no more than its connection has use for. -/
structure Tidy (c : Client) : Prop where
  pending : c.connection.state.isIdle = true → c.pending.entries = []
  channel : ∀ name, (c.channelOrNew name).Suits c.connection.state c.options.queueMessages

section Rules

variable {c d : Client} {r : Logged Client} {name : String} {ch : Channel}

theorem tidy_fresh (options : Options) (words : List UInt64) : Tidy (fresh options words) :=
  ⟨fun _ => rfl, fun _ => Channel.suits_fresh⟩

/-- While the server may be heard, there is use for everything but what is queued. -/
theorem tidy_of_isLive (hlive : c.connection.state.isLive = true)
    (hq : ∀ name, c.connection.state.queues c.options.queueMessages = false →
      (c.core name).queue = []) : Tidy c := by
  refine ⟨fun hidle => ?_, fun name => Channel.suits_of_isLive hlive (hq name)⟩
  cases hs : c.connection.state <;> simp_all [Connection.State.isLive, Connection.State.isIdle]

theorem tidy_of_connected (h : c.isConnected = true) : Tidy c := by
  have hs := isConnected_iff.mp h
  exact tidy_of_isLive (hs ▸ rfl) fun name hq => (nomatch hs ▸ hq)

/-- The state, the options and the channels are as they were, and nothing is sent. -/
theorem Tidy.of_same (h : Tidy c) (hs : d.connection.state = c.connection.state)
    (ho : d.options = c.options) (hch : d.channels = c.channels)
    (hp : c.pending.entries = [] → d.pending.entries = []) : Tidy d := by
  refine ⟨fun hidle => hp (h.pending (hs ▸ hidle)), fun name => ?_⟩
  rw [hs, ho, channelOrNew_congr (channel?_of_channels hch name)]
  exact h.channel name

theorem Tidy.of_some (h : Tidy c) (hch : c.channel? name = some ch) :
    ch.Suits c.connection.state c.options.queueMessages := channelOrNew_of_some hch ▸ h.channel name

theorem tidy_set (h : Tidy c) (hch : ch.Suits c.connection.state c.options.queueMessages) :
    Tidy (c.setChannel name ch) := by
  refine ⟨h.pending, fun other => ?_⟩
  by_cases hne : other = name
  · rw [hne, channelOrNew_setChannel_self]
    exact hch
  · rw [channelOrNew_setChannel_ne c name ch hne]
    exact h.channel other

theorem tidy_ensure (h : Tidy c) : Tidy (c.ensureChannel name) := tidy_set h (h.channel name)

theorem tidy_erase (h : Tidy c) : Tidy { c with channels := c.channels.erase name } := by
  refine ⟨h.pending, fun other => ?_⟩
  by_cases hne : other = name
  · rw [hne, channelOrNew_erase_self]
    exact Channel.suits_fresh
  · rw [channelOrNew_erase_ne c name hne]
    exact h.channel other

theorem tidy_onChannel {f : Channel → Logged Channel} (h : Tidy c)
    (hf : ∀ ch : Channel, ch.Suits c.connection.state c.options.queueMessages →
      (f ch).value.Suits c.connection.state c.options.queueMessages) :
    Tidy (c.onChannel name f).value :=
  onChannel_cases (fun _ => h) fun ch hch => tidy_set h (hf ch (h.of_some hch))

/-- A turn of a channel on a live link. -/
theorem TurnOn.tidy {up : Bool} {cue : Channel.Cue} (h : TurnOn name up cue c r)
    (hup : c.isConnected = true) : Tidy r.value := tidy_of_connected (h.steady.trans hup)

theorem tidy_settle (h : Tidy c) (test : Unacked → Bool) (reply : Reply) :
    Tidy { c with pending := (c.pending.settle test reply).value } :=
  h.of_same rfl rfl rfl fun hp => settle_nil hp test reply

end Rules

/-! ## Attaching and detaching -/

section Channels

variable {c : Client} {name : String} {ch : Channel}

theorem tidy_sendAttach (h : Tidy c) : Tidy (c.sendAttach name).value :=
  sendAttach_cases (fun _ => h) fun _ hch => tidy_set h ((h.of_some hch).left id (.inl rfl))

/-- What was not queued before is not queued while connecting. -/
theorem tidy_startConnecting (h : Tidy c) : Tidy c.startConnecting.value := by
  refine startConnecting_cases (fun hs => ?opens) fun _ => h
  case opens =>
    have hstate : (c.become .connecting none none).value.connection.state = .connecting :=
      (state_become .connecting none none).trans (if_pos hs)
    have hoptions := options_become c .connecting none none
    have hchannels := (apart_become (c := c) .connecting none none).channels
    rw [Logged.value_bind]
    generalize (c.become .connecting none none).value = d at hstate hoptions hchannels
    have hd : Tidy d := by
      refine tidy_of_isLive (hstate ▸ rfl) fun name hq => ?_
      rw [hstate, hoptions] at hq
      rw [core_of_channels hchannels]
      exact (h.channel name).queue (Connection.State.queues_of_canBecome hs hq)
    exact hd.of_same rfl rfl rfl id

theorem tidy_connect (h : Tidy c) : Tidy c.connect.value :=
  connect_cases (fun _ => h) fun _ _ _ => tidy_startConnecting h

/-- Where an attach may begin, a channel may be in any state. -/
theorem admits_of_attachRefusal (h : c.attachRefusal = none) (t : Channel.State) :
    c.connection.state.admits t = true := by
  unfold attachRefusal at h
  cases hs : c.connection.state <;> simp_all [Connection.State.admits]

theorem tidy_beginAttach (h : Tidy c) (hr : c.attachRefusal = none)
    (hch : ch.Suits c.connection.state c.options.queueMessages) (waiters : List Responder) :
    Tidy (c.beginAttach name ch waiters).value := by
  have hqueue : (toAttaching waiters ch).value.core.queue = ch.core.queue := by
    rw [(ch.toAttaching_spec waiters).1]
  have hset : Tidy (c.setChannel name (toAttaching waiters ch).value) :=
    tidy_set h ⟨fun hq => hqueue.trans (hch.queue hq), admits_of_attachRefusal hr _⟩
  exact beginAttach_cases (fun _ => tidy_sendAttach hset) (fun _ => tidy_connect hset)
    fun _ _ => hset

theorem tidy_attachChannel (h : Tidy c) (waiters : List Responder) :
    Tidy (c.attachChannel name waiters).value := by
  have hensure : Tidy (c.ensureChannel name) := tidy_ensure h
  exact attachChannel_cases (fun _ => hensure)
    (fun _ => tidy_set hensure ((h.channel name).left id (.inl rfl))) (fun _ _ => hensure)
    fun _ _ hr => tidy_beginAttach hensure hr (h.channel name) waiters

theorem tidy_detachAtOnce (h : Tidy c) (waiter : Responder) (reason : Option ErrorInfo)
    (e : ErrorInfo) : Tidy ((c.ensureChannel name).onChannel name fun ch =>
      (ch.awaitDetach waiter).enterDetached reason e).value := by
  refine tidy_onChannel (tidy_ensure h) fun ch hch => ?_
  have hwaits : (ch.awaitDetach waiter).Suits _ _ := hch.left id (.inl rfl)
  exact Channel.suits_enterDetached hwaits reason e

theorem tidy_detachChannel (h : Tidy c) (waiter : Responder) :
    Tidy (c.detachChannel name waiter).value := by
  by_cases hup : c.isConnected = true
  · exact (turnOn_detachChannel waiter).tidy hup
  · have hensure : Tidy (c.ensureChannel name) := tidy_ensure h
    exact detachChannel_cases (fun _ => hensure) (fun _ => hensure)
      (fun _ => tidy_set hensure ((h.channel name).left id (.inl rfl)))
      (fun _ => tidy_detachAtOnce h waiter _ _) fun hlive _ => absurd hlive hup

theorem tidy_releaseChannel (h : Tidy c) : Tidy (c.releaseChannel name).value := by
  refine releaseChannel_cases (fun _ => h) fun ch farewell _ _ => ?_
  have hgone : Tidy { c with channels := c.channels.erase name } := tidy_erase h
  exact tidy_settle hgone (Pending.onChannel name) (.failed (.service Cause.channelReleased.info))

/-! ## Failing and suspending -/

theorem tidy_failChannel (h : Tidy c) (e : ErrorInfo) : Tidy (c.failChannel name e).value := by
  refine failChannel_cases (fun _ => h) fun ch hch _ => ?_
  have hcore := (ch.toFailed_spec e).1
  have hsuits : (toFailed e ch).value.Suits c.connection.state c.options.queueMessages :=
    (h.of_some hch).left (fun _ => congrArg Channel.Core.queue hcore)
      (.inr (congrArg (Channel.State.isResting ·.state) hcore))
  exact tidy_settle (tidy_set h hsuits) (Pending.onChannel name) (.failed (.service e))

theorem tidy_suspendChannel (h : Tidy c) (e : ErrorInfo) (retry : Bool) :
    Tidy (c.suspendChannel name e retry).value := by
  rw [suspendChannel_eq]
  refine tidy_onChannel h fun ch hch => suspendedChannel_cases (fun hcan => ?_) fun _ => hch
  have hcore := core_toSuspended hcan e (c.retryAlarm retry)
  refine ⟨fun _ => congrArg Channel.Core.queue hcore, ?_⟩
  exact (congrArg (Connection.State.admits _ ·.state) hcore).trans
    (Connection.State.admits_suspended hch.state hcan)

/-- What a channel waited for has come to its time. -/
theorem tidy_onChannelTimer (h : Tidy c) : Tidy (c.onChannelTimer name).value := by
  have hunset : ∀ ch, c.channel? name = some ch →
      Tidy (c.setChannel name { ch with timer := none }) := fun ch hch =>
    tidy_set h ((h.of_some hch).left id (.inl rfl))
  refine onChannelTimer_cases (fun _ => h)
    (fun ch _ hch _ _ => tidy_suspendChannel (hunset ch hch) _ true)
    (fun ch _ hch _ _ hup => ?detach)
    (fun ch _ hch _ _ _ _ => tidy_attachChannel (hunset ch hch) [])
    fun ch _ hch _ _ => hunset ch hch
  case detach =>
    have hs : c.connection.state = .connected := isConnected_iff.mp hup
    refine tidy_onChannel (hunset ch hch) fun ch' _ => ?_
    exact Channel.suits_of_isLive (hs ▸ rfl) fun hq => (nomatch hs ▸ hq)

end Channels

/-! ## Commands of a channel -/

section Commands

variable {c : Client} {name : String}

/-- Where operations are taken, they may be queued. -/
theorem queues_of_takesOperations (h : c.takesOperations = true) :
    c.connection.state.queues c.options.queueMessages = true := by
  unfold takesOperations at h
  cases hs : c.connection.state <;> simp_all [Connection.State.queues]

theorem tidy_queueMessage (h : Tidy c) (htakes : c.takesOperations = true) (m : Message)
    (ticket : Ticket) : Tidy (c.queueMessage name m ticket).value := by
  have hset : Tidy (c.setChannel name { c.channelOrNew name with
      queue := (c.channelOrNew name).queue.enqueue m (.caller ticket) }) :=
    tidy_set h ⟨fun hq => (nomatch hq.symm.trans (queues_of_takesOperations htakes)),
      (h.channel name).state⟩
  exact queueMessage_cases (fun _ => tidy_attachChannel hset []) fun _ _ _ => hset

theorem tidy_publish (h : Tidy c) (action : Presence.Action) (clientId : Option String)
    (data : Payload) (ticket : Ticket) :
    Tidy (c.publish name action clientId data ticket).value := by
  by_cases hup : c.isConnected = true
  · exact (turnOn_publish action clientId data ticket).tidy hup
  · have hensure : Tidy (c.ensureChannel name) := tidy_ensure h
    exact publish_cases (fun _ => h) (fun _ _ => hensure) (fun _ _ _ _ hlive => absurd hlive hup)
      fun _ _ htakes _ _ _ => tidy_queueMessage hensure htakes _ ticket

theorem tidy_getMembers (h : Tidy c) (query : MemberQuery) (ticket : Ticket) :
    Tidy (c.getMembers name query ticket).value := by
  have hensure : Tidy (c.ensureChannel name) := tidy_ensure h
  have hpark : Tidy ((c.ensureChannel name).parkGet name query ticket) :=
    tidy_set hensure ((hensure.channel name).left id (.inl rfl))
  exact getMembers_cases (fun _ _ => hensure) (fun _ => hensure) (fun _ => hpark)
    (fun _ _ _ => tidy_onChannel hpark fun ch hch => hch.left id (.inl rfl))
    fun _ _ => tidy_attachChannel hpark []

theorem tidy_addPresenceListener (h : Tidy c) (filter : Option Presence.Action) (ticket : Ticket) :
    Tidy (c.addPresenceListener name filter ticket).value := by
  have hset : Tidy (c.setChannel name { c.channelOrNew name with
      presenceListeners := (c.channelOrNew name).presenceListeners.on c.nextListener filter }) :=
    tidy_set h ((h.channel name).same rfl)
  exact hset.of_same rfl rfl rfl id

theorem tidy_subscribe (h : Tidy c) (filter : Option Presence.Action) (ticket : Ticket) :
    Tidy (c.subscribe name filter ticket).value := by
  have hensure : Tidy (c.ensureChannel name) := tidy_ensure h
  exact subscribe_cases (fun _ _ => hensure)
    (fun _ _ => tidy_addPresenceListener (tidy_attachChannel hensure []) filter ticket)
    fun _ _ _ => tidy_addPresenceListener hensure filter ticket

theorem tidy_setListeners (h : Tidy c) {f : Channel → Channel} (hf : ∀ ch, (f ch).core = ch.core) :
    Tidy (pure (c.setListeners name f) : Logged Client).value :=
  tidy_set h ((h.channel name).same (hf _))

/-- Whatever is asked of a channel. -/
theorem tidy_channelCommand (h : Tidy c) (ticket : Ticket) (command : ChannelCommand) :
    Tidy (c.channelCommand name ticket command).value := by
  cases command with
  | attach => exact tidy_attachChannel h _
  | detach => exact tidy_detachChannel h _
  | publish action clientId data => exact tidy_publish h action clientId data ticket
  | get query => exact tidy_getMembers h query ticket
  | subscribe action => exact tidy_subscribe h action ticket
  | release => exact tidy_releaseChannel h
  | unsubscribe id => exact tidy_setListeners h fun _ => rfl
  | unsubscribeAction action id => exact tidy_setListeners h fun _ => rfl
  | unsubscribeAll => exact tidy_setListeners h fun _ => rfl
  | offState id => exact tidy_setListeners h fun _ => rfl
  | onState filter =>
    have hset : Tidy (pure (c.setListeners name fun ch => { ch with
        stateListeners := ch.stateListeners.on c.nextListener filter }) : Logged Client).value :=
      tidy_setListeners h fun _ => rfl
    exact hset.of_same rfl rfl rfl id
  | _ => exact tidy_ensure h

end Commands

/-! ## Down the connection -/

section Down

variable {c : Client}

/-- Nothing is left of a connection that is out of use. -/
theorem tidy_down {d : Client} (hp : d.pending.entries = [])
    (hch : ∀ name, (d.channelOrNew name).queue.entries = [] ∧
      d.connection.state.admits (d.channelOrNew name).state = true) : Tidy d :=
  ⟨fun _ => hp, fun name => ⟨fun _ => (hch name).1, (hch name).2⟩⟩

theorem tidy_dropLink (h : Tidy c) : Tidy c.dropLink.value := h.of_same rfl rfl rfl id

theorem tidy_enterSuspended (h : Tidy c) (ho : c.channels.Ordered) :
    Tidy c.enterSuspended.value := by
  cases hs : c.connection.state.canBecome .suspended with
  | true =>
    obtain ⟨hpending, hchannels⟩ := enterSuspended_down ho hs
    have hstate : c.enterSuspended.value.connection.state = .suspended :=
      state_of_session (leads_enterSuspended hs).session
    refine tidy_down hpending fun name => ?_
    obtain ⟨hq, hattached, hattaching⟩ := hchannels name
    rw [hstate]
    exact ⟨hq, decide_eq_true ⟨hattached, hattaching⟩⟩
  | false => exact enterSuspended_cases (fun hcan => absurd (hs.symm.trans hcan) nofun) fun _ => h

theorem tidy_failConnection (h : Tidy c) (ho : c.channels.Ordered) (e : ErrorInfo) :
    Tidy (c.failConnection e).value := by
  cases hs : c.connection.state.canBecome .failed with
  | true =>
    obtain ⟨hpending, hchannels⟩ := failConnection_down (e := e) ho hs
    have hstate : (c.failConnection e).value.connection.state = .failed :=
      state_of_session (leads_failConnection hs e).session
    refine tidy_down hpending fun name => ?_
    rw [hstate]
    cases hrest : (c.channelOrNew name).state.isResting with
    | false =>
      obtain ⟨hfailed, -, -, -, hidle⟩ := (hchannels name).inUse hrest
      exact ⟨hidle.1, congrArg Channel.State.isResting hfailed⟩
    | true =>
      rw [(hchannels name).resting hrest]
      exact ⟨rfl, hrest⟩
  | false =>
    exact failConnection_cases (fun hcan => absurd (hs.symm.trans hcan) nofun) fun _ =>
      tidy_dropLink h

theorem tidy_finishClose (h : Tidy c) (ho : c.channels.Ordered) : Tidy c.finishClose.value := by
  cases hs : c.connection.state.canBecome .closed with
  | true =>
    obtain ⟨hpending, hchannels⟩ := finishClose_down ho hs
    have hstate : c.finishClose.value.connection.state = .closed :=
      state_of_session (leads_finishClose hs).session
    refine tidy_down hpending fun name => ?_
    obtain ⟨hidle, hrest⟩ := hchannels name
    rw [hstate]
    exact ⟨hidle.1, hrest⟩
  | false =>
    exact finishClose_cases (fun hcan => absurd (hs.symm.trans hcan) nofun) fun _ =>
      tidy_dropLink h

theorem tidy_enterDisconnected (h : Tidy c) (ho : c.channels.Ordered) (e : ErrorInfo) :
    Tidy (c.enterDisconnected e).value := by
  cases hs : c.connection.state.canBecome .disconnected with
  | true =>
    have hleads := leads_enterDisconnected e hs
    have hstate : (c.enterDisconnected e).value.connection.state = .disconnected :=
      state_of_session hleads.session
    refine ⟨fun hidle => ?_, fun name => ⟨fun hq => ?_, ?_⟩⟩
    · rw [hstate] at hidle
      cases hidle
    · rw [hstate, hleads.options] at hq
      exact enterDisconnected_down ho hs hq name
    · rw [hstate]
      rfl
  | false =>
    have hdrawn : Tidy c.takeWord.2 := h.of_same rfl rfl rfl id
    exact enterDisconnected_cases (fun hcan _ => absurd (hs.symm.trans hcan) nofun)
      (fun hcan _ => absurd (hs.symm.trans hcan) nofun) fun _ => hdrawn

theorem tidy_handleLoss (h : Tidy c) (ho : c.channels.Ordered) (e : ErrorInfo) :
    Tidy (c.handleLoss e).value := by
  have hlost : Tidy c.loseLink.value := h.of_same rfl rfl rfl id
  exact handleLoss_cases (fun _ => tidy_enterSuspended hlost ho) fun _ =>
    tidy_enterDisconnected hlost ho e

theorem tidy_onDisconnected (h : Tidy c) (ho : c.channels.Ordered) (e : Option ErrorInfo) :
    Tidy (c.onDisconnected e).value :=
  onDisconnected_cases (fun _ _ => tidy_handleLoss h ho _) fun _ _ _ => tidy_failConnection h ho _

theorem tidy_onLinkEnded (h : Tidy c) (ho : c.channels.Ordered) (e : Option ErrorInfo) :
    Tidy (c.onLinkEnded e).value :=
  onLinkEnded_cases (fun _ _ => tidy_handleLoss h ho _) (fun _ => tidy_finishClose h ho)
    fun _ _ _ => h

/-- Until the server has answered a close, there is use for everything. -/
theorem tidy_close (h : Tidy c) (ho : c.channels.Ordered) : Tidy c.close.value := by
  refine close_cases (fun _ => h) (fun hs => ?asks) fun _ _ _ => tidy_finishClose h ho
  case asks =>
    have hcan : c.connection.state.canBecome .closing = true := by rw [hs]; rfl
    have hstate : (c.become .closing none none).value.connection.state = .closing :=
      (state_become .closing none none).trans (if_pos hcan)
    rw [Logged.value_bind]
    generalize (c.become .closing none none).value = d at hstate
    have hd : Tidy d := tidy_of_isLive (hstate ▸ rfl) fun name hq => (nomatch hstate ▸ hq)
    exact hd.of_same rfl rfl rfl id

theorem tidy_fireConnectionTimer (h : Tidy c) (ho : c.channels.Ordered) (now : Instant) :
    Tidy (c.fireConnectionTimer now).value := by
  have hunset : Tidy (c.setTimer none) := h.of_same rfl rfl rfl id
  have ho' : (c.setTimer none).channels.Ordered := ho
  exact fireConnectionTimer_cases (fun _ _ _ => onConnectionTimer_cases
    (fun _ _ => tidy_handleLoss hunset ho' _) (fun _ => tidy_startConnecting hunset)
    fun _ => tidy_finishClose hunset ho') fun _ => h

end Down

end Client

end PresenceClient
