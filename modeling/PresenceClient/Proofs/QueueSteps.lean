-- What a step does to the queue of a channel. A command puts more behind what is queued, unless
-- it gives the channel up; a loss that leaves the connection away for a short time touches no
-- channel; and of the timers of the channels only that of an attach fails what is queued.
import PresenceClient.Proofs.StepOutcomes
import PresenceClient.Proofs.WaitingLaws

namespace PresenceClient

/-! ## What a queue is to outlast -/

/-- Is the connection away for a short time, or on its way back? -/
def Connection.State.isAway : Connection.State → Bool
  | .disconnected | .connecting => true
  | _ => false

/-- All commands of a channel but those that give it up. -/
def ChannelCommand.spares : ChannelCommand → Bool
  | .detach | .release => false
  | _ => true

/-- All commands but the close and those that give up the channel. -/
def Command.spares (name : String) : Command → Bool
  | .close => false
  | .channel other command => decide (other ≠ name) || command.spares
  | _ => true

/-- The inputs that a queue of the channel is to outlast. Of what a link may report, that is only
that it is lost. -/
def Input.spares (name : String) : Input → Bool
  | .command _ asked => asked.spares name
  | .link _ (.message m) => decide (Message.Action.ofCode? m.action = some .disconnected)
  | .shutdown => false
  | _ => true

namespace Client

open Channel (Core)

/-- What is queued on the channel is queued there afterwards, in the same order, before all that
comes later. -/
def Holds (name : String) (c : Client) (r : Logged Client) : Prop :=
  (c.channelOrNew name).queue.entries <+: (r.value.channelOrNew name).queue.entries

/-- An attach of the channel was asked for, and its time has come. -/
def attachOverdue (c : Client) (name : String) : Bool :=
  (c.channel? name).any fun ch => ch.timer.any fun alarm =>
    alarm.kind == .attachTimeout && alarm.isDue c.clock

variable {name other : String} {c : Client} {r : Logged Client} {i : Input}

section Rules

variable {s : List Ticket} {k : Core}

theorem holds_of_queue (h : (r.value.core name).queue = (c.core name).queue) : Holds name c r := by
  have hsame : (c.core name).queue <+: (r.value.core name).queue := h ▸ List.prefix_rfl
  exact hsame

theorem holds_pure : Holds name c (pure c) := holds_of_queue rfl

theorem holds_bind {x : Logged Client} {f : Client → Logged Client} (h1 : Holds name c x)
    (h2 : Holds name x.value (f x.value)) : Holds name c (x >>= f) := List.IsPrefix.trans h1 h2

theorem holds_of_channels (h : r.value.channels = c.channels) : Holds name c r :=
  holds_of_queue (congrArg Core.queue (core_of_channels h name))

/-- What happens on one channel leaves the queues of all others. -/
theorem Alone.holds (h : Alone other c r) (hne : name ≠ other) : Holds name c r :=
  holds_of_queue (congrArg Core.queue (core_congr (h.others name hne)))

theorem Yields.holds (h : Yields name c r s k) (hk : k.queue = (c.core name).queue) :
    Holds name c r := holds_of_queue ((congrArg Core.queue h.core).trans hk)

/-- More may be put behind what is queued. -/
theorem holds_set (ch : Channel) (hq : (c.channelOrNew name).queue.entries <+: ch.queue.entries)
    (h : Holds name (c.setChannel name ch) r) : Holds name c r := by
  unfold Holds at h
  rw [channelOrNew_setChannel_self] at h
  exact hq.trans h

theorem holds_put {ch : Channel} (hq : ch.queue = (c.channelOrNew name).queue) :
    Holds name c (pure (c.setChannel name ch)) :=
  holds_set ch (hq ▸ List.prefix_rfl) holds_pure

theorem holds_ensure (h : Holds name (c.ensureChannel name) r) : Holds name c r :=
  holds_set _ List.prefix_rfl h

end Rules

/-! ## Commands -/

theorem holds_attachChannel (waiters : List Responder) :
    Holds name c (c.attachChannel name waiters) := by
  by_cases hs : c.attachRefusal = none ∧
      (c.core name).state ≠ .attaching ∧ (c.core name).state ≠ .attached
  · exact (yields_attachChannel hs.1 hs.2 waiters).holds rfl
  · exact attachChannel_cases (fun _ => holds_ensure holds_pure)
      (fun _ => holds_ensure (holds_put (by rw [channelOrNew_ensureChannel]; rfl)))
      (fun _ _ => holds_ensure holds_pure) fun h1 h2 hr => absurd ⟨hr, h2, h1⟩ hs

/-- What is queued now comes last. -/
theorem holds_queueMessage (m : Message) (ticket : Ticket) :
    Holds name c (c.queueMessage name m ticket) := by
  have hqueued : ∀ {r : Logged Client}, Holds name (c.setChannel name { c.channelOrNew name with
      queue := (c.channelOrNew name).queue.enqueue m (.caller ticket) }) r → Holds name c r :=
    holds_set _ (List.prefix_append _ _)
  exact queueMessage_cases (fun _ => hqueued (holds_attachChannel [])) fun _ _ _ =>
    hqueued holds_pure

theorem holds_publish (action : Presence.Action) (clientId : Option String) (data : Payload)
    (ticket : Ticket) : Holds name c (c.publish name action clientId data ticket) :=
  publish_cases (fun _ => holds_pure) (fun _ _ => holds_ensure holds_pure)
    (fun _ _ _ _ _ => holds_ensure ((yields_sendForAck rfl (.caller ticket)).holds rfl))
    fun _ _ _ _ _ _ => holds_ensure (holds_queueMessage _ ticket)

theorem holds_parkGet (query : MemberQuery) (ticket : Ticket)
    (h : Holds name (c.parkGet name query ticket) r) : Holds name c r :=
  holds_set { c.channelOrNew name with
    pendingGets := (c.channelOrNew name).pendingGets ++ [⟨query, ticket⟩] } List.prefix_rfl h

theorem holds_getMembers (query : MemberQuery) (ticket : Ticket) :
    Holds name c (c.getMembers name query ticket) := by
  have hparked : ∀ {r : Logged Client},
      Holds name ((c.ensureChannel name).parkGet name query ticket) r → Holds name c r := fun h =>
    holds_ensure (holds_parkGet query ticket h)
  refine getMembers_cases (fun _ _ => holds_ensure holds_pure) (fun _ => holds_ensure holds_pure)
    (fun _ => hparked holds_pure) (fun e _ _ => hparked ?declined)
    fun _ _ => hparked (holds_attachChannel [])
  case declined =>
    have hfound := @channel?_parkGet name c query ticket
    have h := yields_onChannel (f := fun ch => ch.failGets e) hfound (Channel.failGets_spec _ e).2.2
    refine h.holds ?_
    rw [(Channel.failGets_spec _ e).1, core_of_some hfound]

theorem holds_subscribe (filter : Option Presence.Action) (ticket : Ticket) :
    Holds name c (c.subscribe name filter ticket) := by
  have hadd : ∀ {d : Client}, Holds name d (d.addPresenceListener name filter ticket) :=
    (yields_addPresenceListener filter ticket).holds rfl
  exact subscribe_cases (fun _ _ => holds_ensure holds_pure)
    (fun _ _ => holds_ensure (holds_bind (holds_attachChannel []) hadd))
    fun _ _ _ => holds_ensure hadd

theorem holds_setListeners {f : Channel → Channel} (hf : ∀ ch, (f ch).queue = ch.queue) :
    Holds name c (pure (c.setListeners name f)) := holds_put (hf _)

theorem holds_channelCommand {command : ChannelCommand} (h : command.spares = true)
    (ticket : Ticket) : Holds name c (c.channelCommand name ticket command) := by
  cases command with
  | detach => cases h
  | release => cases h
  | attach => exact holds_attachChannel _
  | publish action clientId data => exact holds_publish action clientId data ticket
  | get query => exact holds_getMembers query ticket
  | subscribe action => exact holds_subscribe action ticket
  | unsubscribe id => exact holds_setListeners fun _ => rfl
  | unsubscribeAction action id => exact holds_setListeners fun _ => rfl
  | unsubscribeAll => exact holds_setListeners fun _ => rfl
  | offState id => exact holds_setListeners fun _ => rfl
  | onState filter => exact holds_setListeners (f := fun ch =>
      { ch with stateListeners := ch.stateListeners.on c.nextListener filter }) fun _ => rfl
  | _ => exact holds_ensure holds_pure

theorem alone_channelCommand (ticket : Ticket) (command : ChannelCommand) :
    Alone name c (c.channelCommand name ticket command) := by
  have hset : ∀ f : Channel → Channel, (∀ ch, (f ch).core = ch.core) →
      Alone name c (pure (c.setListeners name f)) := fun f hf => (turnOn_setListeners hf).toAlone
  cases command with
  | publish action clientId data => exact (turnOn_publish action clientId data ticket).toAlone
  | attach => exact (turnOn_attachChannel _).toAlone
  | detach => exact (turnOn_detachChannel _).toAlone
  | get query => exact (turnOn_getMembers query ticket).toAlone
  | subscribe action => exact (turnOn_subscribe action ticket).toAlone
  | release => exact turnOn_releaseChannel.toAlone
  | unsubscribe id => exact hset _ fun _ => rfl
  | unsubscribeAction action id => exact hset _ fun _ => rfl
  | unsubscribeAll => exact hset _ fun _ => rfl
  | offState id => exact hset _ fun _ => rfl
  | onState filter => exact (turnOn_onChannelState filter ticket).toAlone
  | _ => exact (yields_told fun _ => rfl).toAlone

theorem holds_command {command : Command} (h : command.spares name = true) (ticket : Ticket) :
    Holds name c (c.command ticket command) := by
  cases command with
  | close => cases h
  | connect => exact holds_of_channels apart_connect.channels
  | queryConnection => exact holds_pure
  | onConnection filter => exact holds_of_channels rfl
  | offConnection id => exact holds_of_channels rfl
  | channel other command =>
    by_cases hne : name = other
    · subst hne
      exact holds_channelCommand (by simpa [Command.spares] using h) ticket
    · exact (alone_channelCommand ticket command).holds hne

/-! ## Losing the link -/

theorem isConnected_of_isAway (haway : c.connection.state.isAway = true) :
    c.isConnected = false := by
  unfold isConnected Connection.isConnected
  cases hs : c.connection.state with
  | connected => rw [hs] at haway; cases haway
  | _ => rfl

theorem Leads.isAway {links : List Nat} {k : Connection} (h : Leads c r links k)
    (haway : r.value.connection.state.isAway = true) : k.state.isAway = true := by
  rw [← state_of_session h.session]
  exact haway

/-- A connection that is suspended is not away for a short time. -/
theorem channels_enterSuspended
    (haway : c.enterSuspended.value.connection.state.isAway = true) :
    c.enterSuspended.value.channels = c.channels := by
  cases hcan : c.connection.state.canBecome .suspended with
  | true => exact nomatch (leads_enterSuspended hcan).isAway haway
  | false =>
    exact enterSuspended_cases (fun hs => absurd (hcan.symm.trans hs) nofun) fun _ => rfl

theorem channels_failConnection {e : ErrorInfo}
    (haway : (c.failConnection e).value.connection.state.isAway = true) :
    (c.failConnection e).value.channels = c.channels := by
  cases hcan : c.connection.state.canBecome .failed with
  | true => exact nomatch (leads_failConnection hcan e).isAway haway
  | false =>
    exact failConnection_cases (fun hs => absurd (hcan.symm.trans hs) nofun) fun _ => rfl

theorem channels_finishClose (haway : c.finishClose.value.connection.state.isAway = true) :
    c.finishClose.value.channels = c.channels := by
  cases hcan : c.connection.state.canBecome .closed with
  | true => exact nomatch (leads_finishClose hcan).isAway haway
  | false =>
    exact finishClose_cases (fun hs => absurd (hcan.symm.trans hs) nofun) fun _ => rfl

section Loss

variable (hkeep : c.options.queueMessages = true)

include hkeep

/-- Where queues are to be kept, waiting for the next attempt leaves the channels alone. -/
theorem channels_enterDisconnected (reason : ErrorInfo) :
    (c.enterDisconnected reason).value.channels = c.channels :=
  enterDisconnected_cases (fun _ _ => (apart_become (c := c.takeWord.2) _ _ _).channels)
    (fun _ hdrop => absurd (hkeep.symm.trans hdrop) nofun) fun _ => rfl

theorem channels_handleLoss {reason : ErrorInfo}
    (haway : (c.handleLoss reason).value.connection.state.isAway = true) :
    (c.handleLoss reason).value.channels = c.channels := by
  revert haway
  exact handleLoss_cases (fun _ haway => channels_enterSuspended (c := c.loseLink.value) haway)
    fun _ _ => channels_enterDisconnected (c := c.loseLink.value) hkeep reason

theorem channels_onDisconnected {e : Option ErrorInfo}
    (haway : (c.onDisconnected e).value.connection.state.isAway = true) :
    (c.onDisconnected e).value.channels = c.channels := by
  revert haway
  exact onDisconnected_cases (fun _ _ haway => channels_handleLoss hkeep haway)
    fun _ _ _ haway => channels_failConnection haway

theorem channels_onLinkEnded {e : Option ErrorInfo}
    (haway : (c.onLinkEnded e).value.connection.state.isAway = true) :
    (c.onLinkEnded e).value.channels = c.channels := by
  revert haway
  exact onLinkEnded_cases (fun _ _ haway => channels_handleLoss hkeep haway)
    (fun _ haway => channels_finishClose haway) fun _ _ _ _ => rfl

theorem channels_onConnectionTimer {kind : Connection.Timer}
    (haway : (c.onConnectionTimer kind).value.connection.state.isAway = true) :
    (c.onConnectionTimer kind).value.channels = c.channels := by
  revert haway
  exact onConnectionTimer_cases
    (fun _ _ haway => channels_handleLoss (c := c.setTimer none) hkeep haway)
    (fun _ _ => (apart_startConnecting (c := c.setTimer none)).channels)
    fun _ haway => channels_finishClose (c := c.setTimer none) haway

/-- A loss that the timer of the connection brings leaves the channels alone. -/
theorem channels_fireConnectionTimer {now : Instant}
    (haway : (c.fireConnectionTimer now).value.connection.state.isAway = true) :
    (c.fireConnectionTimer now).value.channels = c.channels := by
  revert haway
  exact fireConnectionTimer_cases (fun _ _ _ haway => channels_onConnectionTimer hkeep haway)
    fun _ _ => rfl

/-- So does a loss that the link reports. -/
theorem channels_onLinkEvent {generation : Nat} {event : LinkEvent}
    (hi : (Input.link generation event).spares name = true)
    (haway : (c.onLinkEvent generation event).value.connection.state.isAway = true) :
    (c.onLinkEvent generation event).value.channels = c.channels := by
  revert haway
  refine onLinkEvent_cases (fun m _ he haway => ?message)
    (fun _ _ _ haway => channels_onLinkEnded hkeep haway) fun _ _ => rfl
  case message =>
    subst he
    have ha : Message.Action.ofCode? m.action = some .disconnected := of_decide_eq_true hi
    have hkeep' : c.resetIdleTimer.options.queueMessages = true := by
      rw [resetIdleTimer_rest.1]
      exact hkeep
    rw [onMessage_of_disconnected ha] at haway ⊢
    exact (channels_onDisconnected hkeep' haway).trans resetIdleTimer_rest.2.2

/-- What an input does before the timers of the channels fire leaves the queue. -/
theorem holds_early (hi : i.spares name = true)
    (haway : (c.early i).value.connection.state.isAway = true) : Holds name c (c.early i) := by
  cases i with
  | command ticket command => exact holds_command hi ticket
  | link generation event => exact holds_of_channels (channels_onLinkEvent hkeep hi haway)
  | clock now => exact holds_of_channels rfl
  | timers => exact holds_of_channels (channels_fireConnectionTimer hkeep haway)
  | dropListener id =>
    exact holds_of_queue (congrArg Core.queue (core_dropListener c id name))
  | shutdown => cases hi

end Loss

/-! ## The timers of the channels -/

/-- Without a link, a timer that is due leaves the queue, unless it is that of an attach. -/
theorem holds_onChannelTimer (hdown : c.isConnected = false)
    (hno : ∀ ch alarm, c.channel? name = some ch → ch.timer = some alarm →
      alarm.kind ≠ .attachTimeout) : Holds name c (c.onChannelTimer name) := by
  have hup : c.isConnected ≠ true := Bool.eq_false_iff.mp hdown
  exact onChannelTimer_cases (fun _ => holds_pure)
    (fun ch alarm hch ht hk => absurd hk (hno ch alarm hch ht))
    (fun _ _ _ _ _ hlive => absurd hlive hup) (fun _ _ _ _ _ _ hlive => absurd hlive hup)
    fun _ _ hch _ _ => holds_put (by rw [channelOrNew_of_some hch])

/-- An attach that has come to its time fails all that is queued, link or no link. -/
theorem fails_onChannelTimer {ch : Channel} {alarm : Alarm Channel.Timer}
    (hch : c.channel? name = some ch) (ht : ch.timer = some alarm)
    (hk : alarm.kind = .attachTimeout) (hs : ch.state = .attaching) :
    ((c.onChannelTimer name).value.channelOrNew name).queue.entries = [] ∧
      ∀ e ∈ ch.queue.failures Cause.attachTimedOut.info, e ∈ (c.onChannelTimer name).log := by
  have hcan : ch.state.canBecome .suspended = true := by rw [hs]; rfl
  rw [onChannelTimer_of_attach hch ht hk]
  refine ⟨congrArg Core.queue (yields_attachTimedOut (c := c) hs _).core, fun e he => ?_⟩
  rw [suspendChannel_eq, onChannel_of_some (channel?_setChannel_self c name _)]
  refine suspendedChannel_cases (fun _ => ?_) fun hno => absurd (hcan.symm.trans hno) nofun
  unfold toSuspended Channel.become Channel.failWaiters
  simp [he, hcan]

/-- A client that goes through some channels does to each what it does to that one, and says so. -/
theorem forNames_visit {f : Client → String → Logged Client} {names : List String}
    (hnodup : names.Nodup) (c : Client)
    (hf : ∀ d name, name ∈ names → d.channel? name = c.channel? name →
      d.isConnected = c.isConnected → Alone name d (f d name)) (hn : name ∈ names) :
    ∃ d, d.channel? name = c.channel? name ∧ d.isConnected = c.isConnected ∧
      (c.forNames names f).value.channel? name = (f d name).value.channel? name ∧
      ∀ e ∈ (f d name).log, e ∈ (c.forNames names f).log := by
  induction names generalizing c with
  | nil => exact absurd hn List.not_mem_nil
  | cons first rest ih =>
    obtain ⟨hfirst, hrest⟩ := List.nodup_cons.mp hnodup
    have h1 := hf c first List.mem_cons_self rfl rfl
    have hf' : ∀ d name, name ∈ rest → d.channel? name = (f c first).value.channel? name →
        d.isConnected = (f c first).value.isConnected → Alone name d (f d name) :=
      fun d name hn hd hu => hf d name (List.mem_cons_of_mem _ hn)
        (hd.trans (h1.others name fun he => hfirst (he ▸ hn))) (hu.trans h1.steady)
    have hcons : c.forNames (first :: rest) f =
        f c first >>= fun d => d.forNames rest f := List.foldlM_cons
    rw [hcons, Logged.value_bind, Logged.log_bind]
    by_cases he : name = first
    · subst he
      obtain ⟨-, hall⟩ := forNames_visits hrest (f c name).value hf'
      have hlast := (hall name).resolve_right fun h => hfirst h.1
      exact ⟨c, rfl, rfl, hlast.2.1, fun e hmem => List.mem_append_left _ hmem⟩
    · obtain ⟨d, hd, hu, hch, hlog⟩ := ih hrest (f c first).value hf'
        ((List.mem_cons.mp hn).resolve_left he)
      exact ⟨d, hd.trans (h1.others name he), hu.trans h1.steady, hch,
        fun e hmem => List.mem_append_right _ (hlog e hmem)⟩

/-- The timers of the channels leave the queue, if no attach of the channel is overdue. -/
theorem holds_fireChannels (hs : Sound c) (hdown : c.isConnected = false)
    (hno : c.attachOverdue name = false) :
    Holds name c (c.forNames (c.dueChannels c.clock) onChannelTimer) := by
  by_cases hn : name ∈ c.dueChannels c.clock
  · obtain ⟨d, hd, hu, hch, -⟩ :=
      forNames_visit (nodup_dueChannels hs.ordered c.clock) c hs.alone_onChannelTimer hn
    obtain ⟨ch, alarm, hfound, ht, hdue⟩ := (mem_dueChannels hs.ordered).mp hn
    have hone : Holds name d (d.onChannelTimer name) := by
      refine holds_onChannelTimer (hu.trans hdown) fun ch' alarm' hch' ht' hk => ?_
      cases hch'.symm.trans (hd.trans hfound)
      cases ht'.symm.trans ht
      simp [attachOverdue, hfound, ht, hk, hdue] at hno
    unfold Holds at hone ⊢
    rwa [channelOrNew_congr hd, ← channelOrNew_congr hch] at hone
  · obtain ⟨-, hall⟩ :=
      forNames_visits (nodup_dueChannels hs.ordered c.clock) c hs.alone_onChannelTimer
    have hlast := (hall name).resolve_right fun h => hn h.1
    exact holds_of_queue (congrArg Core.queue (core_congr hlast.2.1))

/-- An overdue attach fails all that is queued. -/
theorem fails_fireChannels (hs : Sound c) (hover : c.attachOverdue name = true) :
    let r := c.forNames (c.dueChannels c.clock) onChannelTimer
    (r.value.channelOrNew name).queue.entries = [] ∧
      ∀ e ∈ (c.channelOrNew name).queue.failures Cause.attachTimedOut.info, e ∈ r.log := by
  intro r
  obtain ⟨ch, hfound, alarm, ht, hk, hdue⟩ : ∃ ch, c.channel? name = some ch ∧ ∃ alarm,
      ch.timer = some alarm ∧ alarm.kind = .attachTimeout ∧ alarm.isDue c.clock = true := by
    simpa [attachOverdue, Option.any_eq_true] using hover
  have hn : name ∈ c.dueChannels c.clock :=
    (mem_dueChannels hs.ordered).mpr ⟨ch, alarm, hfound, ht, hdue⟩
  obtain ⟨d, hd, hu, hch, hlog⟩ :=
    forNames_visit (nodup_dueChannels hs.ordered c.clock) c hs.alone_onChannelTimer hn
  have hfits := hs.fits name
  rw [core_of_some hfound] at hfits
  have htimer : ch.core.timer = some .attachTimeout := by simp [Channel.core, ht, hk]
  have hattaching : ch.state = .attaching := (hfits.of_timer htimer).1 rfl
  obtain ⟨hempty, htold⟩ := fails_onChannelTimer (hd.trans hfound) ht hk hattaching
  refine ⟨?_, fun e he => hlog e (htold e ?_)⟩
  · rw [channelOrNew_congr hch]
    exact hempty
  · rwa [channelOrNew_of_some hfound] at he

end Client

end PresenceClient
