-- Which steps fail a channel: only those in which the server reports an error that is fatal, to
-- the channel or to the connection. In all others a channel that has failed then had failed
-- before.
import PresenceClient.Proofs.FailureLaws

namespace PresenceClient

/-! ## One channel -/

namespace Channel

/-- The error by which a message fails a channel that it names: one that the server reports of
it, or one with which it detaches a channel in use and that is not worth another attempt. -/
def fatalError (ch : Channel) (m : Message) : Option ErrorInfo :=
  match Message.Action.ofCode? m.action, ch.state with
  | some .error, .failed => none
  | some .error, _ => some (m.error.getD Cause.noDetails.info)
  | some .detached, .attached | some .detached, .attaching =>
    m.error.filter fun error => !error.isRetriable
  | _, _ => none

/-- The channel does not fail. -/
def Survives (ch : Channel) (x : Logged Channel) : Prop :=
  x.value.state = .failed → ch.state = .failed

variable {ch : Channel}

theorem survives_same {x : Logged Channel} (h : x.value.state = ch.state) : Survives ch x :=
  fun hs => h.symm.trans hs

theorem survives_become (ch : Channel) {next : State} (hnext : next ≠ .failed)
    (reason : Option ErrorInfo) (resumed : Bool) :
    Survives ch (ch.become next reason resumed) :=
  become_cases (fun _ hs => absurd hs hnext) fun _ => id

theorem survives_enterDetached (ch : Channel) (reason : Option ErrorInfo) (e : ErrorInfo) :
    Survives ch (ch.enterDetached reason e) :=
  survives_become { ch with timer := none } (by simp) reason false

theorem survives_detachOnClose (ch : Channel) (e : ErrorInfo) :
    Survives ch (Client.detachOnClose e ch) :=
  Client.detachOnClose_cases (fun _ => survives_enterDetached ch none e)
    fun _ => survives_same rfl

theorem survives_suspendedChannel (ch : Channel) (e : ErrorInfo) (alarm : Option (Alarm Timer)) :
    Survives ch (Client.suspendedChannel e alarm ch) :=
  Client.suspendedChannel_cases (fun _ => survives_become ch (by simp) (some e) false)
    fun _ => survives_same rfl

theorem survives_syncedChannel (ch : Channel) (m : Message) :
    Survives ch (Client.syncedChannel m ch) := by
  refine Client.syncedChannel_cases (fun _ => ?taken) fun _ => survives_same rfl
  refine survives_same ((congrArg Core.state (takePage_spec ch m).1).trans ?_)
  unfold Core.paged
  split <;> rfl

/-- The channel fails in no turn that is given by a caller who publishes, by the server that
attaches it or by its timer, and in none in which a link comes up. -/
theorem survives_turn {name : String} {up up' : Bool} {cue : Cue} {k k' : Core}
    {sent : List Ticket} (h : Turn name up cue k sent k' up')
    (hcue : cue ≠ .other ∨ up = false ∧ up' = true) (hs : k'.state = .failed) :
    k.state = .failed := by
  cases h with
  | ended hstate hup =>
    rcases hcue with hcue | ⟨hdown, hlive⟩
    · exact absurd rfl hcue
    · exact nomatch hdown.symm.trans (hup hlive)
  | paged last hattached =>
    unfold Core.paged at hs
    split at hs <;> exact hs
  | released | suspended | begun | reattached | detachBegun => cases hs
  | served | attachTimedOut | reattachDue | giveUp | publishFirst => cases hs
  | _ => exact hs

end Channel

namespace Client

open Channel (Core Cue Survives Turn)

/-! ## All channels -/

/-- No channel fails. -/
def FailsNone (c : Client) (r : Logged Client) : Prop :=
  ∀ name, (r.value.core name).state = .failed → (c.core name).state = .failed

section Rules

variable {c d : Client} {r : Logged Client} {name : String} {ch : Channel}

theorem failsNone_same (h : r.value.channels = c.channels) : FailsNone c r := fun name hs => by
  rwa [core_of_channels h] at hs

theorem failsNone_pure : FailsNone c (pure c) := failsNone_same rfl

theorem failsNone_from (hd : d.channels = c.channels) (h : FailsNone d r) : FailsNone c r :=
  fun name hs => by
    rw [← core_of_channels hd]
    exact h name hs

theorem failsNone_bind {x : Logged Client} {f : Client → Logged Client} (h1 : FailsNone c x)
    (h2 : FailsNone x.value (f x.value)) : FailsNone c (x >>= f) :=
  fun name hs => h1 name (h2 name hs)

theorem failsNone_put (h : ch.state = .failed → (c.core name).state = .failed) :
    FailsNone c (pure (c.setChannel name ch)) := by
  intro other hs
  rw [Logged.value_pure] at hs
  by_cases hne : other = name
  · rw [hne, core_setChannel_self] at hs
    rw [hne]
    exact h hs
  · rwa [core_congr (channel?_setChannel_ne c name ch hne)] at hs

theorem failsNone_set (h : ch.state = .failed → (c.core name).state = .failed)
    (hr : FailsNone (c.setChannel name ch) r) : FailsNone c r :=
  fun other hs => failsNone_put h other (hr other hs)

theorem failsNone_ensure (h : FailsNone (c.ensureChannel name) r) : FailsNone c r :=
  failsNone_set id h

/-- What the channel does by itself comes first. -/
theorem failsNone_channel {x : Logged Channel} {f : Channel → Logged Client}
    (hch : c.channel? name = some ch) (hx : Survives ch x)
    (h : FailsNone (c.setChannel name x.value) (f x.value)) : FailsNone c (x >>= f) := by
  have hset : FailsNone c (f x.value) := failsNone_set (fun hs => by
    rw [core_of_some hch]
    exact hx hs) h
  exact hset

/-- A channel that is gone has not failed. -/
theorem failsNone_erase (name : String) (hr : r.value.channels = c.channels.erase name) :
    FailsNone c r := by
  intro other hs
  by_cases hne : other = name
  · have hgone : r.value.channel? name = none := by
      rw [channel?, hr]
      exact Table.get?_erase_self c.channels name
    rw [hne, core_of_none hgone] at hs
    cases hs
  · have hkept : r.value.channel? other = c.channel? other := by
      rw [channel?, hr]
      exact Table.get?_erase_ne c.channels hne
    rwa [core_congr hkept] at hs

theorem failsNone_onChannel {f : Channel → Logged Channel} (hf : ∀ ch, Survives ch (f ch)) :
    FailsNone c (c.onChannel name f) :=
  onChannel_cases (fun _ => failsNone_pure) fun ch hch =>
    failsNone_channel hch (hf ch) failsNone_pure

theorem failsNone_forNames {f : Client → String → Logged Client}
    (hf : ∀ d name, FailsNone d (f d name)) (names : List String) :
    FailsNone c (c.forNames names f) := by
  unfold forNames
  induction names generalizing c with
  | nil => exact failsNone_pure
  | cons name rest ih => exact failsNone_bind (hf c name) ih

/-- What happens on one channel alone fails none, if it does not fail that one. -/
theorem Alone.failsNone (h : Alone name c r)
    (hs : (r.value.core name).state = .failed → (c.core name).state = .failed) :
    FailsNone c r := by
  intro other hother
  by_cases hne : other = name
  · rw [hne] at hother ⊢
    exact hs hother
  · rwa [core_congr (h.others other hne)] at hother

theorem Yields.failsNone {s : List Ticket} {k : Core} (h : Yields name c r s k)
    (hk : k.state = .failed → (c.core name).state = .failed) : FailsNone c r :=
  h.toAlone.failsNone fun hs => hk (h.core ▸ hs)

theorem TurnOn.failsNone {up : Bool} {cue : Cue} (h : TurnOn name up cue c r)
    (hcue : cue ≠ .other) : FailsNone c r :=
  h.toAlone.failsNone (Channel.survives_turn h.turn (.inl hcue))

theorem Apart.failsNone (h : Apart c r) : FailsNone c r := failsNone_same h.channels

end Rules

variable {c : Client} {name : String}

/-! ## Commands -/

section Commands

theorem failsNone_attachChannel (waiters : List Responder) :
    FailsNone c (c.attachChannel name waiters) := by
  refine attachChannel_cases (fun _ => failsNone_ensure failsNone_pure) (fun _ => ?joins)
    (fun _ _ => failsNone_ensure failsNone_pure) fun _ _ _ => ?begins
  case joins => exact failsNone_ensure (failsNone_put (by rw [core_ensureChannel]; exact id))
  case begins => exact (yields_set (yields_beginAttach _ waiters)).failsNone nofun

theorem failsNone_detachAtOnce (waiter : Responder) : FailsNone c (c.onChannel name fun ch =>
    (ch.awaitDetach waiter).enterDetached none Cause.channelDetached.info) :=
  failsNone_onChannel fun ch => Channel.survives_enterDetached (ch.awaitDetach waiter) none _

theorem failsNone_detachChannel (waiter : Responder) :
    FailsNone c (c.detachChannel name waiter) := by
  refine detachChannel_cases (fun _ => failsNone_ensure failsNone_pure)
    (fun _ => failsNone_ensure failsNone_pure) (fun _ => ?joins)
    (fun _ => failsNone_ensure (failsNone_detachAtOnce waiter)) fun _ hs => ?asks
  case joins => exact failsNone_ensure (failsNone_put (by rw [core_ensureChannel]; exact id))
  case asks =>
    exact (yields_set (yields_beginDetach waiter (canBecome_of_live hs).1)).failsNone nofun

theorem failsNone_releaseChannel : FailsNone c (c.releaseChannel name) :=
  releaseChannel_cases (fun _ => failsNone_pure) fun _ _ _ _ => failsNone_erase name rfl

theorem failsNone_getMembers (query : MemberQuery) (ticket : Ticket) :
    FailsNone c (c.getMembers name query ticket) := by
  have hpark : ∀ {r : Logged Client},
      FailsNone ((c.ensureChannel name).parkGet name query ticket) r → FailsNone c r := by
    intro r h
    refine failsNone_ensure (failsNone_set ?_ h)
    exact id
  exact getMembers_cases (fun _ _ => failsNone_ensure failsNone_pure)
    (fun _ => failsNone_ensure failsNone_pure) (fun _ => hpark failsNone_pure)
    (fun _ _ _ => hpark (failsNone_onChannel fun ch => Channel.survives_same rfl))
    fun _ _ => hpark (failsNone_attachChannel [])

theorem failsNone_subscribe (filter : Option Presence.Action) (ticket : Ticket) :
    FailsNone c (c.subscribe name filter ticket) := by
  have hadd : ∀ {d : Client}, FailsNone d (d.addPresenceListener name filter ticket) :=
    (yields_addPresenceListener filter ticket).failsNone id
  exact subscribe_cases (fun _ _ => failsNone_ensure failsNone_pure)
    (fun _ _ => failsNone_ensure (failsNone_bind (failsNone_attachChannel []) hadd))
    fun _ _ _ => failsNone_ensure hadd

theorem failsNone_channelCommand (ticket : Ticket) (command : ChannelCommand) :
    FailsNone c (c.channelCommand name ticket command) := by
  have hlisten : ∀ f : Channel → Channel, (∀ ch, (f ch).state = ch.state) →
      FailsNone c (pure (c.setListeners name f)) := fun f hf =>
    failsNone_put fun hs => (hf _).symm.trans hs
  cases command with
  | attach => exact failsNone_attachChannel _
  | detach => exact failsNone_detachChannel _
  | publish action clientId data =>
    exact (turnOn_publish action clientId data ticket).failsNone (by simp)
  | get query => exact failsNone_getMembers query ticket
  | subscribe filter => exact failsNone_subscribe filter ticket
  | release => exact failsNone_releaseChannel
  | unsubscribe id => exact hlisten _ fun _ => rfl
  | unsubscribeAction action id => exact hlisten _ fun _ => rfl
  | unsubscribeAll => exact hlisten _ fun _ => rfl
  | offState id => exact hlisten _ fun _ => rfl
  | onState filter => exact hlisten (fun ch =>
      { ch with stateListeners := ch.stateListeners.on c.nextListener filter }) fun _ => rfl
  | _ => exact failsNone_ensure failsNone_pure

end Commands

/-! ## The connection goes down -/

section Down

theorem failsNone_suspendChannel (reason : ErrorInfo) (retry : Bool) :
    FailsNone c (c.suspendChannel name reason retry) :=
  failsNone_onChannel fun ch => Channel.survives_suspendedChannel ch reason (c.retryAlarm retry)

theorem failsNone_failQueue (e : ErrorInfo) :
    FailsNone c (c.onChannel name fun ch => ch.failQueue e) :=
  failsNone_onChannel fun _ => Channel.survives_same rfl

theorem failsNone_suspendUnder (e : ErrorInfo) : FailsNone c (suspendUnder e c name) :=
  suspendUnder_cases (fun _ => failsNone_pure) (fun _ _ _ => failsNone_suspendChannel e false)
    fun _ _ _ _ => failsNone_failQueue e

/-- The connection goes down, and the channels follow. -/
theorem failsNone_goDown {f : Client → String → Logged Client} (next : Connection.State)
    (reason : Option ErrorInfo) (retryIn : Option Duration) (g : Client → Connection)
    (e : ErrorInfo) (names : List String) (hf : ∀ d name, FailsNone d (f d name)) :
    FailsNone c (do
      let c ← c.become next reason retryIn
      let c ← { c with connection := g c }.failPending e
      c.forNames names f) := by
  refine failsNone_bind (apart_become _ _ _).failsNone ?_
  generalize (c.become next reason retryIn).value = d
  refine failsNone_from (d := { d with connection := g d }) rfl ?_
  exact failsNone_bind (apart_settle _ _).failsNone (failsNone_forNames hf names)

theorem failsNone_enterSuspended : FailsNone c c.enterSuspended :=
  enterSuspended_cases
    (fun _ => failsNone_goDown _ _ _ (fun d => (d.setTimer (some (Alarm.after d.clock
      c.options.timing.suspendedRetry .retry))).connection) _ _ fun _ _ => failsNone_suspendUnder _)
    fun _ => failsNone_pure

theorem failsNone_finishClose : FailsNone c c.finishClose :=
  finishClose_cases
    (fun _ => failsNone_bind apart_dropLink.failsNone (failsNone_goDown _ _ _
      (fun d => { d.connection.endSession with retryAttempts := 0 }) _ _
      fun _ _ => failsNone_onChannel fun ch => Channel.survives_detachOnClose ch _))
    fun _ => apart_dropLink.failsNone

theorem failsNone_close : FailsNone c c.close :=
  close_cases (fun _ => failsNone_pure)
    (fun _ => failsNone_bind (apart_become _ _ _).failsNone (failsNone_same rfl))
    fun _ _ _ => failsNone_finishClose

theorem failsNone_enterDisconnected (e : ErrorInfo) : FailsNone c (c.enterDisconnected e) := by
  refine failsNone_from (d := c.takeWord.2) rfl ?_
  refine enterDisconnected_cases (fun _ _ => ?keeps) (fun _ _ => ?drops) fun _ => failsNone_pure
  all_goals refine failsNone_bind (apart_become _ _ _).failsNone ?_
  case keeps => exact failsNone_same rfl
  case drops =>
    exact failsNone_from (d := Client.setTimer _ _) rfl
      (failsNone_forNames (fun _ _ => failsNone_failQueue e) _)

theorem failsNone_loseLink : FailsNone c c.loseLink :=
  failsNone_bind apart_dropLink.failsNone (failsNone_same rfl)

theorem failsNone_handleLoss (e : ErrorInfo) : FailsNone c (c.handleLoss e) :=
  handleLoss_cases (fun _ => failsNone_bind failsNone_loseLink failsNone_enterSuspended)
    fun _ => failsNone_bind failsNone_loseLink (failsNone_enterDisconnected e)

theorem failsNone_onLinkEnded (e : Option ErrorInfo) : FailsNone c (c.onLinkEnded e) :=
  onLinkEnded_cases (fun _ _ => failsNone_handleLoss _) (fun _ => failsNone_finishClose)
    fun _ _ _ => failsNone_pure

theorem failsNone_onConnectionTimer (kind : Connection.Timer) :
    FailsNone c (c.onConnectionTimer kind) :=
  failsNone_from (d := c.setTimer none) rfl
    (onConnectionTimer_cases (fun _ _ => failsNone_handleLoss _)
      (fun _ => apart_startConnecting.failsNone) fun _ => failsNone_finishClose)

theorem failsNone_fireConnectionTimer (now : Instant) :
    FailsNone c (c.fireConnectionTimer now) :=
  fireConnectionTimer_cases (fun _ _ _ => failsNone_onConnectionTimer _) fun _ => failsNone_pure

theorem failsNone_shutdown : FailsNone c c.shutdown := by
  have hend : FailsNone c (do
      let c ← c.failPending Cause.clientDropped.info
      c.forNames c.channels.keys fun c name => c.onChannel name fun ch =>
        ch.failWaiters Cause.clientDropped.info) :=
    failsNone_bind (apart_settle _ _).failsNone
      (failsNone_forNames (fun _ _ => failsNone_onChannel fun _ => Channel.survives_same rfl) _)
  exact shutdown_cases fun _ _ => hend

end Down

/-! ## What the server says -/

section Server

/-- A channel that is attached again, or suspended if that was tried a short time ago. -/
theorem failsNone_reattach {ch : Channel} (hch : c.channel? name = some ch)
    (e : Option ErrorInfo) : FailsNone c (c.reattach name ch e) := by
  have hx : Survives ch (toAttachingAgain c.clock e ch) :=
    Channel.survives_become { ch with reattachedAt := some c.clock } (by simp) e false
  refine reattach_cases (failsNone_suspendChannel _ true) (fun _ => ?live) fun _ => ?down
  all_goals refine failsNone_channel hch hx ?_
  case live =>
    exact (yields_sendAttach (channel?_setChannel_self c name _)).failsNone fun hs => by
      rw [core_setChannel_self]
      exact hs
  case down => exact failsNone_pure

theorem failsNone_onAttached (hq : ∀ name, (c.core name).Addressed name) (m : Message) :
    FailsNone c (c.onAttached m) := by
  by_cases h : ∃ name ch, m.channel = some name ∧ c.channel? name = some ch ∧
      acceptsAttached ch = true
  · obtain ⟨name, ch, hm, hch, ha⟩ := h
    exact (turnOn_onAttached m hm hch ha (hq name)).failsNone (by simp)
  · exact onAttached_cases (fun _ => failsNone_pure)
      (fun name ch hm hch ha _ => absurd ⟨name, ch, hm, hch, ha⟩ h)
      fun name ch hm hch ha _ => absurd ⟨name, ch, hm, hch, ha⟩ h

theorem failsNone_onPresence (m : Message) : FailsNone c (c.onPresence m) := by
  refine onPresence_cases (fun _ => failsNone_pure) fun _ _ => ?_
  refine failsNone_onChannel fun ch => Channel.survives_same ?_
  have hspec := Channel.foldlM_spec ch c.takeLive (fun ch p => Channel.takeLive_spec ch c p)
    (Presence.arrivals m)
  exact congrArg Core.state hspec.1

theorem failsNone_onSync (m : Message) : FailsNone c (c.onSync m) :=
  onSync_cases (fun _ => failsNone_pure) fun _ _ =>
    failsNone_onChannel fun ch => Channel.survives_syncedChannel ch m

/-- A greeting fails no channel: a new link fails none as it comes up, and on a live link there
is only news of the session. -/
theorem failsNone_onConnected (h : Sound c) (m : Message) : FailsNone c (c.onConnected m) := by
  by_cases hs : c.connection.state = .connecting
  · have hdown : c.isConnected = false := by simp [isConnected, Connection.isConnected, hs]
    have hgreeted := state_of_session (leads_greet m (.inl hs)).session
    have hlive : (c.onConnected m).value.isConnected = true :=
      isConnected_iff.mpr (hgreeted.trans (Connection.stirred_fields _ _ _).1)
    exact fun name => Channel.survives_turn (turns_onConnected h.ordered h.addressed m name)
      (.inr ⟨hdown, hlive⟩)
  · refine onConnected_cases (fun _ => ?live) (fun hs' => absurd hs' hs) fun _ _ => failsNone_pure
    refine failsNone_from (d := c.greeted m) rfl ?_
    exact failsNone_bind (apart_become _ _ _).failsNone (failsNone_same (resetIdleTimer_same _).1)

/-- A detach fails the channel only by an error that is fatal to it. -/
theorem failsNone_onDetached {m : Message}
    (hm : Message.Action.ofCode? m.action = some .detached)
    (h : ∀ name ch, m.channel = some name → c.channel? name = some ch → ch.fatalError m = none) :
    FailsNone c (c.onDetached m) := by
  refine onDetached_cases (fun _ => failsNone_pure) (fun _ _ _ _ _ => ?awaited)
    (fun _ _ _ hch _ => failsNone_reattach hch _) fun name ch error hname hch hs he hfatal => ?fatal
  case awaited => exact failsNone_onChannel fun ch => Channel.survives_enterDetached ch _ _
  case fatal =>
    have hspared := h name ch hname hch
    unfold Channel.fatalError at hspared
    rw [hm] at hspared
    rcases hs with hs | hs <;> simp [hs, he, hfatal] at hspared

/-- An error of a channel that is not there, or has failed before, fails none. -/
theorem failsNone_onError {m : Message} (hm : Message.Action.ofCode? m.action = some .error)
    (hconnection : m.fatalError = none)
    (h : ∀ name ch, m.channel = some name → c.channel? name = some ch → ch.fatalError m = none) :
    FailsNone c (c.onError m) := by
  refine onError_cases (fun name hname => ?onOne) fun hname => ?onAll
  case onOne =>
    refine failChannel_cases (fun _ => failsNone_pure) fun ch hch hne => absurd ?_ hne
    have hspared := h name ch hname hch
    unfold Channel.fatalError at hspared
    rw [hm] at hspared
    cases hs : ch.state <;> simp_all
  case onAll => simp [Message.fatalError, hm, hname] at hconnection

/-- A retriable disconnect fails no channel. -/
theorem failsNone_onDisconnected {m : Message}
    (hm : Message.Action.ofCode? m.action = some .disconnected)
    (hconnection : m.fatalError = none) : FailsNone c (c.onDisconnected m.error) := by
  refine onDisconnected_cases (fun _ _ => failsNone_handleLoss _) fun error he hfatal => ?fatal
  simp [Message.fatalError, hm, he, hfatal] at hconnection

/-- A message that is fatal neither to the connection nor to the channel it names. -/
theorem failsNone_onMessage (hs : Sound c) {m : Message} (hconnection : m.fatalError = none)
    (h : ∀ name ch, m.channel = some name → c.channel? name = some ch → ch.fatalError m = none) :
    FailsNone c (c.onMessage m) := by
  obtain ⟨hchannels, -, hup⟩ := resetIdleTimer_same c
  have hs' : Sound c.resetIdleTimer := hs.of_same hchannels hup
  have h' : ∀ name ch, m.channel = some name → c.resetIdleTimer.channel? name = some ch →
      ch.fatalError m = none := fun name ch hm hch =>
    h name ch hm ((channel?_of_channels hchannels name).symm.trans hch)
  refine failsNone_from hchannels ?_
  exact onMessage_cases (fun _ => failsNone_onConnected hs' m)
    (fun ha => failsNone_onDisconnected ha hconnection) (fun _ => failsNone_finishClose)
    (fun ha => failsNone_onError ha hconnection h') (fun _ => (apart_settle _ _).failsNone)
    (fun _ => (apart_settle _ _).failsNone) (fun _ => failsNone_onAttached hs'.addressed m)
    (fun ha => failsNone_onDetached ha h') (fun _ => failsNone_onSync m)
    (fun _ => failsNone_onPresence m) fun _ => failsNone_pure

end Server

/-! ## Steps -/

theorem failsNone_command (ticket : Ticket) (command : Command) :
    FailsNone c (c.command ticket command) := by
  cases command with
  | connect => exact apart_connect.failsNone
  | close => exact failsNone_close
  | channel name command => exact failsNone_channelCommand ticket command
  | _ => exact failsNone_same rfl

theorem failsNone_timers (hs : Sound c) : FailsNone c (c.step .timers) := by
  rw [step_eq]
  refine failsNone_bind (failsNone_fireConnectionTimer c.clock) fun name => ?_
  have hearly := sound_early hs .timers
  refine Channel.survives_turn (turns_late hearly.ordered hearly.fits c.clock .timers name) ?_
  rcases lateCue_cases (c.early .timers).value c.clock name .timers with hcue | hcue
  · exact .inl (by simp [hcue])
  · exact .inl (by simp [hcue])

/-- The error by which an input fails the connection. -/
def fatalError (c : Client) : Input → Option ErrorInfo
  | .link generation (.message m) =>
    if generation = c.connection.generation then m.fatalError else none
  | _ => none

/-- The error by which an input fails the channel of a name. -/
def fatalErrorOf (c : Client) (name : String) : Input → Option ErrorInfo
  | .link generation (.message m) =>
    if generation = c.connection.generation ∧ m.channel = some name then
      (c.channel? name).bind fun ch => ch.fatalError m
    else none
  | _ => none

/-- Only a fatal error of the connection, or of a channel, fails a channel. -/
theorem failsNone_step (hs : Sound c) {i : Input} (hconnection : c.fatalError i = none)
    (h : ∀ name, c.fatalErrorOf name i = none) : FailsNone c (c.step i) := by
  cases i with
  | command ticket command => exact failsNone_command ticket command
  | link generation event =>
    refine step_link_cases (fun m hg he => ?message) (fun error _ _ => failsNone_onLinkEnded error)
      fun _ => failsNone_pure
    subst he
    have hm : m.fatalError = none := by simpa [fatalError, hg] using hconnection
    refine failsNone_onMessage hs hm fun name ch hname hch => ?_
    simpa [fatalErrorOf, hg, hname, hch] using h name
  | clock now => exact failsNone_same rfl
  | timers => exact failsNone_timers hs
  | dropListener id =>
    intro name hs
    rwa [step, Logged.value_pure, core_dropListener] at hs
  | shutdown => exact failsNone_shutdown

end Client

end PresenceClient
