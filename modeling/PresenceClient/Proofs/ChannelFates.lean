-- The fate of a channel in a step, as to who is present there and who listens: a channel that
-- is out of use then has lost its members, or was out of use with the same ones before, and
-- nobody listens who did not. Only a live record finds its way into a channel out of use, and
-- only a subscription adds a listener.
import PresenceClient.Proofs.ClientTurns
import PresenceClient.Proofs.RosterTurns

namespace PresenceClient

open Logged (tell)

/-! ## Who hears of an event -/

namespace Listener.Registry

variable {κ : Type} [DecidableEq κ] (r : Registry κ) (kind : κ)

/-- The last of all is the one that has just come. -/
theorem recipients_on (id : ListenerId) (filter : Option κ) : (r.on id filter).recipients kind =
    r.recipients kind ++ if filter.all fun f => decide (f = kind) then [id] else [] := by
  unfold recipients on
  rw [List.filter_append, List.map_append]
  congr 1
  by_cases h : (filter.all fun f => decide (f = kind)) = true
  · rw [if_pos h]
    simp [Registration.wants, h]
  · rw [if_neg h]
    simp [Registration.wants, h]

/-- Some registrations are removed. -/
theorem recipients_filter (p : Registration κ → Bool) :
    (Registry.recipients ⟨r.entries.filter p⟩ kind).Sublist (r.recipients kind) :=
  (List.filter_sublist.filter _).map _

/-- A receiver goes away. -/
theorem recipients_drop (id : ListenerId) :
    ((r.drop id).recipients kind).Sublist (r.recipients kind) := by
  unfold recipients drop
  dsimp only
  induction r.entries with
  | nil => exact List.Sublist.refl _
  | cons e rest ih =>
    by_cases hid : e.id = id
    · have hclosed : (if e.id = id then { e with isOpen := false } else e) =
          { e with isOpen := false } := if_pos hid
      rw [List.map_cons, hclosed, List.filter_cons_of_neg (by simp), List.filter_cons]
      split
      · exact ih.cons _
      · exact ih
    · have hkept : (if e.id = id then { e with isOpen := false } else e) = e := if_neg hid
      rw [List.map_cons, hkept, List.filter_cons, List.filter_cons]
      split
      · exact ih.cons_cons _
      · exact ih

end Listener.Registry

/-! ## One channel -/

namespace Channel

/-- A channel that is out of use then has lost its members, or was out of use with the same
ones before. Nobody listens who did not. -/
structure Fares (ch : Channel) (x : Logged Channel) : Prop where
  members : x.value.state.isResting = true →
    x.value.roster = {} ∨ ch.state.isResting = true ∧ x.value.roster = ch.roster
  listeners : ∀ action, (x.value.presenceListeners.recipients action).Sublist
    (ch.presenceListeners.recipients action)

variable {ch ch' : Channel}

/-- What comes later starts from the channel that it finds. -/
theorem fares_from {x : Logged Channel} (h2 : Fares ch' x) (h1 : Fares ch (pure ch')) :
    Fares ch x := by
  refine ⟨fun hrest => ?_, fun action => (h2.listeners action).trans (h1.listeners action)⟩
  rcases h2.members hrest with he | ⟨hrest', he⟩
  · exact .inl he
  · rw [he]
    exact h1.members hrest'

theorem fares_bind {x : Logged Channel} {f : Channel → Logged Channel} (h1 : Fares ch x)
    (h2 : Fares x.value (f x.value)) : Fares ch (x >>= f) :=
  have h : Fares ch (f x.value) := fares_from h2 ⟨h1.members, h1.listeners⟩
  ⟨h.members, h.listeners⟩

/-- The channel is no less in use than before, with the same members. -/
theorem fares_same {x : Logged Channel}
    (hs : x.value.state.isResting = true → ch.state.isResting = true)
    (hr : x.value.roster = ch.roster) (hl : x.value.presenceListeners = ch.presenceListeners) :
    Fares ch x := ⟨fun hrest => .inr ⟨hs hrest, hr⟩, fun _ => by rw [hl]⟩

theorem fares_pure : Fares ch (pure ch) := fares_same id rfl rfl

/-- Nothing but those who wait, timers and the like is touched. -/
theorem fares_touched (hs : ch'.state = ch.state) (hr : ch'.roster = ch.roster)
    (hl : ch'.presenceListeners = ch.presenceListeners) : Fares ch (pure ch') :=
  fares_same (fun hrest => hs ▸ hrest) hr hl

theorem fares_forgotten {x : Logged Channel} (hr : x.value.roster = {})
    (hl : x.value.presenceListeners = ch.presenceListeners) : Fares ch x :=
  ⟨fun _ => .inl hr, fun _ => by rw [hl]⟩

theorem fares_inUse {x : Logged Channel} (hs : x.value.state.isResting = false)
    (hl : ∀ action,
      x.value.presenceListeners.recipients action = ch.presenceListeners.recipients action) :
    Fares ch x :=
  ⟨fun hrest => absurd hrest (by simp [hs]), fun action => by rw [hl action]⟩

/-- Nothing is left of a channel that is dropped. -/
theorem fares_dropped (ch : Channel) : Fares ch (pure {}) :=
  ⟨fun _ => .inl rfl, fun _ => List.nil_sublist _⟩

variable (ch)

/-- Coming into use, or going from one use to another. -/
theorem fares_become (next : State) (hnext : next.isResting = false) (reason : Option ErrorInfo)
    (resumed : Bool) : Fares ch (ch.become next reason resumed) := by
  refine become_cases (fun _ => ?goes) fun _ => fares_pure
  exact fares_same (fun hrest => absurd hrest (by simp [hnext])) rfl rfl

/-- A change of the state leaves the members and those who listen for them. -/
theorem become_rest (next : State) (reason : Option ErrorInfo) (resumed : Bool) :
    (ch.become next reason resumed).value.roster = ch.roster ∧
      (ch.become next reason resumed).value.presenceListeners = ch.presenceListeners :=
  become_cases (fun _ => ⟨rfl, rfl⟩) fun _ => ⟨rfl, rfl⟩

theorem fares_enterDetached (reason : Option ErrorInfo) (e : ErrorInfo) :
    Fares ch (ch.enterDetached reason e) :=
  fares_forgotten rfl (become_rest { ch with timer := none } .detached reason false).2

theorem fares_detachTimedOut : Fares ch (Client.detachTimedOut ch) :=
  fares_bind (fares_become ch .attached rfl _ _) (fares_same id rfl rfl)

theorem fares_detachOnClose (e : ErrorInfo) : Fares ch (Client.detachOnClose e ch) :=
  Client.detachOnClose_cases (fun _ => fares_enterDetached ch none e)
    fun _ => fares_same id rfl rfl

theorem fares_toAttaching (waiters : List Responder) :
    Fares ch (Client.toAttaching waiters ch) :=
  fares_bind (fares_same id rfl rfl) (fares_become _ .attaching rfl _ _)

theorem fares_toDetaching (waiter : Responder) : Fares ch (Client.toDetaching waiter ch) :=
  fares_bind (fares_same id rfl rfl) (fares_from (fares_become _ .detaching rfl _ _)
    (fares_touched rfl rfl rfl))

theorem fares_toFailed (e : ErrorInfo) : Fares ch (Client.toFailed e ch) :=
  fares_forgotten rfl
    (become_rest { ch with timer := none, serial := none } .failed (some e) false).2

theorem fares_suspendedChannel (e : ErrorInfo) (alarm : Option (Alarm Timer)) :
    Fares ch (Client.suspendedChannel e alarm ch) := by
  refine Client.suspendedChannel_cases (fun _ => ?suspends) fun _ => fares_pure
  exact fares_bind (fares_become ch .suspended rfl _ _) (fares_same id rfl rfl)

theorem fares_toAttachingAgain (now : Instant) (e : Option ErrorInfo) :
    Fares ch (Client.toAttachingAgain now e ch) :=
  fares_from (fares_become _ .attaching rfl _ _) (fares_touched rfl rfl rfl)

/-- A channel that the server attaches is in use. -/
theorem fares_attachedChannel (h : Client.acceptsAttached ch = true) (m : Message) :
    Fares ch (Client.attachedChannel m ch) := by
  have hs : (Client.attachedChannel m ch).value.state = .attached :=
    congrArg Core.state (Client.core_attachedChannel h m)
  exact fares_inUse (by rw [hs]; rfl) (Client.performs_attachedChannel ch m).audience

/-- A channel that is attached stays so with a page of a sync. -/
theorem fares_takePage (hs : ch.state = .attached) (m : Message) :
    Fares ch (Client.takePage m ch) := by
  have hs' : (Client.takePage m ch).value.core.state = ch.core.state := by
    rw [(takePage_spec ch m).1]
    unfold Core.paged
    split <;> rfl
  refine fares_inUse ?_ (Client.performs_takePage ch m).audience
  show (Client.takePage m ch).value.core.state.isResting = false
  rw [hs']
  exact congrArg State.isResting hs

end Channel

namespace Client

/-! ## Each channel -/

/-- Each channel fares so, and no listener id is used up. -/
structure Fares (c : Client) (r : Logged Client) : Prop where
  channel : ∀ name, (c.channelOrNew name).Fares (pure (r.value.channelOrNew name))
  nextListener : r.value.nextListener = c.nextListener

section Rules

variable {c d : Client} {r : Logged Client} {name : String} {ch ch' : Channel}

theorem fares_from (h2 : Fares d r) (h1 : Fares c (pure d)) : Fares c r :=
  ⟨fun name => Channel.fares_from (h2.channel name) (h1.channel name),
    h2.nextListener.trans h1.nextListener⟩

theorem fares_bind {x : Logged Client} {f : Client → Logged Client} (h1 : Fares c x)
    (h2 : Fares x.value (f x.value)) : Fares c (x >>= f) :=
  have h : Fares c (f x.value) := fares_from h2 ⟨h1.channel, h1.nextListener⟩
  ⟨h.channel, h.nextListener⟩

/-- Effects have no part in this. -/
theorem fares_after {α : Type} {x : Logged α} {f : α → Logged Client}
    (h : Fares c (f x.value)) : Fares c (x >>= f) := ⟨h.channel, h.nextListener⟩

/-- What is done on the connection leaves all channels alone. -/
theorem fares_same (hch : r.value.channels = c.channels)
    (hn : r.value.nextListener = c.nextListener) : Fares c r := by
  refine ⟨fun name => ?_, hn⟩
  rw [channelOrNew_congr (channel?_of_channels hch name)]
  exact Channel.fares_pure

theorem fares_pure : Fares c (pure c) := fares_same rfl rfl

theorem fares_put (h : (c.channelOrNew name).Fares (pure ch)) :
    Fares c (pure (c.setChannel name ch)) := by
  refine ⟨fun other => ?_, rfl⟩
  rw [Logged.value_pure]
  by_cases hne : other = name
  · rw [hne, channelOrNew_setChannel_self]
    exact h
  · rw [channelOrNew_setChannel_ne c name ch hne]
    exact Channel.fares_pure

theorem fares_set (h : (c.channelOrNew name).Fares (pure ch))
    (hr : Fares (c.setChannel name ch) r) : Fares c r := fares_from hr (fares_put h)

/-- What a channel does by itself comes first. -/
theorem fares_channel {x : Logged Channel} {f : Channel → Logged Client}
    (hch : c.channelOrNew name = ch) (hx : ch.Fares x)
    (h : Fares (c.setChannel name x.value) (f x.value)) : Fares c (x >>= f) := by
  subst hch
  exact fares_after (fares_set ⟨hx.members, hx.listeners⟩ h)

theorem fares_ensure (h : Fares (c.ensureChannel name) r) : Fares c r :=
  fares_set Channel.fares_pure h

theorem fares_erase (name : String)
    (h : Fares { c with channels := c.channels.erase name } r) : Fares c r := by
  refine fares_from h ⟨fun other => ?_, rfl⟩
  rw [Logged.value_pure]
  by_cases hne : other = name
  · rw [hne, channelOrNew_erase_self]
    exact Channel.fares_dropped _
  · rw [channelOrNew_erase_ne c name hne]
    exact Channel.fares_pure

theorem fares_onChannel {f : Channel → Logged Channel} (hf : ∀ ch : Channel, ch.Fares (f ch)) :
    Fares c (c.onChannel name f) :=
  onChannel_cases (fun _ => fares_pure) fun ch hch =>
    fares_channel (channelOrNew_of_some hch) (hf ch) fares_pure

theorem fares_foldlM {α : Type} {f : Client → α → Logged Client} (hf : ∀ d x, Fares d (f d x))
    (xs : List α) : Fares c (xs.foldlM f c) := by
  induction xs generalizing c with
  | nil => exact fares_pure
  | cons x rest ih => exact fares_bind (hf c x) ih

end Rules

/-! ## The connection by itself -/

section Connection

variable {c : Client}

theorem fares_become (next : Connection.State) (reason : Option ErrorInfo)
    (retryIn : Option Duration) : Fares c (c.become next reason retryIn) :=
  become_cases (fun _ => fares_same rfl rfl) fun _ => fares_same rfl rfl

theorem fares_startConnecting : Fares c c.startConnecting :=
  startConnecting_cases (fun _ => fares_bind (fares_become _ _ _) (fares_same rfl rfl))
    fun _ => fares_pure

theorem fares_connect : Fares c c.connect :=
  connect_cases (fun _ => fares_pure) fun _ _ _ => fares_startConnecting

theorem fares_resendPending (resumed : Bool) : Fares c (c.resendPending resumed) :=
  fares_from (d := { c with pending := {} }) (fares_foldlM (fun _ _ => fares_same rfl rfl) _)
    (fares_same rfl rfl)

theorem fares_resetIdleTimer {r : Logged Client} (h : Fares c.resetIdleTimer r) : Fares c r :=
  fares_from h (resetIdleTimer_cases (fun _ => fares_same rfl rfl) fun _ => fares_pure)

end Connection

/-! ## Channels in use -/

section Channels

variable {c : Client} {name : String} {ch ch' : Channel} {r : Logged Client}

/-- A channel that is there is touched, and nothing else comes before. -/
theorem fares_touch (hch : c.channel? name = some ch) (h : Fares (c.setChannel name ch') r)
    (hs : ch'.state = ch.state) (hr : ch'.roster = ch.roster)
    (hl : ch'.presenceListeners = ch.presenceListeners) : Fares c r := by
  rw [← channelOrNew_of_some hch] at hs hr hl
  exact fares_set (Channel.fares_touched hs hr hl) h

theorem fares_sendAttach : Fares c (c.sendAttach name) :=
  sendAttach_cases (fun _ => fares_pure) fun _ hch =>
    fares_after (fares_touch hch fares_pure rfl rfl rfl)

theorem fares_sendDetach : Fares c (c.sendDetach name) :=
  sendDetach_cases (fun _ => fares_pure) fun _ hch =>
    fares_after (fares_touch hch fares_pure rfl rfl rfl)

theorem fares_flushQueue : Fares c (c.flushQueue name) := by
  refine flushQueue_cases (fun _ => fares_pure) fun ch hch _ _ => ?_
  exact fares_touch hch (fares_foldlM (fun _ _ => fares_same rfl rfl) _) rfl rfl rfl

theorem fares_beginAttach (hch : c.channelOrNew name = ch) (waiters : List Responder) :
    Fares c (c.beginAttach name ch waiters) := by
  have hx := Channel.fares_toAttaching ch waiters
  exact beginAttach_cases (fun _ => fares_channel hch hx fares_sendAttach)
    (fun _ => fares_channel hch hx fares_connect) fun _ _ => fares_channel hch hx fares_pure

theorem fares_attachChannel (waiters : List Responder) :
    Fares c (c.attachChannel name waiters) := by
  have hch := channelOrNew_ensureChannel c name name
  refine attachChannel_cases (fun _ => ?done) (fun _ => ?joins) (fun _ _ => ?refused)
    fun _ _ _ => ?begins
  all_goals refine fares_ensure (?_ : Fares (c.ensureChannel name) _)
  case done => exact fares_after fares_pure
  case joins => exact fares_touch (channel?_ensureChannel c name) fares_pure rfl rfl rfl
  case refused => exact fares_after fares_pure
  case begins => exact fares_beginAttach hch waiters

theorem fares_detachAtOnce (waiter : Responder) (reason : Option ErrorInfo) (e : ErrorInfo) :
    Fares c (c.onChannel name fun ch => (ch.awaitDetach waiter).enterDetached reason e) :=
  fares_onChannel fun ch => Channel.fares_from
    (Channel.fares_enterDetached (ch.awaitDetach waiter) reason e)
    (Channel.fares_touched rfl rfl rfl)

theorem fares_detachChannel (waiter : Responder) : Fares c (c.detachChannel name waiter) := by
  have hch := channelOrNew_ensureChannel c name name
  have htold : ∀ reply, Fares c
      (tell (waiter.resolve reply) >>= fun _ => pure (c.ensureChannel name)) := fun _ =>
    fares_ensure (fares_after fares_pure)
  refine detachChannel_cases (fun _ => htold _) (fun _ => htold _) (fun _ => ?joins)
    (fun _ => ?atOnce) fun _ _ => ?asks
  case joins =>
    exact fares_ensure (fares_touch (channel?_ensureChannel c name) fares_pure rfl rfl rfl)
  case atOnce => exact fares_ensure (fares_detachAtOnce waiter none _)
  case asks =>
    exact fares_ensure
      (fares_channel hch (Channel.fares_toDetaching _ waiter) fares_sendDetach)

theorem fares_failPendingOf (e : ErrorInfo) : Fares c (c.failPendingOf name e) :=
  fares_same rfl rfl

theorem fares_releaseChannel : Fares c (c.releaseChannel name) :=
  releaseChannel_cases (fun _ => fares_pure) fun _ _ _ _ => fares_after
    (fares_erase name (fares_bind (fares_failPendingOf _) (fares_after fares_pure)))

/-! ## Failing and suspending -/

theorem fares_failChannel (e : ErrorInfo) : Fares c (c.failChannel name e) :=
  failChannel_cases (fun _ => fares_pure) fun _ hch _ =>
    fares_channel (channelOrNew_of_some hch) (Channel.fares_toFailed _ e) (fares_failPendingOf e)

theorem fares_suspendChannel (e : ErrorInfo) (retry : Bool) :
    Fares c (c.suspendChannel name e retry) :=
  fares_onChannel fun ch => Channel.fares_suspendedChannel ch e (c.retryAlarm retry)

theorem fares_failQueue (name : String) (e : ErrorInfo) :
    Fares c (c.onChannel name fun ch => ch.failQueue e) :=
  fares_onChannel fun _ => Channel.fares_same id rfl rfl

theorem fares_suspendUnder (e : ErrorInfo) : Fares c (suspendUnder e c name) :=
  suspendUnder_cases (fun _ => fares_pure) (fun _ _ _ => fares_suspendChannel e false)
    fun _ _ _ _ => fares_failQueue name e

theorem fares_failUnder (e : ErrorInfo) : Fares c (failUnder e c name) :=
  failUnder_cases (fun _ => fares_pure) (fun _ _ _ => fares_failChannel e)
    fun _ _ _ _ _ _ => fares_failQueue name e

/-! ## What the server says -/

theorem fares_reattach (hch : c.channelOrNew name = ch) (e : Option ErrorInfo) :
    Fares c (c.reattach name ch e) := by
  have hx := Channel.fares_toAttachingAgain ch c.clock e
  exact reattach_cases (fares_suspendChannel _ true)
    (fun _ => fares_channel hch hx fares_sendAttach) fun _ => fares_channel hch hx fares_pure

theorem fares_onDetached (m : Message) : Fares c (c.onDetached m) :=
  onDetached_cases (fun _ => fares_pure)
    (fun _ _ _ _ _ => fares_onChannel fun ch => Channel.fares_enterDetached ch _ _)
    (fun _ _ _ hch _ => fares_reattach (channelOrNew_of_some hch) _)
    fun _ _ _ _ _ _ _ _ => fares_failChannel _

theorem fares_onAttached (m : Message) : Fares c (c.onAttached m) := by
  have hx := fun ch ha => Channel.fares_attachedChannel ch ha m
  refine onAttached_cases (fun _ => fares_pure) (fun _ ch _ hch ha _ => ?live)
    fun _ ch _ hch ha _ => ?down
  all_goals refine fares_channel (channelOrNew_of_some hch) (hx ch ha) ?_
  case live => exact fares_bind (fares_foldlM (fun _ _ => fares_same rfl rfl) _) fares_flushQueue
  case down => exact fares_pure

theorem fares_onSync (m : Message) : Fares c (c.onSync m) :=
  onSync_cases (fun _ => fares_pure) fun _ _ => fares_onChannel fun ch =>
    syncedChannel_cases (fun hs => Channel.fares_takePage ch hs m) fun _ => Channel.fares_pure

theorem fares_onLinkUp (resumed : Bool) : Fares c (c.onLinkUp resumed name) :=
  onLinkUp_cases (fun _ => fares_pure) (fun _ _ _ => fares_sendAttach)
    (fun _ _ _ => fares_sendDetach) (fun _ _ _ _ _ _ => fares_after fares_flushQueue)
    fun _ _ _ => fares_bind
      (fares_onChannel fun ch => Channel.fares_become ch .attaching rfl _ _) fares_sendAttach

theorem fares_onChannelTimer : Fares c (c.onChannelTimer name) := by
  have hset : ∀ {ch : Channel} {r : Logged Client}, c.channel? name = some ch →
      Fares (c.setChannel name { ch with timer := none }) r → Fares c r := fun hch h =>
    fares_touch hch h rfl rfl rfl
  exact onChannelTimer_cases (fun _ => fares_pure)
    (fun _ _ hch _ _ => hset hch (fares_suspendChannel _ true))
    (fun _ _ hch _ _ _ => hset hch (fares_onChannel Channel.fares_detachTimedOut))
    (fun _ _ hch _ _ _ _ => hset hch (fares_attachChannel []))
    fun _ _ hch _ _ => hset hch fares_pure

end Channels

end Client

end PresenceClient
