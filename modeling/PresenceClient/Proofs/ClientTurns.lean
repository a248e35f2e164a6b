-- What a client does on a channel is a turn of that channel: attaching and detaching, what
-- the server says of it, and what comes with a new link or a timer. No other channel is
-- touched.
import PresenceClient.Proofs.ChannelFrames

namespace PresenceClient.Client

open Channel (Core Cue Turn)
open Logged (tell)

/-- The channel `name` has a turn, and no other channel has one. The step that the turn is
a part of began on a connection that was up or not. -/
structure TurnOn (name : String) (up : Bool) (cue : Cue) (c : Client) (r : Logged Client) : Prop
    extends Alone name c r where
  turn : Turn name up cue (c.core name) (firstSent name r.log) (r.value.core name)
    r.value.isConnected

section One

variable {name : String} {up : Bool} {c : Client} {r : Logged Client} {cue : Cue}
  {s : List Ticket} {k : Core}

theorem Yields.turnOn (h : Yields name c r s k)
    (ht : Turn name up cue (c.core name) s k c.isConnected) : TurnOn name up cue c r := by
  refine ⟨h.toAlone, ?_⟩
  rw [h.core, h.sent, h.steady]
  exact ht

/-- Nothing happens to the channel. -/
theorem Yields.idle (h : Yields name c r [] (c.core name))
    (hcue : cue ≠ .attached ∧ cue ≠ .giveUp) (hup : c.isConnected = true → up = true) :
    TurnOn name up cue c r := h.turnOn (.idle hcue fun hu => .inl (hup hu))

theorem idle_other : Cue.other ≠ .attached ∧ Cue.other ≠ .giveUp := by simp

/-- Having a channel is no turn of it. -/
theorem turnOn_ensure (h : TurnOn name up cue (c.ensureChannel name) r) :
    TurnOn name up cue c r := by
  refine ⟨⟨fun other hne => ?_, h.silent, h.steady⟩, ?_⟩
  · rw [h.others other hne]
    exact channel?_setChannel_ne c name _ hne
  · have ht := h.turn
    rwa [core_ensureChannel] at ht

/-- Who is told at once does not change the channel. -/
theorem yields_told {es : List Effect} (hes : ∀ other, firstSent other es = []) :
    Yields name c (do
      tell es
      pure (c.ensureChannel name)) [] (c.core name) :=
  yields_quiet (x := tell es) hes yields_put

/-! ## Attaching -/

theorem yields_beginAttach (ch : Channel) (waiters : List Responder) :
    Yields name c (c.beginAttach name ch waiters) [] (ch.core.begun waiters c.isConnected) := by
  obtain ⟨hv, -, hlog⟩ := ch.toAttaching_spec waiters
  refine beginAttach_cases (fun hs => ?live) (fun hs => ?first) fun hs _ => ?down
  all_goals
    refine yields_channel hlog ?_
    generalize (toAttaching waiters ch).value = v at hv
    have hcore : (c.setChannel name v).core name = _ := (core_setChannel_self c name v).trans hv
  case live =>
    have h := yields_sendAttach (channel?_setChannel_self c name v)
    rw [hv] at h
    rw [isConnected_iff.mpr hs]
    exact h
  case first =>
    have hup : c.isConnected = false := by simp [isConnected, Connection.isConnected, hs]
    have h : Yields name (c.setChannel name v) _ _ _ := apart_connect.yields isConnected_connect
    rw [hcore] at h
    rw [hup]
    exact h
  case down =>
    have hup : c.isConnected = false := by simp [isConnected, Connection.isConnected, hs]
    have h : Yields name (c.setChannel name v) _ _ _ := yields_pure
    rw [hcore] at h
    rw [hup]
    exact h

/-- Where nothing speaks against it, an attach begins. -/
theorem yields_attachChannel (hr : c.attachRefusal = none)
    (hs : (c.core name).state ≠ .attaching ∧ (c.core name).state ≠ .attached)
    (waiters : List Responder) : Yields name c (c.attachChannel name waiters) []
      ((c.core name).begun waiters c.isConnected) := by
  refine attachChannel_cases (fun h => ?_) (fun h => ?_) (fun error h => ?_) fun _ _ _ => ?_
  · exact absurd h hs.2
  · exact absurd h hs.1
  · cases hr.symm.trans h
  · exact yields_set (yields_beginAttach _ waiters)

theorem turn_begun {up : Bool} (waiters : List Responder)
    (hs : k.state ≠ .attaching ∧ k.state ≠ .attached) :
    Turn name up .other k [] (k.begun waiters up) up := by
  have h : Turn name up .other k [] _ up := .begun waiters [] hs
  rwa [List.append_nil] at h

theorem turnOn_attachChannel (waiters : List Responder) :
    TurnOn name c.isConnected .other c (c.attachChannel name waiters) := by
  refine attachChannel_cases (fun _ => ?done) (fun hs => ?joins) (fun error _ => ?refused)
    fun h1 h2 _ => ?begins
  case done =>
    exact (yields_told fun other => firstSent_succeedEach other waiters).idle idle_other id
  case joins => exact (yields_set yields_put).turnOn (.joinAttach waiters hs)
  case refused =>
    exact (yields_told fun other => firstSent_failEach other waiters error).idle idle_other id
  case begins =>
    exact (yields_set (yields_beginAttach _ waiters)).turnOn (turn_begun waiters ⟨h2, h1⟩)

/-! ## Detaching, failing, suspending -/

/-- A channel that is attached or about to be can go all these ways. -/
theorem canBecome_of_live {s : Channel.State} (hs : s = .attaching ∨ s = .attached) :
    s.canBecome .detaching = true ∧ s.canBecome .detached = true ∧
      s.canBecome .suspended = true := by
  rcases hs with rfl | rfl <;> exact ⟨rfl, rfl, rfl⟩

/-- What a channel does by itself is its turn. -/
theorem turnOn_onChannel {f : Channel → Logged Channel} (hup : c.isConnected = true → up = true)
    (hlog : ∀ ch other, firstSent other (f ch).log = [])
    (hf : ∀ ch, Turn name up .other ch.core [] (f ch).value.core c.isConnected) :
    TurnOn name up .other c (c.onChannel name f) := by
  cases hch : c.channel? name with
  | none =>
    rw [onChannel_of_none hch]
    exact yields_pure.idle idle_other hup
  | some ch =>
    apply (yields_onChannel hch (hlog ch)).turnOn
    rw [core_of_some hch]
    exact hf ch

/-- A channel that is in use can be detached, and is out of use then. -/
theorem core_enterDetached {ch : Channel} (hs : ch.state.canBecome .detached = true)
    (reason : Option ErrorInfo) (e : ErrorInfo) :
    (ch.enterDetached reason e).value.core = ch.core.ended .detached := by
  rw [(Channel.enterDetached_spec ch reason e).1]
  unfold Core.detached
  rw [Core.become_of_canBecome (k := { ch.core with timer := none }) hs]
  rfl

theorem turnOn_detachAtOnce (waiter : Responder)
    (hs : (c.channelOrNew name).state.canBecome .detached = true) :
    TurnOn name c.isConnected .other c ((c.ensureChannel name).onChannel name fun ch =>
      (ch.awaitDetach waiter).enterDetached none Cause.channelDetached.info) := by
  have h := yields_onChannel (f := fun ch =>
    (ch.awaitDetach waiter).enterDetached none Cause.channelDetached.info)
    (channel?_ensureChannel c name) (by simp)
  apply (yields_set h).turnOn
  have hend := @core_enterDetached ((c.channelOrNew name).awaitDetach waiter) hs none
    Cause.channelDetached.info
  rw [hend]
  exact .ended (.inl rfl) id

/-- On a live link the server is asked for the detach. -/
theorem yields_beginDetach {ch : Channel} (waiter : Responder)
    (hs : ch.state.canBecome .detaching = true) :
    Yields name c (toDetaching waiter ch >>= fun ch => (c.setChannel name ch).sendDetach name) []
      (ch.core.detachBegun waiter) := by
  obtain ⟨hv, -, hlog⟩ := ch.toDetaching_spec waiter
  rw [Core.become_of_canBecome hs] at hv
  apply yields_channel hlog
  have h := yields_sendDetach (channel?_setChannel_self c name (toDetaching waiter ch).value)
  rw [hv] at h
  exact h

theorem turnOn_detachChannel (waiter : Responder) :
    TurnOn name c.isConnected .other c (c.detachChannel name waiter) := by
  have htold : ∀ reply, TurnOn name c.isConnected .other c (do
      tell (waiter.resolve reply)
      pure (c.ensureChannel name)) := fun reply =>
    (yields_told fun other => firstSent_resolve other waiter reply).idle idle_other id
  refine detachChannel_cases (fun _ => ?idle) (fun _ => ?failed) (fun hs => ?joins)
    (fun hs => ?atOnce) fun hup hs => ?asks
  case idle => exact htold _
  case failed => exact htold _
  case joins => exact (yields_set yields_put).turnOn (.joinDetach waiter hs)
  case atOnce =>
    refine turnOn_detachAtOnce waiter ?_
    rcases hs with hs | ⟨-, hs⟩
    · rw [hs]
      rfl
    · exact (canBecome_of_live hs).2.1
  case asks =>
    apply (yields_set (yields_beginDetach waiter (canBecome_of_live hs).1)).turnOn
    rw [hup]
    exact .detachBegun waiter hs

theorem yields_failPendingOf (e : ErrorInfo) :
    Yields name c (c.failPendingOf name e) [] (c.core name) := (apart_settle _ _).yields rfl

theorem turnOn_releaseChannel : TurnOn name c.isConnected .other c (c.releaseChannel name) := by
  refine releaseChannel_cases (fun _ => yields_pure.idle idle_other id)
    fun ch farewell _ hsaid => ?_
  have hgone : ({ c with channels := c.channels.erase name } : Client).core name = {} :=
    core_of_none (Table.get?_erase_self c.channels name)
  have hfail : Yields name { c with channels := c.channels.erase name } _ _ _ :=
    yields_failPendingOf Cause.channelReleased.info
  rw [hgone] at hfail
  have hlast : ∀ d : Client, d.core name = {} →
      Yields name d (farewell >>= fun _ => pure d) [] {} := by
    intro d hd
    refine yields_quiet (fun other => ?_) (hd ▸ yields_pure)
    rcases hsaid with rfl | ⟨rfl, -⟩ <;> rfl
  refine Yields.turnOn (s := []) (k := {}) ?_ .released
  refine yields_quiet (ch.failWaiters_spec _).2.2 (yields_erase (c := c) ?_)
  exact yields_bind hfail (hlast _ hfail.core)

/-- A fatal error ends a channel. -/
theorem turnOn_failChannel (hup : c.isConnected = true → up = true) (e : ErrorInfo) :
    TurnOn name up .other c (c.failChannel name e) := by
  refine failChannel_cases (fun _ => yields_pure.idle idle_other hup) fun ch hch _ => ?_
  obtain ⟨hcore, -, hlog⟩ := ch.toFailed_spec e
  have hy : Yields name (c.setChannel name (toFailed e ch).value) _ _ _ := yields_failPendingOf e
  rw [core_setChannel_self, hcore] at hy
  apply (yields_channel hlog hy).turnOn
  rw [core_of_some hch]
  exact .ended (.inr rfl) hup

theorem core_toSuspended {ch : Channel} (hs : ch.state.canBecome .suspended = true)
    (e : ErrorInfo) (alarm : Option (Alarm Channel.Timer)) :
    (toSuspended e alarm ch).value.core = ch.core.suspended (alarm.map (·.kind)) := by
  rw [(ch.toSuspended_spec e alarm).1, Core.become_of_canBecome (k := ch.core) hs]
  rfl

theorem yields_suspendChannel {ch : Channel} (hch : c.channel? name = some ch)
    (hs : ch.state.canBecome .suspended = true) (e : ErrorInfo) :
    Yields name c (c.suspendChannel name e true) [] (ch.core.suspended (some .reattach)) := by
  have hcore := core_toSuspended hs e (c.retryAlarm true)
  have hlog := (ch.toSuspended_spec e (c.retryAlarm true)).2.2
  have heq : suspendedChannel e (c.retryAlarm true) ch = toSuspended e (c.retryAlarm true) ch :=
    if_pos hs
  rw [suspendChannel_eq, ← show _ = ch.core.suspended (some .reattach) from hcore, ← heq]
  exact yields_onChannel hch fun other => heq ▸ hlog other

/-- A channel that is suspended waits for its timer, or for the connection to come back. -/
theorem turnOn_suspendChannel (hup : c.isConnected = true → up = true) (e : ErrorInfo)
    (retry : Bool) (hretry : retry = true ∨ c.isConnected = false) :
    TurnOn name up .other c (c.suspendChannel name e retry) := by
  rw [suspendChannel_eq]
  refine turnOn_onChannel hup (fun ch other => ?_) fun ch => ?_
  · exact suspendedChannel_cases (fun _ => (ch.toSuspended_spec e _).2.2 other) fun _ => rfl
  · refine suspendedChannel_cases (fun hs => ?_) fun _ => .idle idle_other fun hu => .inl (hup hu)
    rw [core_toSuspended hs e _]
    refine .suspended ?_ hup
    rcases hretry with rfl | hdown
    · exact .inl rfl
    · cases retry with
      | true => exact .inl rfl
      | false => exact .inr ⟨rfl, hdown⟩

theorem turnOn_failQueue (hup : c.isConnected = true → up = true) (e : ErrorInfo) :
    TurnOn name up .other c (c.onChannel name fun ch => ch.failQueue e) := by
  apply turnOn_onChannel hup (fun ch => (ch.failQueue_spec e).2.2)
  intro ch
  rw [(ch.failQueue_spec e).1]
  exact .queueFailed hup

theorem turnOn_failWaiters (hup : c.isConnected = true → up = true) (e : ErrorInfo) :
    TurnOn name up .other c (c.onChannel name fun ch => ch.failWaiters e) := by
  apply turnOn_onChannel hup (fun ch => (ch.failWaiters_spec e).2.2)
  intro ch
  rw [(ch.failWaiters_spec e).1]
  exact .cleared hup

theorem turnOn_detachOnClose (hup : c.isConnected = true → up = true) (e : ErrorInfo) :
    TurnOn name up .other c (c.onChannel name (detachOnClose e)) := by
  refine turnOn_onChannel hup (fun ch other => ?_) fun ch => ?_
  · exact detachOnClose_cases (fun _ => by simp) fun _ => by simp
  · refine detachOnClose_cases (fun hs => ?_) fun _ => ?_
    · rw [core_enterDetached (by rcases hs with hs | hs | hs | hs <;> rw [hs] <;> rfl)]
      exact .ended (.inl rfl) hup
    · rw [(ch.failWaiters_spec e).1]
      exact .cleared hup

theorem turnOn_suspendUnder (hup : c.isConnected = true → up = true) (hdown : c.isConnected = false)
    (e : ErrorInfo) : TurnOn name up .other c (suspendUnder e c name) :=
  suspendUnder_cases (fun _ => yields_pure.idle idle_other hup)
    (fun _ _ _ => turnOn_suspendChannel hup e false (.inr hdown))
    fun _ _ _ _ => turnOn_failQueue hup e

theorem turnOn_failUnder (hup : c.isConnected = true → up = true) (e : ErrorInfo) :
    TurnOn name up .other c (failUnder e c name) :=
  failUnder_cases (fun _ => yields_pure.idle idle_other hup)
    (fun _ _ _ => turnOn_failChannel hup e) fun _ _ _ _ _ _ => turnOn_failQueue hup e

/-! ## What the server says -/

theorem turnOn_reattach {ch : Channel} (hch : c.channel? name = some ch)
    (hs : ch.state = .attaching ∨ ch.state = .attached) (e : Option ErrorInfo) :
    TurnOn name c.isConnected .other c (c.reattach name ch e) := by
  obtain ⟨hv, -, hlog⟩ := ch.toAttachingAgain_spec c.clock e
  have hagain : ∀ {f : Channel → Logged Client},
      Yields name (c.setChannel name (toAttachingAgain c.clock e ch).value)
        (f (toAttachingAgain c.clock e ch).value) [] (ch.core.reattached c.isConnected) →
      TurnOn name c.isConnected .other c (toAttachingAgain c.clock e ch >>= f) := by
    intro f hf
    apply (yields_channel hlog hf).turnOn
    rw [core_of_some hch]
    exact .reattached (hs.imp_right Or.inl)
  refine reattach_cases (turnOn_suspendChannel id _ true (.inl rfl)) (fun hup => hagain ?live)
    fun hdown => hagain ?down
  case live =>
    have h := yields_sendAttach
      (channel?_setChannel_self c name (toAttachingAgain c.clock e ch).value)
    rw [hv] at h
    rw [hup]
    exact h
  case down =>
    have h : Yields name (c.setChannel name (toAttachingAgain c.clock e ch).value) _ _ _ :=
      yields_kept
    rw [hv] at h
    rw [hdown]
    exact h

theorem turnOn_onDetached (m : Message) (hm : m.channel = some name) :
    TurnOn name c.isConnected .other c (c.onDetached m) := by
  refine onDetached_cases (fun _ => yields_pure.idle idle_other id)
    (fun other ch hm' hch hs => ?awaited)
    (fun other ch hm' hch hs => ?again) fun other _ error hm' _ _ _ _ => ?fatal
  all_goals cases hm.symm.trans hm'
  case awaited =>
    apply Yields.turnOn (yields_onChannel hch (by simp))
    rw [core_enterDetached (by rw [hs]; rfl), core_of_some hch]
    exact .ended (.inl rfl) id
  case again => exact turnOn_reattach hch hs _
  case fatal => exact turnOn_failChannel id error

theorem yields_reenter (ps : List Presence) :
    Yields name c (ps.foldlM (reenter name) c) [] (c.core name) := by
  induction ps generalizing c with
  | nil => exact yields_pure
  | cons p rest ih =>
    exact yields_bind (yields_sendForAck rfl (.reentry name p.clientId)) ih

/-- The states in which the server may attach a channel. -/
theorem state_of_acceptsAttached {ch : Channel} (h : acceptsAttached ch = true) :
    ch.state = .attaching ∨ ch.state = .attached ∨ ch.state = .suspended := by
  unfold acceptsAttached at h
  split at h
  · exact .inl ‹_›
  · exact .inr (.inl ‹_›)
  · exact .inr (.inr ‹_›)
  · cases h

theorem core_attachedChannel {ch : Channel} (h : acceptsAttached ch = true) (m : Message) :
    (attachedChannel m ch).value.core = ch.core.served (m.has .hasPresence) false := by
  have hcan : ch.core.state.canBecome .attached = true := by
    have hs : ch.core.state = _ ∨ ch.core.state = _ ∨ ch.core.state = _ :=
      state_of_acceptsAttached h
    rcases hs with hs | hs | hs <;> rw [hs] <;> rfl
  rw [(Channel.attachedChannel_spec ch m).1]
  unfold Core.attached
  rw [Core.become_of_canBecome (k := { ch.core with timer := none }) hcan]
  rfl

/-- The server has attached the channel, and what is queued goes out on a live link. -/
theorem turnOn_onAttached (m : Message) (hm : m.channel = some name) {ch : Channel}
    (hch : c.channel? name = some ch) (ha : acceptsAttached ch = true)
    (hq : (c.core name).Addressed name) :
    TurnOn name c.isConnected .attached c (c.onAttached m) := by
  have hcore := core_attachedChannel ha m
  rw [core_of_some hch] at hq
  rw [onAttached_eq hm hch ha]
  refine Yields.turnOn (s := if c.isConnected then queueTickets ch.core.queue else [])
    (k := ch.core.served (m.has .hasPresence) c.isConnected) ?_ ?_
  · apply yields_channel (Channel.attachedChannel_spec ch m).2.2
    generalize (attachedChannel m ch).value = v at hcore ⊢
    split
    · rename_i hup
      have hup' : c.isConnected = true := hup
      rw [hup']
      generalize (if m.has .resumed then [] else v.roster.ownMembers) = mine
      have hmine : Yields name (c.setChannel name v) _ _ _ := yields_reenter mine
      rw [core_setChannel_self, hcore] at hmine
      have hflush := yields_flushQueue (hmine.steady.trans hup)
        (by rw [hmine.core]; rfl) (by rw [hmine.core]; exact hq)
      rw [hmine.core] at hflush
      exact yields_bind hmine hflush
    · rename_i hup
      have hup' : c.isConnected = false := Bool.eq_false_of_not_eq_true hup
      rw [hup', ← hcore]
      exact yields_kept
  · rw [core_of_some hch]
    exact .served _ (state_of_acceptsAttached ha)

/-! ## A link comes up, a timer comes to its time -/

/-- A channel is attached anew. -/
theorem yields_attachAnew {ch : Channel} (hch : c.channel? name = some ch) :
    Yields name c (do
      let c ← c.onChannel name fun ch => ch.become .attaching none false
      c.sendAttach name) [] (ch.core.reattached true) := by
  have h1 := yields_onChannel (f := fun ch => ch.become .attaching none false) hch (by simp)
  rw [(Channel.become_spec _ _ _ _).1, Core.become_attaching] at h1
  have hv : ∃ v, (c.onChannel name fun ch => ch.become .attaching none false).value.channel? name =
      some v := by
    rw [onChannel_of_some hch]
    exact ⟨_, channel?_setChannel_self _ _ _⟩
  obtain ⟨v, hv⟩ := hv
  have hcore := (core_of_some hv).symm.trans h1.core
  have h2 := yields_sendAttach hv
  rw [hcore] at h2
  exact yields_bind h1 h2

/-- Where the server has not kept it, or the channel was suspended, the attach starts anew. -/
theorem turnOn_attachAnew {ch : Channel} (hch : c.channel? name = some ch)
    (hup : c.isConnected = true) (hs : ch.state = .attached ∨ ch.state = .suspended) :
    TurnOn name false .other c (do
      let c ← c.onChannel name fun ch => ch.become .attaching none false
      c.sendAttach name) := by
  apply (yields_attachAnew hch).turnOn
  rw [core_of_some hch, hup]
  exact .reattached (.inr hs)

/-- A channel that the server has kept sends what is queued. -/
theorem turnOn_flushQueue (hup : c.isConnected = true) (hs : (c.core name).state = .attached)
    (hq : (c.core name).Addressed name) {x : Logged Unit}
    (hx : ∀ other, firstSent other x.log = []) :
    TurnOn name false .other c (x >>= fun _ => c.flushQueue name) := by
  apply (yields_quiet hx (yields_flushQueue hup hs hq)).turnOn
  rw [hup]
  exact .flushed hs

/-- On a live link each channel takes up what it was doing. -/
theorem turnOn_onLinkUp (resumed : Bool) (hup : c.isConnected = true)
    (hq : (c.core name).Addressed name) : TurnOn name false .other c (c.onLinkUp resumed name) := by
  refine onLinkUp_cases (fun hidle => ?idle) (fun ch hch hs => ?attaches)
    (fun ch hch hs => ?detaches) (fun ch asks hch hs _ hasks => ?goesOn) fun ch hch hs => ?anew
  case idle =>
    refine yields_pure.turnOn (.idle idle_other fun _ => .inr ?_)
    cases hch : c.channel? name with
    | none =>
      rw [core_of_none hch]
      exact .inl rfl
    | some ch =>
      rw [core_of_some hch]
      exact hidle ch hch
  case attaches =>
    apply (yields_sendAttach hch).turnOn
    rw [core_of_some hch, hup]
    exact .attachAgain hs
  case detaches =>
    apply (yields_sendDetach hch).turnOn
    rw [core_of_some hch, hup]
    exact .detachAgain hs
  case goesOn =>
    refine turnOn_flushQueue hup (by rw [core_of_some hch]; exact hs) hq fun _ => ?_
    rcases hasks with ⟨rfl, -⟩ | ⟨cursor, -, -, rfl⟩ <;> rfl
  case anew => exact turnOn_attachAnew hch hup (hs.imp_left And.left)

/-- A timer that is due is cleared first. -/
theorem yields_attachTimedOut {ch : Channel} (hs : ch.state = .attaching) (e : ErrorInfo) :
    Yields name c ((c.setChannel name { ch with timer := none }).suspendChannel name e true) []
      (ch.core.suspended (some .reattach)) := by
  have hfound := channel?_setChannel_self c name { ch with timer := none }
  have hcan : ch.state.canBecome .suspended = true := by rw [hs]; rfl
  exact yields_set (yields_suspendChannel hfound hcan e)

theorem yields_detachTimedOut {ch : Channel} (hs : ch.state = .detaching) :
    Yields name c ((c.setChannel name { ch with timer := none }).onChannel name detachTimedOut) []
      ch.core.undetached := by
  have hspec := Channel.detachTimedOut_spec { ch with timer := none }
  have hcan : ch.core.state.canBecome .attached = true := by
    rw [show ch.core.state = .detaching from hs]
    rfl
  have hcore : (detachTimedOut { ch with timer := none }).value.core = ch.core.undetached := by
    have hbecome : { ch with timer := none }.core.become .attached =
        { ch.core with state := .attached, timer := none } := Core.become_of_canBecome hcan
    rw [hspec.1, hbecome]
    rfl
  rw [← hcore]
  have hfound := channel?_setChannel_self c name { ch with timer := none }
  exact yields_set (yields_onChannel hfound hspec.2.2)

theorem yields_reattachDue {ch : Channel} (hs : ch.state = .suspended)
    (hup : c.isConnected = true) :
    Yields name c ((c.setChannel name { ch with timer := none }).attachChannel name []) []
      (ch.core.begun [] true) := by
  have hcore : (c.setChannel name { ch with timer := none }).core name =
      { ch.core with timer := none } := core_setChannel_self c name _
  have hstate : c.connection.state = .connected := isConnected_iff.mp hup
  have hrefusal : (c.setChannel name { ch with timer := none }).attachRefusal = none := by
    unfold attachRefusal setChannel
    rw [hstate]
  have hlive : ch.state ≠ .attaching ∧ ch.state ≠ .attached := by simp [hs]
  have h := yields_attachChannel hrefusal (by rw [hcore]; exact hlive) []
  have hup' : (c.setChannel name { ch with timer := none }).isConnected = true := hup
  rw [hcore, hup'] at h
  exact yields_set h

/-- Is it the give-up of a detach that comes when the timer of the channel is due? -/
def givesUp (c : Client) (name : String) : Bool :=
  c.isConnected && (c.core name).state == .detaching && (c.core name).timer == some .detachTimeout

/-- What gives a channel its turn when its timer is due. -/
def timerCue (c : Client) (name : String) : Cue := if c.givesUp name then .giveUp else .timer

section Timers

variable {ch : Channel}

/-- On a link that is down, a timer that is due is no more than cleared. -/
theorem turnOn_timerGone (hch : c.channel? name = some ch)
    (hs : ch.state = .attaching ∨ ch.state = .detaching ∨ ch.state = .suspended)
    (hdown : c.isConnected = false) : TurnOn name c.isConnected (c.timerCue name) c
      (pure (c.setChannel name { ch with timer := none })) := by
  apply yields_put.turnOn
  rw [core_of_some hch, hdown, timerCue, givesUp, hdown]
  exact .timerGone hs

theorem turnOn_attachTimeout (hch : c.channel? name = some ch) (hs : ch.state = .attaching)
    (e : ErrorInfo) : TurnOn name c.isConnected (c.timerCue name) c
      ((c.setChannel name { ch with timer := none }).suspendChannel name e true) := by
  have hcore := core_of_some hch
  have hno : c.givesUp name = false := by
    have hs' : ch.core.state = .attaching := hs
    simp [givesUp, hcore, hs']
  apply (yields_attachTimedOut hs e).turnOn
  rw [hcore, timerCue, hno]
  exact .attachTimedOut hs

theorem turnOn_detachTimeout (hch : c.channel? name = some ch)
    (ht : ch.core.timer = some .detachTimeout)
    (hs : ch.state = .detaching ∨ ch.state = .attaching ∧ c.isConnected = false)
    (hup : c.isConnected = true) : TurnOn name c.isConnected (c.timerCue name) c
      ((c.setChannel name { ch with timer := none }).onChannel name detachTimedOut) := by
  rcases hs with hs | ⟨-, hdown⟩
  · have hs' : ch.core.state = .detaching := hs
    have hyes : c.givesUp name = true := by simp [givesUp, core_of_some hch, hup, hs', ht]
    apply (yields_detachTimedOut hs).turnOn
    rw [core_of_some hch, timerCue, hyes, hup]
    exact .giveUp hs
  · cases hup.symm.trans hdown

theorem turnOn_reattachTimer (hch : c.channel? name = some ch)
    (ht : ch.core.timer = some .reattach) (hs : ch.state = .suspended)
    (hup : c.isConnected = true) : TurnOn name c.isConnected (c.timerCue name) c
      ((c.setChannel name { ch with timer := none }).attachChannel name []) := by
  have hno : c.givesUp name = false := by simp [givesUp, core_of_some hch, ht]
  apply (yields_reattachDue hs hup).turnOn
  rw [core_of_some hch, timerCue, hno, hup]
  exact .reattachDue hs

/-- The timer of a channel is due. -/
theorem turnOn_onChannelTimer (hch : c.channel? name = some ch) {alarm : Alarm Channel.Timer}
    (ht : ch.timer = some alarm) (hfits : (c.core name).Fits c.isConnected) :
    TurnOn name c.isConnected (c.timerCue name) c (c.onChannelTimer name) := by
  have htimer : ch.core.timer = some alarm.kind := by simp [Channel.core, ht]
  rw [core_of_some hch] at hfits
  obtain ⟨hattach, hdetach, hreattach⟩ := hfits.of_timer htimer
  refine onChannelTimer_cases (fun hunset => ?unset) (fun ch' alarm' hch' ht' hk => ?attach)
    (fun ch' alarm' hch' ht' hk hup => ?detach) (fun ch' alarm' hch' ht' hk hs hup => ?reattach)
    fun ch' alarm' hch' ht' hgone => ?gone
  case unset => cases ht.symm.trans (hunset ch hch)
  all_goals
    cases hch.symm.trans hch'
    cases ht.symm.trans ht'
  case attach => exact turnOn_attachTimeout hch (hattach hk) _
  case detach => exact turnOn_detachTimeout hch (hk ▸ htimer) (hdetach hk) hup
  case reattach => exact turnOn_reattachTimer hch (hk ▸ htimer) hs hup
  case gone =>
    rcases hgone with ⟨hk, hdown⟩ | ⟨hk, hnot⟩
    · refine turnOn_timerGone hch ?_ hdown
      exact (hdetach hk).elim (fun hs => .inr (.inl hs)) fun hs => .inl hs.1
    · rcases hreattach hk with hs | ⟨hs, hdown⟩
      · exact turnOn_timerGone hch (.inr (.inr hs))
          (Bool.eq_false_iff.mpr fun hup => hnot ⟨hs, hup⟩)
      · exact turnOn_timerGone hch (.inl hs) hdown

end Timers

end One

end PresenceClient.Client
