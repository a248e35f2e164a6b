-- What the functions of a client come down to that work on one channel, said once. The rule of
-- a function has one case for each thing that it may do, with what is known there: what holds
-- in every case holds of the function. Whatever is shown of a function further on is shown by
-- its rule, so that no other proof depends on how the function is written.
import PresenceClient.Client.Step

namespace PresenceClient

open Logged (tell)

/-- What comes after a step has to do only with the value that it finds. -/
theorem Logged.bind_congr {α β : Type} {x : Logged α} {f g : α → Logged β}
    (h : f x.value = g x.value) : x >>= f = x >>= g := by
  refine Logged.ext ?_ ?_
  · rw [value_bind, value_bind, h]
  · rw [log_bind, log_bind, h]

/-! ## What a channel does by itself -/

namespace Channel

variable {ch : Channel} {P : Logged Channel → Prop}

@[elab_as_elim]
theorem become_cases {next : State} {reason : Option ErrorInfo} {resumed : Bool}
    (goes : ch.state.canBecome next = true → P (
      ch.stateListeners.publish next
          (.channel ⟨ch.state, next, reason, resumed⟩) >>= fun listeners =>
        pure { ch with
          state := next
          errorReason := reason <|> ch.errorReason
          stateListeners := listeners }))
    (stays : ch.state.canBecome next = false → P (pure ch)) :
    P (ch.become next reason resumed) := by
  unfold become
  split
  · exact goes ‹_›
  · exact stays (Bool.eq_false_iff.mpr ‹_›)

@[elab_as_elim]
theorem take_cases {p : Presence}
    (news : ∀ event, (ch.roster.put p).2 = some event →
      P ({ ch with roster := (ch.roster.put p).1 }.announce event))
    (old : (ch.roster.put p).2 = none → P (pure { ch with roster := (ch.roster.put p).1 })) :
    P (ch.take p) := by
  unfold take
  dsimp only
  split
  · exact news _ ‹_›
  · exact old ‹_›

end Channel

namespace Client

section Channels

variable {ch : Channel} {P : Logged Channel → Prop}

/-- What a channel does when an attach of it begins. -/
def toAttaching (waiters : List Responder) (ch : Channel) : Logged Channel := do
  let ch ← (ch.awaitAttach waiters).failDetachWaiters Cause.detachSuperseded.info
  ch.become .attaching none false

/-- What a channel does when the server is asked to detach it. -/
def toDetaching (waiter : Responder) (ch : Channel) : Logged Channel := do
  let ch ← ch.failAttachWaiters Cause.detachedWhileAttaching.info
  (ch.awaitDetach waiter).become .detaching none false

/-- What a channel does on an error that is fatal to it. -/
def toFailed (error : ErrorInfo) (ch : Channel) : Logged Channel := do
  let ch ← { ch with timer := none, serial := none }.become .failed (some error) false
  { ch with roster := ch.roster.reset }.failWaiters error

/-- What a channel does when it is suspended, with the alarm that is set then. -/
def toSuspended (reason : ErrorInfo) (alarm : Option (Alarm Channel.Timer)) (ch : Channel) :
    Logged Channel := do
  let ch ← ch.become .suspended (some reason) false
  let ch ← ch.failWaiters reason
  pure { ch with timer := alarm }

/-- A channel is suspended if there is a way. -/
def suspendedChannel (reason : ErrorInfo) (alarm : Option (Alarm Channel.Timer)) (ch : Channel) :
    Logged Channel :=
  if ch.state.canBecome .suspended then toSuspended reason alarm ch else pure ch

@[elab_as_elim]
theorem suspendedChannel_cases {reason : ErrorInfo} {alarm : Option (Alarm Channel.Timer)}
    (suspends : ch.state.canBecome .suspended = true → P (toSuspended reason alarm ch))
    (stays : ch.state.canBecome .suspended = false → P (pure ch)) :
    P (suspendedChannel reason alarm ch) := by
  unfold suspendedChannel
  split
  · exact suspends ‹_›
  · exact stays (Bool.eq_false_iff.mpr ‹_›)

/-- What a channel does when it has lost its attach on the server, to attach again. -/
def toAttachingAgain (now : Instant) (error : Option ErrorInfo) (ch : Channel) : Logged Channel :=
  { ch with reattachedAt := some now }.become .attaching error false

/-- What a channel does with a page of a sync. -/
def syncedChannel (m : Message) (ch : Channel) : Logged Channel :=
  if ch.state == .attached then takePage m ch else pure ch

/-- What a channel does first when the server attaches it: those who waited for that are told,
and a sync begins. -/
def toAttached (m : Message) (ch : Channel) : Logged Channel := do
  let ch ← { ch with
      serial := m.channelSerial <|> ch.serial
      timer := none
      reattachedAt := none }.become .attached m.error (m.has .resumed)
  let ch ← ch.attachDone
  pure { ch with roster := ch.roster.startSync }

/-- The sync is over at once if nobody is present. -/
@[elab_as_elim]
theorem attachedChannel_cases {m : Message}
    (peopled : m.has .hasPresence = true →
      P (toAttached m ch >>= fun ch => ch.answerUnsyncedGets))
    (empty : m.has .hasPresence = false →
      P (toAttached m ch >>= fun ch => ch.endSync m.timestamp >>= fun ch => ch.answerGets)) :
    P (attachedChannel m ch) := by
  cases h : m.has .hasPresence with
  | true =>
    have heq : attachedChannel m ch = toAttached m ch >>= fun ch => ch.answerUnsyncedGets := by
      unfold attachedChannel toAttached
      simp only [h, if_true, bind_assoc, pure_bind]
    exact heq ▸ peopled h
  | false =>
    have heq : attachedChannel m ch = toAttached m ch >>= fun ch =>
        ch.endSync m.timestamp >>= fun ch => ch.answerGets := by
      unfold attachedChannel toAttached
      simp only [h, Bool.false_eq_true, if_false, bind_assoc, pure_bind]
    exact heq ▸ empty h

/-- What a channel does with the records of a page of a sync. -/
def takeRecords (m : Message) (ch : Channel) : Logged Channel := do
  let ch ← (Presence.arrivals m).foldlM Channel.take { ch with roster := ch.roster.startSync }
  pure { ch with roster := ch.roster.setCursor m.channelSerial }

@[elab_as_elim]
theorem takePage_cases {m : Message}
    (more : isLastPage m.channelSerial = false → P (takeRecords m ch))
    (last : isLastPage m.channelSerial = true →
      P (takeRecords m ch >>= fun ch => ch.endSync m.timestamp >>= fun ch => ch.answerGets)) :
    P (takePage m ch) := by
  cases h : isLastPage m.channelSerial with
  | true =>
    have heq : takePage m ch = takeRecords m ch >>= fun ch =>
        ch.endSync m.timestamp >>= fun ch => ch.answerGets := by
      unfold takePage takeRecords
      simp only [h, if_true, bind_assoc, pure_bind]
    exact heq ▸ last h
  | false =>
    have heq : takePage m ch = takeRecords m ch := by
      unfold takePage takeRecords
      simp only [h, Bool.false_eq_true, if_false]
    exact heq ▸ more h

@[elab_as_elim]
theorem syncedChannel_cases {m : Message} (taken : ch.state = .attached → P (takePage m ch))
    (ignored : ch.state ≠ .attached → P (pure ch)) : P (syncedChannel m ch) := by
  unfold syncedChannel
  split
  · exact taken (beq_iff_eq.mp ‹_›)
  · exact ignored fun h => ‹¬_› (beq_iff_eq.mpr h)

@[elab_as_elim]
theorem takeLive_cases {c : Client} {p : Presence}
    (own : c.isOwn p = true → P ({ ch with roster := ch.roster.trackOwn p }.take p))
    (foreign : c.isOwn p = false → P (ch.take p)) : P (c.takeLive ch p) := by
  unfold takeLive
  split
  · exact own ‹_›
  · exact foreign (Bool.eq_false_iff.mpr ‹_›)

/-- Whether a record is one of its own is all that a client has to do with it. -/
theorem takeLive_congr {c d : Client} (h : d.connection.id = c.connection.id) :
    d.takeLive = c.takeLive := by
  funext ch p
  unfold takeLive isOwn
  rw [h]

@[elab_as_elim]
theorem detachOnClose_cases {error : ErrorInfo}
    (used : ch.state = .attached ∨ ch.state = .attaching ∨ ch.state = .detaching ∨
      ch.state = .suspended → P (ch.enterDetached none error))
    (unused : ch.state = .initialized ∨ ch.state = .detached ∨ ch.state = .failed →
      P (ch.failWaiters error)) :
    P (detachOnClose error ch) := by
  unfold detachOnClose
  cases hs : ch.state with
  | initialized => exact unused (.inl hs)
  | detached => exact unused (.inr (.inl hs))
  | failed => exact unused (.inr (.inr hs))
  | attached => exact used (.inl hs)
  | attaching => exact used (.inr (.inl hs))
  | detaching => exact used (.inr (.inr (.inl hs)))
  | suspended => exact used (.inr (.inr (.inr hs)))

end Channels

variable {c : Client} {name : String} {P : Logged Client → Prop}

/-! ## On a channel -/

@[elab_as_elim]
theorem onChannel_cases {f : Channel → Logged Channel}
    (absent : c.channel? name = none → P (pure c))
    (there : ∀ ch, c.channel? name = some ch →
      P (f ch >>= fun ch => pure (c.setChannel name ch))) :
    P (c.onChannel name f) := by
  unfold onChannel
  split
  · exact absent ‹_›
  · exact there _ ‹_›

theorem onChannel_of_none (h : c.channel? name = none) (f : Channel → Logged Channel) :
    c.onChannel name f = pure c := by
  unfold onChannel
  rw [h]

theorem onChannel_of_some {ch : Channel} (h : c.channel? name = some ch)
    (f : Channel → Logged Channel) :
    c.onChannel name f = f ch >>= fun ch => pure (c.setChannel name ch) := by
  unfold onChannel
  rw [h]

@[elab_as_elim]
theorem sendAttach_cases (absent : c.channel? name = none → P (pure c))
    (sent : ∀ ch, c.channel? name = some ch →
      P (transmit (Message.attach name none ch.serial) >>= fun _ =>
        pure (c.setChannelTimer name ch c.options.timing.requestTimeout .attachTimeout))) :
    P (c.sendAttach name) := by
  unfold sendAttach
  split
  · exact absent ‹_›
  · exact sent _ ‹_›

theorem sendAttach_of_some {ch : Channel} (h : c.channel? name = some ch) :
    c.sendAttach name = transmit (Message.attach name none ch.serial) >>= fun _ =>
      pure (c.setChannelTimer name ch c.options.timing.requestTimeout .attachTimeout) := by
  unfold sendAttach
  rw [h]

@[elab_as_elim]
theorem sendDetach_cases (absent : c.channel? name = none → P (pure c))
    (sent : ∀ ch, c.channel? name = some ch →
      P (transmit (Message.detach name) >>= fun _ =>
        pure (c.setChannelTimer name ch c.options.timing.requestTimeout .detachTimeout))) :
    P (c.sendDetach name) := by
  unfold sendDetach
  split
  · exact absent ‹_›
  · exact sent _ ‹_›

theorem sendDetach_of_some {ch : Channel} (h : c.channel? name = some ch) :
    c.sendDetach name = transmit (Message.detach name) >>= fun _ =>
      pure (c.setChannelTimer name ch c.options.timing.requestTimeout .detachTimeout) := by
  unfold sendDetach
  rw [h]

/-- The queue is kept until the channel is attached on a live link. -/
@[elab_as_elim]
theorem flushQueue_cases
    (kept : (∀ ch, c.channel? name = some ch → c.isConnected = true → ch.state ≠ .attached) →
      P (pure c))
    (sent : ∀ ch, c.channel? name = some ch → c.isConnected = true → ch.state = .attached →
      P (ch.queue.entries.foldlM (fun c e => c.sendForAck e.message e.responder)
        (c.setChannel name { ch with queue := {} }))) :
    P (c.flushQueue name) := by
  unfold flushQueue
  split
  · rename_i hnone
    exact kept fun ch hch => absurd (hnone.symm.trans hch) nofun
  · rename_i ch hch
    split
    · rename_i h
      obtain ⟨hup, hs⟩ : c.isConnected = true ∧ ch.state = .attached := by simpa using h
      exact sent ch hch hup hs
    · rename_i h
      refine kept fun ch' hch' hup hs => h ?_
      cases hch.symm.trans hch'
      simp [hup, hs]

@[elab_as_elim]
theorem beginAttach_cases {ch : Channel} {waiters : List Responder}
    (live : c.connection.state = .connected →
      P (toAttaching waiters ch >>= fun ch => (c.setChannel name ch).sendAttach name))
    (first : c.connection.state = .initialized →
      P (toAttaching waiters ch >>= fun ch => (c.setChannel name ch).connect))
    (down : c.connection.state ≠ .connected → c.connection.state ≠ .initialized →
      P (toAttaching waiters ch >>= fun ch => pure (c.setChannel name ch))) :
    P (c.beginAttach name ch waiters) := by
  unfold beginAttach
  rw [← bind_assoc]
  cases hs : c.connection.state with
  | connected =>
    exact cast (congrArg P (Logged.bind_congr (by simp only [setChannel, hs]))) (live hs)
  | initialized =>
    exact cast (congrArg P (Logged.bind_congr (by simp only [setChannel, hs]))) (first hs)
  | _ =>
    exact cast (congrArg P (Logged.bind_congr (by simp only [setChannel, hs])))
      (down (by simp [hs]) (by simp [hs]))

@[elab_as_elim]
theorem attachChannel_cases {waiters : List Responder}
    (done : (c.channelOrNew name).state = .attached →
      P (tell (Channel.succeedEach waiters) >>= fun _ => pure (c.ensureChannel name)))
    (joins : (c.channelOrNew name).state = .attaching →
      P (pure ((c.ensureChannel name).setChannel name
        ((c.channelOrNew name).awaitAttach waiters))))
    (refused : ∀ error, c.attachRefusal = some error →
      P (tell (Channel.failEach waiters error) >>= fun _ => pure (c.ensureChannel name)))
    (begins : (c.channelOrNew name).state ≠ .attached → (c.channelOrNew name).state ≠ .attaching →
      c.attachRefusal = none →
        P ((c.ensureChannel name).beginAttach name (c.channelOrNew name) waiters)) :
    P (c.attachChannel name waiters) := by
  unfold attachChannel
  dsimp only
  split
  · exact done ‹_›
  · exact joins ‹_›
  · split
    · exact refused _ ‹_›
    · exact begins ‹_› ‹_› ‹_›

@[elab_as_elim]
theorem detachChannel_cases {waiter : Responder}
    (idle : (c.channelOrNew name).state = .initialized ∨ (c.channelOrNew name).state = .detached →
      P (tell waiter.succeed >>= fun _ => pure (c.ensureChannel name)))
    (failed : (c.channelOrNew name).state = .failed →
      P (tell (waiter.fail (Cause.channelState .detach .failed).info) >>= fun _ =>
        pure (c.ensureChannel name)))
    (joins : (c.channelOrNew name).state = .detaching →
      P (pure ((c.ensureChannel name).setChannel name ((c.channelOrNew name).awaitDetach waiter))))
    (atOnce : (c.channelOrNew name).state = .suspended ∨ c.isConnected = false ∧
        ((c.channelOrNew name).state = .attaching ∨ (c.channelOrNew name).state = .attached) →
      P ((c.ensureChannel name).onChannel name fun ch =>
        (ch.awaitDetach waiter).enterDetached none Cause.channelDetached.info))
    (asks : c.isConnected = true →
      (c.channelOrNew name).state = .attaching ∨ (c.channelOrNew name).state = .attached →
        P (toDetaching waiter (c.channelOrNew name) >>= fun ch =>
          ((c.ensureChannel name).setChannel name ch).sendDetach name)) :
    P (c.detachChannel name waiter) := by
  have hused : (c.channelOrNew name).state = .attaching ∨
      (c.channelOrNew name).state = .attached → P (if (c.ensureChannel name).isConnected then do
        let ch ← (c.channelOrNew name).failAttachWaiters Cause.detachedWhileAttaching.info
        let ch ← (ch.awaitDetach waiter).become .detaching none false
        ((c.ensureChannel name).setChannel name ch).sendDetach name
      else (c.ensureChannel name).onChannel name fun ch =>
        (ch.awaitDetach waiter).enterDetached none Cause.channelDetached.info) := by
    intro hs
    split
    · rename_i hup
      rw [← bind_assoc]
      exact asks hup hs
    · rename_i hdown
      exact atOnce (.inr ⟨Bool.eq_false_iff.mpr hdown, hs⟩)
  unfold detachChannel
  dsimp only
  split
  · exact idle (.inl ‹_›)
  · exact idle (.inr ‹_›)
  · exact failed ‹_›
  · exact joins ‹_›
  · exact atOnce (.inl ‹_›)
  · exact hused (.inr ‹_›)
  · exact hused (.inl ‹_›)

/-- The server is told of the release if it may have the channel attached. -/
@[elab_as_elim]
theorem releaseChannel_cases (absent : c.channel? name = none → P (pure c))
    (released : ∀ ch (farewell : Logged Unit), c.channel? name = some ch →
      farewell = pure () ∨ farewell = transmit (Message.detach name) ∧ c.isConnected = true ∧
        (ch.state = .attached ∨ ch.state = .attaching) →
      P (ch.failWaiters Cause.channelReleased.info >>= fun _ =>
        { c with channels := c.channels.erase name }.failPendingOf name
          Cause.channelReleased.info >>= fun c => farewell >>= fun _ => pure c)) :
    P (c.releaseChannel name) := by
  unfold releaseChannel
  split
  · exact absent ‹_›
  · rename_i ch hch
    by_cases h : c.isConnected = true ∧ (ch.state = .attached ∨ ch.state = .attaching)
    · have hp := released ch _ hch (.inr ⟨rfl, h⟩)
      refine cast (congrArg P (Logged.bind_congr (Logged.bind_congr ?_))) hp
      exact (if_pos (by simpa [failPendingOf, isConnected] using h)).symm
    · have hp := released ch _ hch (.inl rfl)
      refine cast (congrArg P (Logged.bind_congr (Logged.bind_congr ?_))) hp
      exact (if_neg (by simpa [failPendingOf, isConnected] using h)).symm

/-! ## Failing and suspending -/

@[elab_as_elim]
theorem failChannel_cases {error : ErrorInfo}
    (idle : (∀ ch, c.channel? name = some ch → ch.state = .failed) → P (pure c))
    (fails : ∀ ch, c.channel? name = some ch → ch.state ≠ .failed →
      P (toFailed error ch >>= fun ch => (c.setChannel name ch).failPendingOf name error)) :
    P (c.failChannel name error) := by
  unfold failChannel
  split
  · rename_i hnone
    exact idle fun ch hch => absurd (hnone.symm.trans hch) nofun
  · rename_i ch hch
    split
    · rename_i hs
      refine idle fun ch' hch' => ?_
      cases hch.symm.trans hch'
      exact beq_iff_eq.mp hs
    · rename_i hs
      rw [← bind_assoc]
      exact fails ch hch fun h => hs (beq_iff_eq.mpr h)

/-- The alarm of a channel that is suspended: it may be left to the connection. -/
def retryAlarm (c : Client) (retry : Bool) : Option (Alarm Channel.Timer) :=
  if retry then some (Alarm.after c.clock c.options.timing.channelRetry .reattach) else none

theorem suspendChannel_eq (reason : ErrorInfo) (retry : Bool) :
    c.suspendChannel name reason retry =
      c.onChannel name (suspendedChannel reason (c.retryAlarm retry)) := rfl

@[elab_as_elim]
theorem suspendUnder_cases {error : ErrorInfo} (absent : c.channel? name = none → P (pure c))
    (used : ∀ ch, c.channel? name = some ch → ch.state = .attached ∨ ch.state = .attaching →
      P (c.suspendChannel name error false))
    (unused : ∀ ch, c.channel? name = some ch → ch.state ≠ .attached → ch.state ≠ .attaching →
      P (c.onChannel name fun ch => ch.failQueue error)) :
    P (suspendUnder error c name) := by
  unfold suspendUnder
  split
  · exact absent ‹_›
  · rename_i ch hch
    split
    · exact used ch hch (.inl ‹_›)
    · exact used ch hch (.inr ‹_›)
    · exact unused ch hch ‹_› ‹_›

@[elab_as_elim]
theorem failUnder_cases {error : ErrorInfo} (absent : c.channel? name = none → P (pure c))
    (used : ∀ ch, c.channel? name = some ch → ch.state = .attaching ∨ ch.state = .attached ∨
      ch.state = .detaching ∨ ch.state = .suspended → P (c.failChannel name error))
    (unused : ∀ ch, c.channel? name = some ch → ch.state ≠ .attaching → ch.state ≠ .attached →
      ch.state ≠ .detaching → ch.state ≠ .suspended →
        P (c.onChannel name fun ch => ch.failQueue error)) :
    P (failUnder error c name) := by
  unfold failUnder
  split
  · exact absent ‹_›
  · rename_i ch hch
    split
    · exact used ch hch (.inl ‹_›)
    · exact used ch hch (.inr (.inl ‹_›))
    · exact used ch hch (.inr (.inr (.inl ‹_›)))
    · exact used ch hch (.inr (.inr (.inr ‹_›)))
    · exact unused ch hch ‹_› ‹_› ‹_› ‹_›

/-! ## What the server says -/

/-- An attach that is accepted changes the channel, and sends on a live link. -/
theorem onAttached_eq {ch : Channel} {m : Message} (hm : m.channel = some name)
    (hch : c.channel? name = some ch) (ha : acceptsAttached ch = true) :
    c.onAttached m = attachedChannel m ch >>= fun after =>
      if c.isConnected then
        (if m.has .resumed then [] else after.roster.ownMembers).foldlM (reenter name)
          (c.setChannel name after) >>= fun c => c.flushQueue name
      else pure (c.setChannel name after) := by
  unfold onAttached
  rw [hm]
  dsimp only
  rw [hch]
  dsimp only
  rw [if_pos ha]
  rfl

/-- Nothing comes of an attach of a channel that is not there, or does not wait for it. -/
theorem onAttached_of_ignored {m : Message}
    (h : ∀ name, m.channel = some name → (c.channel? name).any acceptsAttached = false) :
    c.onAttached m = pure c := by
  unfold onAttached
  split
  · rfl
  · rename_i name hm
    have hno := h name hm
    split
    · rfl
    · rename_i ch hch
      rw [hch] at hno
      exact if_neg (Bool.eq_false_iff.mp hno)

theorem onAttached_of_none {m : Message} (hm : m.channel = none) : c.onAttached m = pure c :=
  onAttached_of_ignored fun _ hname => absurd (hm.symm.trans hname) nofun

@[elab_as_elim]
theorem onAttached_cases {m : Message}
    (ignored : (∀ name, m.channel = some name → (c.channel? name).any acceptsAttached = false) →
      P (pure c))
    (live : ∀ name ch, m.channel = some name → c.channel? name = some ch →
      acceptsAttached ch = true → c.isConnected = true → P (attachedChannel m ch >>= fun ch =>
        (if m.has .resumed then [] else ch.roster.ownMembers).foldlM (reenter name)
          (c.setChannel name ch) >>= fun c => c.flushQueue name))
    (down : ∀ name ch, m.channel = some name → c.channel? name = some ch →
      acceptsAttached ch = true → c.isConnected = false →
        P (attachedChannel m ch >>= fun ch => pure (c.setChannel name ch))) :
    P (c.onAttached m) := by
  by_cases h : ∃ name, m.channel = some name ∧ (c.channel? name).any acceptsAttached = true
  · obtain ⟨name, hm, hany⟩ := h
    obtain ⟨ch, hch, ha⟩ := (Option.any_eq_true _ _).mp hany
    rw [onAttached_eq hm hch ha]
    cases hup : c.isConnected with
    | true => exact live name ch hm hch ha hup
    | false => exact down name ch hm hch ha hup
  · have hno : ∀ name, m.channel = some name → (c.channel? name).any acceptsAttached = false :=
      fun name hm => Bool.eq_false_iff.mpr fun hany => h ⟨name, hm, hany⟩
    rw [onAttached_of_ignored hno]
    exact ignored hno

@[elab_as_elim]
theorem reattach_cases {ch : Channel} {error : Option ErrorInfo}
    (soon : P (c.suspendChannel name (error.getD Cause.channelDetached.info) true))
    (live : c.isConnected = true → P (toAttachingAgain c.clock error ch >>= fun ch =>
      (c.setChannel name ch).sendAttach name))
    (down : c.isConnected = false → P (toAttachingAgain c.clock error ch >>= fun ch =>
      pure (c.setChannel name ch))) :
    P (c.reattach name ch error) := by
  unfold reattach
  dsimp only
  split
  · exact soon
  · cases hup : c.isConnected with
    | true => exact cast (congrArg P (Logged.bind_congr (if_pos hup).symm)) (live hup)
    | false =>
      exact cast (congrArg P (Logged.bind_congr (if_neg (Bool.eq_false_iff.mp hup)).symm))
        (down hup)

@[elab_as_elim]
theorem onDetached_cases {m : Message}
    (ignored : (∀ name ch, m.channel = some name → c.channel? name = some ch →
      ch.state ≠ .detaching ∧ ch.state ≠ .attached ∧ ch.state ≠ .attaching) → P (pure c))
    (awaited : ∀ name ch, m.channel = some name → c.channel? name = some ch →
      ch.state = .detaching → P (c.onChannel name fun ch =>
        ch.enterDetached m.error (m.error.getD Cause.channelDetached.info)))
    (again : ∀ name ch, m.channel = some name → c.channel? name = some ch →
      ch.state = .attaching ∨ ch.state = .attached → P (c.reattach name ch m.error))
    (fatal : ∀ name ch error, m.channel = some name → c.channel? name = some ch →
      ch.state = .attaching ∨ ch.state = .attached → m.error = some error →
        error.isRetriable = false → P (c.failChannel name error)) :
    P (c.onDetached m) := by
  unfold onDetached
  split
  · rename_i hm
    exact ignored fun name ch hname => absurd (hm.symm.trans hname) nofun
  · rename_i name hm
    split
    · rename_i hnone
      refine ignored fun name' ch hname hch => ?_
      cases hm.symm.trans hname
      exact absurd (hnone.symm.trans hch) nofun
    · rename_i ch hch
      split
      · exact awaited name ch hm hch ‹_›
      any_goals
        rename_i hs
        have hused : ch.state = .attaching ∨ ch.state = .attached := by simp [hs]
        split
        · rename_i error he
          split
          · exact again name ch hm hch hused
          · exact fatal name ch error hm hch hused he (Bool.eq_false_iff.mpr ‹_›)
        · rename_i he
          exact he ▸ again name ch hm hch hused
      rename_i h1 h2 h3
      refine ignored fun name' ch' hname hch' => ?_
      cases hm.symm.trans hname
      cases hch.symm.trans hch'
      exact ⟨h1, h2, h3⟩

/-- A channel in use fails where the server detaches it for good. -/
theorem onDetached_of_fatal {ch : Channel} {m : Message} {error : ErrorInfo}
    (hm : m.channel = some name) (hch : c.channel? name = some ch)
    (hs : ch.state = .attaching ∨ ch.state = .attached) (he : m.error = some error)
    (hfatal : error.isRetriable = false) : c.onDetached m = c.failChannel name error := by
  unfold onDetached
  rw [hm]
  dsimp only
  rw [hch]
  dsimp only
  rw [he]
  have hno : ¬error.isRetriable = true := Bool.eq_false_iff.mp hfatal
  rcases hs with hs | hs
  all_goals
    rw [hs]
    exact if_neg hno

theorem onDetached_of_none {m : Message} (hm : m.channel = none) : c.onDetached m = pure c := by
  unfold onDetached
  rw [hm]

theorem onSync_of_some {m : Message} (hm : m.channel = some name) :
    c.onSync m = c.onChannel name (syncedChannel m) := by
  unfold onSync
  rw [hm]
  rfl

theorem onPresence_of_some {m : Message} (hm : m.channel = some name) :
    c.onPresence m = c.onChannel name fun ch => (Presence.arrivals m).foldlM c.takeLive ch := by
  unfold onPresence
  rw [hm]

theorem onSync_of_none {m : Message} (hm : m.channel = none) : c.onSync m = pure c := by
  unfold onSync
  rw [hm]

theorem onPresence_of_none {m : Message} (hm : m.channel = none) : c.onPresence m = pure c := by
  unfold onPresence
  rw [hm]

@[elab_as_elim]
theorem onSync_cases {m : Message} (nowhere : m.channel = none → P (pure c))
    (there : ∀ name, m.channel = some name → P (c.onChannel name (syncedChannel m))) :
    P (c.onSync m) := by
  cases hm : m.channel with
  | none =>
    rw [onSync_of_none hm]
    exact nowhere hm
  | some name =>
    rw [onSync_of_some hm]
    exact there name hm

@[elab_as_elim]
theorem onPresence_cases {m : Message} (nowhere : m.channel = none → P (pure c))
    (there : ∀ name, m.channel = some name →
      P (c.onChannel name fun ch => (Presence.arrivals m).foldlM c.takeLive ch)) :
    P (c.onPresence m) := by
  cases hm : m.channel with
  | none =>
    rw [onPresence_of_none hm]
    exact nowhere hm
  | some name =>
    rw [onPresence_of_some hm]
    exact there name hm

/-- A channel that was attached asks for what it has missed, or attaches anew. -/
@[elab_as_elim]
theorem onLinkUp_cases {resumed : Bool}
    (idle : (∀ ch, c.channel? name = some ch →
      ch.state = .initialized ∨ ch.state = .detached ∨ ch.state = .failed) → P (pure c))
    (attaches : ∀ ch, c.channel? name = some ch → ch.state = .attaching → P (c.sendAttach name))
    (detaches : ∀ ch, c.channel? name = some ch → ch.state = .detaching → P (c.sendDetach name))
    (goesOn : ∀ ch (asks : Logged Unit), c.channel? name = some ch → ch.state = .attached →
      resumed = true →
      asks = pure () ∧ (ch.roster.isSyncing = true → ch.roster.cursor = none) ∨
        (∃ cursor, ch.roster.isSyncing = true ∧ ch.roster.cursor = some cursor ∧
          asks = transmit (Message.sync name cursor)) →
      P (asks >>= fun _ => c.flushQueue name))
    (anew : ∀ ch, c.channel? name = some ch →
      ch.state = .attached ∧ resumed = false ∨ ch.state = .suspended →
      P (c.onChannel name (fun ch => ch.become .attaching none false) >>= fun c =>
        c.sendAttach name)) :
    P (c.onLinkUp resumed name) := by
  unfold onLinkUp
  split
  · rename_i hnone
    exact idle fun ch hch => absurd (hnone.symm.trans hch) nofun
  · rename_i ch hch
    cases hs : ch.state with
    | attaching => exact attaches ch hch hs
    | detaching => exact detaches ch hch hs
    | attached =>
      cases resumed with
      | true =>
        dsimp only
        rw [if_pos rfl]
        split
        · rename_i cursor hsyncing hcursor
          exact goesOn ch _ hch hs rfl (.inr ⟨cursor, hsyncing, hcursor, rfl⟩)
        · rename_i hno
          refine goesOn ch (pure ()) hch hs rfl (.inl ⟨rfl, fun hsyncing => ?_⟩)
          cases hcursor : ch.roster.cursor with
          | none => rfl
          | some cursor => exact (hno cursor hsyncing hcursor).elim
      | false => exact anew ch hch (.inl ⟨hs, rfl⟩)
    | suspended => exact anew ch hch (.inr hs)
    | _ =>
      refine idle fun ch' hch' => ?_
      cases hch.symm.trans hch'
      simp [hs]

/-! ## Timers -/

@[elab_as_elim]
theorem onChannelTimer_cases
    (unset : (∀ ch, c.channel? name = some ch → ch.timer = none) → P (pure c))
    (attach : ∀ ch alarm, c.channel? name = some ch → ch.timer = some alarm →
      alarm.kind = .attachTimeout → P ((c.setChannel name { ch with timer := none }).suspendChannel
        name Cause.attachTimedOut.info true))
    (detach : ∀ ch alarm, c.channel? name = some ch → ch.timer = some alarm →
      alarm.kind = .detachTimeout → c.isConnected = true →
        P ((c.setChannel name { ch with timer := none }).onChannel name detachTimedOut))
    (reattach : ∀ ch alarm, c.channel? name = some ch → ch.timer = some alarm →
      alarm.kind = .reattach → ch.state = .suspended → c.isConnected = true →
        P ((c.setChannel name { ch with timer := none }).attachChannel name []))
    (gone : ∀ ch alarm, c.channel? name = some ch → ch.timer = some alarm →
      alarm.kind = .detachTimeout ∧ c.isConnected = false ∨
        alarm.kind = .reattach ∧ ¬(ch.state = .suspended ∧ c.isConnected = true) →
      P (pure (c.setChannel name { ch with timer := none }))) :
    P (c.onChannelTimer name) := by
  unfold onChannelTimer
  split
  · rename_i hnone
    exact unset fun ch hch => absurd (hnone.symm.trans hch) nofun
  · rename_i ch hch
    split
    · rename_i ht
      refine unset fun ch' hch' => ?_
      cases hch.symm.trans hch'
      exact ht
    · rename_i alarm ht
      dsimp only
      split
      · exact attach ch alarm hch ht ‹_›
      · rename_i hk
        split
        · exact detach ch alarm hch ht hk ‹_›
        · exact gone ch alarm hch ht (.inl ⟨hk, Bool.eq_false_iff.mpr ‹_›⟩)
      · rename_i hk
        split
        · rename_i h
          obtain ⟨hs, hup⟩ := Bool.and_eq_true_iff.mp h
          exact reattach ch alarm hch ht hk (beq_iff_eq.mp hs) hup
        · rename_i h
          refine gone ch alarm hch ht (.inr ⟨hk, fun hand => h ?_⟩)
          rw [Bool.and_eq_true, beq_iff_eq]
          exact hand

/-- An attach that has come to its time suspends its channel, link or no link. -/
theorem onChannelTimer_of_attach {ch : Channel} {alarm : Alarm Channel.Timer}
    (hch : c.channel? name = some ch) (ht : ch.timer = some alarm)
    (hk : alarm.kind = .attachTimeout) :
    c.onChannelTimer name = (c.setChannel name { ch with timer := none }).suspendChannel name
      Cause.attachTimedOut.info true := by
  unfold onChannelTimer
  rw [hch]
  dsimp only
  rw [ht]
  dsimp only
  rw [hk]

/-! ## Members and listeners -/

@[elab_as_elim]
theorem queueMessage_cases {m : Message} {ticket : Ticket}
    (attaches : (c.channelOrNew name).state = .initialized ∨
        (c.channelOrNew name).state = .detached ∨ (c.channelOrNew name).state = .detaching →
      P ((c.setChannel name { c.channelOrNew name with
        queue := (c.channelOrNew name).queue.enqueue m (.caller ticket) }).attachChannel name []))
    (waits : (c.channelOrNew name).state ≠ .initialized → (c.channelOrNew name).state ≠ .detached →
      (c.channelOrNew name).state ≠ .detaching →
      P (pure (c.setChannel name { c.channelOrNew name with
        queue := (c.channelOrNew name).queue.enqueue m (.caller ticket) }))) :
    P (c.queueMessage name m ticket) := by
  unfold queueMessage
  dsimp only
  split
  · exact attaches (.inl ‹_›)
  · exact attaches (.inr (.inl ‹_›))
  · exact attaches (.inr (.inr ‹_›))
  · exact waits ‹_› ‹_› ‹_›

/-- An operation that cannot be taken is refused at once. -/
@[elab_as_elim]
theorem publish_cases {action : Presence.Action} {clientId : Option String} {data : Payload}
    {ticket : Ticket}
    (anonymous : (clientId <|> c.options.clientId) = none →
      P (refuse ticket .missingClientId >>= fun _ => pure c))
    (refused : ∀ error, (c.channelOrNew name).state = .failed ∨
        (c.channelOrNew name).state = .suspended ∨ c.takesOperations = false →
      P (answer ticket (.failed (.service error)) >>= fun _ => pure (c.ensureChannel name)))
    (sent : ∀ id, (clientId <|> c.options.clientId) = some id → c.takesOperations = true →
      (c.channelOrNew name).state = .attached → c.isConnected = true →
        P ((c.ensureChannel name).sendForAck (Message.publish name action id data)
          (.caller ticket)))
    (queued : ∀ id, (clientId <|> c.options.clientId) = some id → c.takesOperations = true →
      (c.channelOrNew name).state ≠ .failed → (c.channelOrNew name).state ≠ .suspended →
        ¬((c.channelOrNew name).state = .attached ∧ c.isConnected = true) →
          P ((c.ensureChannel name).queueMessage name (Message.publish name action id data)
            ticket)) :
    P (c.publish name action clientId data ticket) := by
  unfold publish
  split
  · exact anonymous ‹_›
  · rename_i id hid
    dsimp only
    split
    · rename_i hs
      exact refused _ (hs.imp_right .inl)
    · rename_i hs
      split
      · rename_i htakes
        have htakes : (c.ensureChannel name).takesOperations = false := by simpa using htakes
        exact refused _ (.inr (.inr htakes))
      · rename_i htakes
        have htakes : (c.ensureChannel name).takesOperations = true := by simpa using htakes
        split
        · rename_i hnow
          exact sent id hid htakes hnow.1 hnow.2
        · rename_i hlater
          exact queued id hid htakes (fun h => hs (.inl h)) (fun h => hs (.inr h)) hlater

@[elab_as_elim]
theorem getMembers_cases {query : MemberQuery} {ticket : Ticket}
    (refused : ∀ error, (c.channelOrNew name).state = .failed ∨
        (c.channelOrNew name).state = .suspended ∧ query.waitForSync = true →
      P (answer ticket (.failed (.service error)) >>= fun _ => pure (c.ensureChannel name)))
    (served : (c.channelOrNew name).state = .suspended ∧ query.waitForSync = false ∨
        (c.channelOrNew name).state = .attached ∧
          ((c.channelOrNew name).roster.isComplete = true ∨ query.waitForSync = false) →
      P (answer ticket (.members ((c.channelOrNew name).roster.select query)) >>= fun _ =>
        pure (c.ensureChannel name)))
    (parked : (c.channelOrNew name).state = .attaching ∨ (c.channelOrNew name).state = .attached ∧
        (c.channelOrNew name).roster.isComplete = false ∧ query.waitForSync = true →
      P (pure ((c.ensureChannel name).parkGet name query ticket)))
    (declined : ∀ error, (c.channelOrNew name).state = .initialized ∨
        (c.channelOrNew name).state = .detached ∨ (c.channelOrNew name).state = .detaching →
      c.attachRefusal = some error →
        P (((c.ensureChannel name).parkGet name query ticket).onChannel name fun ch =>
          ch.failGets error))
    (attaches : (c.channelOrNew name).state = .initialized ∨
        (c.channelOrNew name).state = .detached ∨ (c.channelOrNew name).state = .detaching →
      c.attachRefusal = none →
        P (((c.ensureChannel name).parkGet name query ticket).attachChannel name [])) :
    P (c.getMembers name query ticket) := by
  unfold getMembers
  dsimp only
  split
  · exact refused _ (.inl ‹_›)
  · rename_i hs
    cases hwait : query.waitForSync with
    | true => exact refused _ (.inr ⟨hs, hwait⟩)
    | false => exact served (.inl ⟨hs, hwait⟩)
  · rename_i hs
    split
    · rename_i hready
      refine served (.inr ⟨hs, ?_⟩)
      simpa using hready
    · rename_i hready
      refine parked (.inr ⟨hs, ?_⟩)
      simpa using hready
  · exact parked (.inl ‹_›)
  all_goals
    rename_i hs
    split
    · exact declined _ (by simp [hs]) ‹_›
    · exact attaches (by simp [hs]) ‹_›

@[elab_as_elim]
theorem subscribe_cases {filter : Option Presence.Action} {ticket : Ticket}
    (refused : ∀ error, (c.channelOrNew name).state = .failed ∨ c.attachRefusal = some error →
      P (answer ticket (.failed (.service error)) >>= fun _ => pure (c.ensureChannel name)))
    (attaches : (c.channelOrNew name).state = .initialized ∨
        (c.channelOrNew name).state = .detached → c.attachRefusal = none →
      P ((c.ensureChannel name).attachChannel name [] >>= fun c =>
        c.addPresenceListener name filter ticket))
    (listens : (c.channelOrNew name).state ≠ .failed → (c.channelOrNew name).state ≠ .initialized →
      (c.channelOrNew name).state ≠ .detached →
        P ((c.ensureChannel name).addPresenceListener name filter ticket)) :
    P (c.subscribe name filter ticket) := by
  unfold subscribe
  dsimp only
  split
  · exact refused _ (.inl ‹_›)
  any_goals
    rename_i hs
    split
    · exact refused _ (.inr ‹_›)
    · exact attaches (by simp [hs]) ‹_›
  exact listens ‹_› ‹_› ‹_›

end Client

end PresenceClient
