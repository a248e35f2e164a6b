-- How far work on one channel reaches. It leaves the records of all other channels as they are,
-- and what awaits an acknowledgement on them, in its order. A channel does nothing to the link
-- by itself; only the first attach of a client opens one, by connecting.
import PresenceClient.Proofs.LinkHistory
import PresenceClient.Proofs.MemberTurns

namespace PresenceClient

open Logged (tell)

/-! ## What channels do to the link -/

@[simp] theorem relinked_resolve (r : Responder) (reply : Reply) :
    relinked (r.resolve reply) = [] := by cases r <;> rfl

@[simp] theorem relinked_resolveEach {α : Type} (xs : List α) (f : α → Responder) (reply : Reply) :
    relinked (xs.flatMap fun x => (f x).resolve reply) = [] := by
  induction xs with
  | nil => rfl
  | cons x rest ih => simp only [List.flatMap_cons, relinked_append, relinked_resolve, ih,
      List.append_nil]

@[simp] theorem relinked_failEach (waiters : List Responder) (e : ErrorInfo) :
    relinked (Channel.failEach waiters e) = [] := relinked_resolveEach waiters id _

@[simp] theorem relinked_succeedEach (waiters : List Responder) :
    relinked (Channel.succeedEach waiters) = [] := relinked_resolveEach waiters id .done

@[simp] theorem relinked_failures (q : Queue) (e : ErrorInfo) : relinked (q.failures e) = [] :=
  relinked_resolveEach q.entries _ _

@[simp] theorem relinked_answerEach (gets : List PendingGet) (f : PendingGet → Reply) :
    relinked (gets.map fun g => Channel.answerGet g (f g)) = [] := by
  induction gets with
  | nil => rfl
  | cons g rest ih => exact ih

@[simp] theorem relinked_publish {κ : Type} [DecidableEq κ] (r : Listener.Registry κ) (kind : κ)
    (n : Notice) : relinked (r.publish kind n).log = [] := by
  simp only [Listener.Registry.publish, Logged.log_bind, Logged.log_tell, Logged.log_pure,
    List.append_nil, relinked]
  induction r.recipients kind with
  | nil => rfl
  | cons id rest ih => exact ih

namespace Channel

variable (ch : Channel)

@[simp] theorem relinked_become (next : State) (reason : Option ErrorInfo) (resumed : Bool) :
    relinked (ch.become next reason resumed).log = [] :=
  become_cases (fun _ => by simp) fun _ => rfl

@[simp] theorem relinked_failWaiters (e : ErrorInfo) : relinked (ch.failWaiters e).log = [] := by
  simp [failWaiters]

@[simp] theorem relinked_failQueue (e : ErrorInfo) : relinked (ch.failQueue e).log = [] := by
  simp [failQueue, Queue.failAll]

@[simp] theorem relinked_attachDone : relinked ch.attachDone.log = [] := by simp [attachDone]

@[simp] theorem relinked_detachDone : relinked ch.detachDone.log = [] := by simp [detachDone]

@[simp] theorem relinked_failAttachWaiters (e : ErrorInfo) :
    relinked (ch.failAttachWaiters e).log = [] := by simp [failAttachWaiters]

@[simp] theorem relinked_failDetachWaiters (e : ErrorInfo) :
    relinked (ch.failDetachWaiters e).log = [] := by simp [failDetachWaiters]

@[simp] theorem relinked_failGets (e : ErrorInfo) : relinked (ch.failGets e).log = [] := by
  simp [failGets]

theorem relinked_answerNow (gets : List PendingGet) : relinked (gets.map ch.answerNow) = [] :=
  relinked_answerEach gets fun g => .members (ch.roster.select g.query)

@[simp] theorem relinked_answerGets : relinked ch.answerGets.log = [] := by
  simp [answerGets, relinked_answerNow]

@[simp] theorem relinked_answerUnsyncedGets : relinked ch.answerUnsyncedGets.log = [] := by
  simp [answerUnsyncedGets, relinked_answerNow]

@[simp] theorem relinked_announce (p : Presence) : relinked (ch.announce p).log = [] := by
  simp [announce]

theorem relinked_foldlM {α : Type} {f : Channel → α → Logged Channel}
    (hf : ∀ ch x, relinked (f ch x).log = []) (xs : List α) :
    relinked (xs.foldlM f ch).log = [] := by
  induction xs generalizing ch with
  | nil => rfl
  | cons x rest ih => simp [hf, ih]

@[simp] theorem relinked_take (p : Presence) : relinked (ch.take p).log = [] :=
  take_cases (fun _ _ => relinked_announce _ _) fun _ => rfl

@[simp] theorem relinked_takeLive (c : Client) (p : Presence) :
    relinked (c.takeLive ch p).log = [] := relinked_take _ p

@[simp] theorem relinked_endSync (timestamp : Option Int) :
    relinked (ch.endSync timestamp).log = [] := relinked_foldlM _ relinked_announce _

@[simp] theorem relinked_enterDetached (reason : Option ErrorInfo) (e : ErrorInfo) :
    relinked (ch.enterDetached reason e).log = [] := by simp [enterDetached]

@[simp] theorem relinked_detachTimedOut : relinked (Client.detachTimedOut ch).log = [] := by
  simp [Client.detachTimedOut]

@[simp] theorem relinked_detachOnClose (e : ErrorInfo) :
    relinked (Client.detachOnClose e ch).log = [] :=
  Client.detachOnClose_cases (fun _ => relinked_enterDetached ch none e)
    fun _ => relinked_failWaiters ch e

@[simp] theorem relinked_toAttaching (waiters : List Responder) :
    relinked (Client.toAttaching waiters ch).log = [] := by simp [Client.toAttaching]

@[simp] theorem relinked_toDetaching (waiter : Responder) :
    relinked (Client.toDetaching waiter ch).log = [] := by simp [Client.toDetaching]

@[simp] theorem relinked_toFailed (e : ErrorInfo) : relinked (Client.toFailed e ch).log = [] := by
  simp [Client.toFailed]

@[simp] theorem relinked_suspendedChannel (e : ErrorInfo) (alarm : Option (Alarm Timer)) :
    relinked (Client.suspendedChannel e alarm ch).log = [] :=
  Client.suspendedChannel_cases (fun _ => by simp [Client.toSuspended]) fun _ => rfl

@[simp] theorem relinked_toAttachingAgain (now : Instant) (e : Option ErrorInfo) :
    relinked (Client.toAttachingAgain now e ch).log = [] := relinked_become _ _ _ _

@[simp] theorem relinked_attachedChannel (m : Message) :
    relinked (Client.attachedChannel m ch).log = [] := by
  refine Client.attachedChannel_cases (fun _ => ?peopled) fun _ => ?empty
  all_goals simp [Client.toAttached]

@[simp] theorem relinked_takePage (m : Message) : relinked (Client.takePage m ch).log = [] := by
  refine Client.takePage_cases (fun _ => ?more) fun _ => ?last
  all_goals simp [Client.takeRecords, relinked_foldlM]

@[simp] theorem relinked_syncedChannel (m : Message) :
    relinked (Client.syncedChannel m ch).log = [] :=
  Client.syncedChannel_cases (fun _ => relinked_takePage ch m) fun _ => rfl

end Channel

/-! ## Scopes -/

/-- Some channels, and the channels whose unacknowledged messages may be touched. -/
structure Scope where
  names : String → Prop
  unacked : Option String → Bool

namespace Scope

/-- The channel of a name alone. -/
def ofChannel (name : String) : Scope :=
  ⟨fun other => other = name, fun channel => channel == some name⟩

/-- The channels that a client has, and whatever awaits an acknowledgement. -/
def present (c : Client) : Scope := ⟨fun name => (c.channel? name).isSome = true, fun _ => true⟩

/-- The channel of the name is in the scope, with what awaits an acknowledgement on it. -/
structure Covers (s : Scope) (name : String) : Prop where
  named : s.names name
  unacked : s.unacked (some name) = true

theorem covers_ofChannel (name : String) : (ofChannel name).Covers name := ⟨rfl, beq_self_eq_true _⟩

/-- Is an unacknowledged message in the scope? -/
def owns (s : Scope) (e : Unacked) : Bool := s.unacked e.message.channel

end Scope

namespace Pending

variable {p : Pending} {own test : Unacked → Bool}

/-- Without some entries, it is as if they had never come. -/
theorem without_push {serial : Int} {m : Message} {responder : Responder}
    (h : own ⟨serial, m, responder⟩ = true) :
    (p.push serial m responder).without own = p.without own := by
  simp [push, without, h]

/-- Settling some of the entries that are left out makes no difference. -/
theorem without_settle (h : ∀ e, test e = true → own e = true) (reply : Reply) :
    (p.settle test reply).value.without own = p.without own := by
  simp only [settle, without, List.filter_filter]
  congr 2
  funext e
  cases htest : test e with
  | true => simp [h e htest]
  | false => simp

end Pending

namespace Client

/-- What `r` makes of `c` stays within the scope: other channels, and what awaits an
acknowledgement elsewhere, are as they were. Whatever is done to the link fits the generations
of the connection. -/
structure Reaches (s : Scope) (c : Client) (r : Logged Client) : Prop where
  channels : ∀ other, ¬s.names other → r.value.channel? other = c.channel? other
  pending : r.value.pending.without s.owns = c.pending.without s.owns
  links : Relinks c.connection.generation (relinked r.log) r.value.connection.generation

section Rules

variable {s : Scope} {c d : Client} {r : Logged Client} {name : String} {ch : Channel}

theorem reaches_same (hch : d.channels = c.channels) (hp : d.pending = c.pending)
    (hg : d.connection.generation = c.connection.generation) : Reaches s c (pure d) := by
  refine ⟨fun other _ => channel?_of_channels hch other, congrArg (·.without s.owns) hp, ?_⟩
  show Relinks _ [] d.connection.generation
  rw [hg]
  exact .rest

theorem reaches_pure : Reaches s c (pure c) := reaches_same rfl rfl rfl

theorem reaches_bind {x : Logged Client} {f : Client → Logged Client} (h1 : Reaches s c x)
    (h2 : Reaches s x.value (f x.value)) : Reaches s c (x >>= f) := by
  refine ⟨fun other hn => (h2.channels other hn).trans (h1.channels other hn),
    h2.pending.trans h1.pending, ?_⟩
  rw [Logged.log_bind, relinked_append]
  exact relinks_append h1.links h2.links

/-- Only the channels, what awaits an acknowledgement and the generation matter. -/
theorem reaches_from (d : Client) (hch : d.channels = c.channels) (hp : d.pending = c.pending)
    (hg : d.connection.generation = c.connection.generation) (h : Reaches s d r) :
    Reaches s c r :=
  ⟨fun other hn => (h.channels other hn).trans (channel?_of_channels hch other),
    h.pending.trans (congrArg (·.without s.owns) hp), hg ▸ h.links⟩

/-- Effects that do nothing to the link may come first. -/
theorem reaches_quiet {α : Type} {x : Logged α} {f : α → Logged Client} (hx : relinked x.log = [])
    (h : Reaches s c (f x.value)) : Reaches s c (x >>= f) := by
  refine ⟨h.channels, h.pending, ?_⟩
  rw [Logged.log_bind, relinked_append, hx, List.nil_append]
  exact h.links

theorem reaches_set (hs : s.Covers name) (h : Reaches s (c.setChannel name ch) r) :
    Reaches s c r := by
  refine ⟨fun other hn => ?_, h.pending, h.links⟩
  have hne : other ≠ name := fun he => hn (he ▸ hs.named)
  exact (h.channels other hn).trans (channel?_setChannel_ne c name ch hne)

theorem reaches_put (hs : s.Covers name) : Reaches s c (pure (c.setChannel name ch)) :=
  reaches_set hs reaches_pure

theorem reaches_erase (hs : s.Covers name)
    (h : Reaches s { c with channels := c.channels.erase name } r) : Reaches s c r := by
  refine ⟨fun other hn => ?_, h.pending, h.links⟩
  have hne : other ≠ name := fun he => hn (he ▸ hs.named)
  exact (h.channels other hn).trans (Table.get?_erase_ne c.channels hne)

theorem reaches_ensure (hs : s.Covers name) (h : Reaches s (c.ensureChannel name) r) :
    Reaches s c r := reaches_set hs h

/-- What the channel does by itself comes first. -/
theorem reaches_channel {x : Logged Channel} {f : Channel → Logged Client} (hs : s.Covers name)
    (hx : relinked x.log = []) (h : Reaches s (c.setChannel name x.value) (f x.value)) :
    Reaches s c (x >>= f) := reaches_quiet hx (reaches_set hs h)

/-- A channel that is there is in the scope. -/
theorem covers_of_some (hs : (c.channel? name).isSome = true → s.Covers name)
    (hch : c.channel? name = some ch) : s.Covers name := hs (by simp [hch])

theorem reaches_onChannel {f : Channel → Logged Channel}
    (hs : (c.channel? name).isSome = true → s.Covers name)
    (hf : ∀ ch, relinked (f ch).log = []) : Reaches s c (c.onChannel name f) :=
  onChannel_cases (fun _ => reaches_pure) fun ch hch =>
    reaches_channel (covers_of_some hs hch) (hf ch) reaches_pure

theorem reaches_foldlM {α : Type} {f : Client → α → Logged Client} {xs : List α}
    (hf : ∀ d, ∀ x ∈ xs, Reaches s d (f d x)) : Reaches s c (xs.foldlM f c) := by
  induction xs generalizing c with
  | nil => exact reaches_pure
  | cons x rest ih =>
    exact reaches_bind (hf c x List.mem_cons_self) (ih fun d y hy =>
      hf d y (List.mem_cons_of_mem _ hy))

theorem reaches_settle {test : Unacked → Bool} {reply : Reply}
    (h : ∀ e, test e = true → s.owns e = true) : Reaches s c (do
      let pending ← c.pending.settle test reply
      pure { c with pending := pending }) :=
  reaches_quiet (relinked_resolveEach _ _ _)
    ⟨fun _ _ => rfl, Pending.without_settle h reply, .rest⟩

end Rules

section Channels

variable {s : Scope} {c : Client} {name : String} {ch : Channel}

/-! ## Sending and connecting -/

theorem reaches_sendForAck {m : Message} (hm : s.unacked m.channel = true) (responder : Responder) :
    Reaches s c (c.sendForAck m responder) := by
  have hown : s.owns ⟨c.connection.nextSerial,
      { m with msgSerial := some c.connection.nextSerial }, responder⟩ = true := hm
  exact reaches_quiet rfl ⟨fun _ _ => rfl, Pending.without_push hown, .rest⟩

theorem reaches_sendAttach (hs : (c.channel? name).isSome = true → s.Covers name) :
    Reaches s c (c.sendAttach name) :=
  sendAttach_cases (fun _ => reaches_pure) fun _ hch =>
    reaches_quiet rfl (reaches_put (covers_of_some hs hch))

theorem reaches_sendDetach (hs : (c.channel? name).isSome = true → s.Covers name) :
    Reaches s c (c.sendDetach name) :=
  sendDetach_cases (fun _ => reaches_pure) fun _ hch =>
    reaches_quiet rfl (reaches_put (covers_of_some hs hch))

theorem reaches_flushQueue (hs : (c.channel? name).isSome = true → s.Covers name)
    (hq : ∀ q ∈ (c.core name).queue, s.unacked q.message.channel = true) :
    Reaches s c (c.flushQueue name) := by
  refine flushQueue_cases (fun _ => reaches_pure) fun ch hch _ _ => ?_
  rw [core_of_some hch] at hq
  exact reaches_set (covers_of_some hs hch) (reaches_foldlM fun d q hmem =>
    reaches_sendForAck (hq q hmem) q.responder)

theorem reaches_become (next : Connection.State) (reason : Option ErrorInfo)
    (retryIn : Option Duration) : Reaches s c (c.become next reason retryIn) :=
  become_cases (fun _ => reaches_quiet (relinked_publish _ _ _) (reaches_same rfl rfl rfl))
    fun _ => reaches_pure

/-- A new link takes the place of the one before. -/
theorem reaches_startConnecting : Reaches s c c.startConnecting :=
  startConnecting_cases
    (fun _ => reaches_bind (reaches_become _ _ _) ⟨fun _ _ => rfl, rfl, .opened .rest⟩)
    fun _ => reaches_pure

theorem reaches_connect : Reaches s c c.connect :=
  connect_cases (fun _ => reaches_pure) fun _ _ _ => reaches_startConnecting

/-! ## Attaching and detaching -/

theorem reaches_beginAttach (hs : s.Covers name) (waiters : List Responder) :
    Reaches s c (c.beginAttach name ch waiters) := by
  have hx := Channel.relinked_toAttaching ch waiters
  exact beginAttach_cases (fun _ => reaches_channel hs hx (reaches_sendAttach fun _ => hs))
    (fun _ => reaches_channel hs hx reaches_connect)
    fun _ _ => reaches_channel hs hx reaches_pure

theorem reaches_attachChannel (hs : s.Covers name) (waiters : List Responder) :
    Reaches s c (c.attachChannel name waiters) := by
  have htold : ∀ {es}, relinked es = [] → Reaches s c
      (tell es >>= fun _ => pure (c.ensureChannel name)) := fun hes =>
    reaches_ensure hs (reaches_quiet hes reaches_pure)
  exact attachChannel_cases (fun _ => htold (relinked_succeedEach waiters))
    (fun _ => reaches_ensure hs (reaches_put hs)) (fun _ _ => htold (relinked_failEach waiters _))
    fun _ _ _ => reaches_ensure hs (reaches_beginAttach hs waiters)

theorem reaches_detachAtOnce (hs : s.Covers name) (waiter : Responder)
    (reason : Option ErrorInfo) (e : ErrorInfo) :
    Reaches s c (c.onChannel name fun ch => (ch.awaitDetach waiter).enterDetached reason e) :=
  reaches_onChannel (fun _ => hs) fun _ => Channel.relinked_enterDetached _ reason e

theorem reaches_detachChannel (hs : s.Covers name) (waiter : Responder) :
    Reaches s c (c.detachChannel name waiter) := by
  have htold : ∀ reply, Reaches s c (do
      tell (waiter.resolve reply)
      pure (c.ensureChannel name)) := fun reply =>
    reaches_quiet (relinked_resolve waiter reply) (reaches_put hs)
  exact detachChannel_cases (fun _ => htold .done) (fun _ => htold _)
    (fun _ => reaches_ensure hs (reaches_put hs))
    (fun _ => reaches_ensure hs (reaches_detachAtOnce hs waiter _ _))
    fun _ _ => reaches_ensure hs (reaches_channel hs (Channel.relinked_toDetaching _ waiter)
      (reaches_sendDetach fun _ => hs))

theorem reaches_failPendingOf (hs : s.Covers name) (e : ErrorInfo) :
    Reaches s c (c.failPendingOf name e) := by
  refine reaches_settle fun unacked h => ?_
  have hchannel : unacked.message.channel = some name := beq_iff_eq.mp h
  show s.unacked unacked.message.channel = true
  rw [hchannel]
  exact hs.unacked

theorem reaches_releaseChannel (hs : (c.channel? name).isSome = true → s.Covers name) :
    Reaches s c (c.releaseChannel name) := by
  refine releaseChannel_cases (fun _ => reaches_pure) fun ch farewell hch hsaid => ?_
  have hquiet : relinked farewell.log = [] := by
    rcases hsaid with rfl | ⟨rfl, -⟩
    all_goals rfl
  have hcovers := covers_of_some hs hch
  refine reaches_quiet (Channel.relinked_failWaiters ch _) (reaches_erase hcovers ?_)
  exact reaches_bind (reaches_failPendingOf hcovers _) (reaches_quiet hquiet reaches_pure)

/-! ## Failing and suspending -/

theorem reaches_failChannel (hs : (c.channel? name).isSome = true → s.Covers name)
    (e : ErrorInfo) : Reaches s c (c.failChannel name e) := by
  refine failChannel_cases (fun _ => reaches_pure) fun ch hch _ => ?_
  have hcovers := covers_of_some hs hch
  exact reaches_channel hcovers (ch.relinked_toFailed e) (reaches_failPendingOf hcovers e)

theorem reaches_suspendChannel (hs : (c.channel? name).isSome = true → s.Covers name)
    (e : ErrorInfo) (retry : Bool) : Reaches s c (c.suspendChannel name e retry) :=
  reaches_onChannel hs fun ch => ch.relinked_suspendedChannel e (c.retryAlarm retry)

theorem reaches_suspendUnder (hs : (c.channel? name).isSome = true → s.Covers name)
    (e : ErrorInfo) : Reaches s c (suspendUnder e c name) :=
  suspendUnder_cases (fun _ => reaches_pure) (fun _ _ _ => reaches_suspendChannel hs e false)
    fun _ _ _ _ => reaches_onChannel hs fun ch => ch.relinked_failQueue e

theorem reaches_failUnder (hs : (c.channel? name).isSome = true → s.Covers name)
    (e : ErrorInfo) : Reaches s c (failUnder e c name) :=
  failUnder_cases (fun _ => reaches_pure) (fun _ _ _ => reaches_failChannel hs e)
    fun _ _ _ _ _ _ => reaches_onChannel hs fun ch => ch.relinked_failQueue e

/-! ## What the server says of a channel -/

theorem reaches_reattach (hs : s.Covers name) (e : Option ErrorInfo) :
    Reaches s c (c.reattach name ch e) := by
  have hx := ch.relinked_toAttachingAgain c.clock e
  exact reattach_cases (reaches_suspendChannel (fun _ => hs) _ true)
    (fun _ => reaches_channel hs hx (reaches_sendAttach fun _ => hs))
    fun _ => reaches_channel hs hx reaches_pure

theorem reaches_onDetached {m : Message} (hm : m.channel = some name)
    (hs : (c.channel? name).isSome = true → s.Covers name) : Reaches s c (c.onDetached m) := by
  refine onDetached_cases (fun _ => reaches_pure) (fun name' _ hm' _ _ => ?awaited)
    (fun name' ch hm' hch _ => ?again) fun name' _ _ hm' _ _ _ _ => ?fatal
  all_goals cases hm.symm.trans hm'
  case awaited => exact reaches_onChannel hs fun ch => ch.relinked_enterDetached _ _
  case again => exact reaches_reattach (covers_of_some hs hch) _
  case fatal => exact reaches_failChannel hs _

theorem reaches_reenter (hs : s.Covers name) (mine : List Presence) :
    Reaches s c (mine.foldlM (reenter name) c) :=
  reaches_foldlM fun _ p _ => reaches_sendForAck hs.unacked (.reentry name p.clientId)

/-- What is queued goes out behind the members that are entered again. -/
theorem reaches_onAttached {m : Message} (hm : m.channel = some name)
    (hs : (c.channel? name).isSome = true → s.Covers name)
    (hq : ∀ q ∈ (c.core name).queue, s.unacked q.message.channel = true) :
    Reaches s c (c.onAttached m) := by
  refine onAttached_cases (fun _ => reaches_pure) (fun name' ch hm' hch ha _ => ?live)
    fun name' ch hm' hch _ _ => ?down
  all_goals
    cases hm.symm.trans hm'
    refine reaches_channel (covers_of_some hs hch) (ch.relinked_attachedChannel m) ?_
  case live =>
    generalize (if m.has .resumed then [] else
      (attachedChannel m ch).value.roster.ownMembers) = mine
    have hreentered : Yields name (c.setChannel name (attachedChannel m ch).value) _ _ _ :=
      yields_reenter mine
    have hcore := hreentered.core
    rw [core_setChannel_self, core_attachedChannel ha] at hcore
    have hcovers := covers_of_some hs hch
    refine reaches_bind (reaches_reenter hcovers mine) (reaches_flushQueue (fun _ => hcovers) ?_)
    rw [core_of_some hch] at hq
    rw [hcore]
    exact hq
  case down => exact reaches_pure

theorem reaches_onPresence {m : Message} (hm : m.channel = some name)
    (hs : (c.channel? name).isSome = true → s.Covers name) : Reaches s c (c.onPresence m) := by
  rw [onPresence_of_some hm]
  exact reaches_onChannel hs fun ch =>
    ch.relinked_foldlM (fun ch p => ch.relinked_takeLive c p) _

theorem reaches_onSync {m : Message} (hm : m.channel = some name)
    (hs : (c.channel? name).isSome = true → s.Covers name) : Reaches s c (c.onSync m) := by
  rw [onSync_of_some hm]
  exact reaches_onChannel hs fun ch => ch.relinked_syncedChannel m

theorem reaches_onLinkUp (resumed : Bool) (hs : (c.channel? name).isSome = true → s.Covers name)
    (hq : ∀ q ∈ (c.core name).queue, s.unacked q.message.channel = true) :
    Reaches s c (c.onLinkUp resumed name) := by
  refine onLinkUp_cases (fun _ => reaches_pure) (fun _ _ _ => reaches_sendAttach hs)
    (fun _ _ _ => reaches_sendDetach hs) (fun _ asks _ _ _ hasks => ?goesOn)
    fun _ hch _ => ?anew
  case goesOn =>
    have hquiet : relinked asks.log = [] := by
      rcases hasks with ⟨rfl, -⟩ | ⟨_, _, _, rfl⟩
      all_goals rfl
    exact reaches_quiet hquiet (reaches_flushQueue hs hq)
  case anew =>
    exact reaches_bind (reaches_onChannel hs fun ch => ch.relinked_become _ _ _)
      (reaches_sendAttach fun _ => covers_of_some hs hch)

theorem reaches_onChannelTimer (hs : (c.channel? name).isSome = true → s.Covers name) :
    Reaches s c (c.onChannelTimer name) := by
  have hset : ∀ {ch : Channel} {r : Logged Client}, c.channel? name = some ch →
      (s.Covers name → Reaches s (c.setChannel name { ch with timer := none }) r) →
        Reaches s c r := fun hch h =>
    reaches_set (covers_of_some hs hch) (h (covers_of_some hs hch))
  exact onChannelTimer_cases (fun _ => reaches_pure)
    (fun _ _ hch _ _ => hset hch fun hs => reaches_suspendChannel (fun _ => hs) _ true)
    (fun _ _ hch _ _ _ => hset hch fun hs =>
      reaches_onChannel (fun _ => hs) Channel.relinked_detachTimedOut)
    (fun _ _ hch _ _ _ _ => hset hch fun hs => reaches_attachChannel hs [])
    fun _ _ hch _ _ => hset hch fun _ => reaches_pure

/-! ## What a caller asks -/

theorem reaches_told (hs : s.Covers name) (ticket : Ticket) (reply : Reply) : Reaches s c (do
    answer ticket reply
    pure (c.ensureChannel name)) := reaches_quiet rfl (reaches_put hs)

theorem reaches_queueMessage (hs : s.Covers name) (m : Message) (ticket : Ticket) :
    Reaches s c (c.queueMessage name m ticket) :=
  queueMessage_cases (fun _ => reaches_set hs (reaches_attachChannel hs []))
    fun _ _ _ => reaches_put hs

theorem reaches_publish (hs : s.Covers name) (action : Presence.Action) (clientId : Option String)
    (data : Payload) (ticket : Ticket) :
    Reaches s c (c.publish name action clientId data ticket) :=
  publish_cases (fun _ => reaches_quiet rfl reaches_pure) (fun _ _ => reaches_told hs ticket _)
    (fun _ _ _ _ _ => reaches_ensure hs (reaches_sendForAck hs.unacked _))
    fun _ _ _ _ _ _ => reaches_ensure hs (reaches_queueMessage hs _ ticket)

theorem reaches_getMembers (hs : s.Covers name) (query : MemberQuery) (ticket : Ticket) :
    Reaches s c (c.getMembers name query ticket) := by
  have hpark : ∀ {r : Logged Client},
      Reaches s ((c.ensureChannel name).parkGet name query ticket) r → Reaches s c r :=
    fun h => reaches_ensure hs (reaches_set hs h)
  exact getMembers_cases (fun _ _ => reaches_told hs ticket _) (fun _ => reaches_told hs ticket _)
    (fun _ => hpark reaches_pure)
    (fun _ _ _ => hpark (reaches_onChannel (fun _ => hs) fun ch => ch.relinked_failGets _))
    fun _ _ => hpark (reaches_attachChannel hs [])

theorem reaches_addPresenceListener (hs : s.Covers name) (filter : Option Presence.Action)
    (ticket : Ticket) : Reaches s c (c.addPresenceListener name filter ticket) :=
  reaches_quiet rfl (reaches_set hs (reaches_same rfl rfl rfl))

theorem reaches_subscribe (hs : s.Covers name) (filter : Option Presence.Action)
    (ticket : Ticket) : Reaches s c (c.subscribe name filter ticket) :=
  subscribe_cases (fun _ _ => reaches_told hs ticket _)
    (fun _ _ => reaches_ensure hs (reaches_bind (reaches_attachChannel hs [])
      (reaches_addPresenceListener hs filter ticket)))
    fun _ _ _ => reaches_ensure hs (reaches_addPresenceListener hs filter ticket)

/-- A command on a channel reaches no further than that channel. -/
theorem reaches_channelCommand (hs : s.Covers name) (ticket : Ticket) (command : ChannelCommand) :
    Reaches s c (c.channelCommand name ticket command) := by
  cases command with
  | attach => exact reaches_attachChannel hs _
  | detach => exact reaches_detachChannel hs _
  | publish action clientId data => exact reaches_publish hs action clientId data ticket
  | get query => exact reaches_getMembers hs query ticket
  | subscribe action => exact reaches_subscribe hs action ticket
  | release => exact reaches_releaseChannel fun _ => hs
  | onState filter => exact reaches_quiet rfl (reaches_set hs (reaches_same rfl rfl rfl))
  | unsubscribe id => exact reaches_put hs
  | unsubscribeAction action id => exact reaches_put hs
  | unsubscribeAll => exact reaches_put hs
  | offState id => exact reaches_put hs
  | _ => exact reaches_told hs ticket _

end Channels

end Client

end PresenceClient
