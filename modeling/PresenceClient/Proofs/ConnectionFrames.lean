-- What is done on the channels leaves the connection alone, serials apart, and opens no link.
-- Nearly all of it leaves the members of every channel alone too, or forgets them all, and
-- tells no listener of a member. Attaching is seen here as well, since it may open a link.
import PresenceClient.Proofs.ChannelCases
import PresenceClient.Proofs.ChannelCore
import PresenceClient.Proofs.ConnectionTurns

namespace PresenceClient

open Logged (tell)

/-! ## Links and members in a log -/

/-- The link that an effect opens. -/
def Effect.opens : Effect → List Nat
  | .openLink generation _ => [generation]
  | _ => []

/-- The links that some effects open, in order. -/
def opened (log : List Effect) : List Nat := log.flatMap Effect.opens

/-- What an effect tells a listener of a member. -/
def Effect.tells : Effect → List (ListenerId × Presence)
  | .notify id (.presence p) => [(id, p)]
  | _ => []

/-- What some effects tell listeners of members, in order. -/
def told (log : List Effect) : List (ListenerId × Presence) := log.flatMap Effect.tells

@[simp] theorem opened_append (a b : List Effect) : opened (a ++ b) = opened a ++ opened b :=
  List.flatMap_append

@[simp] theorem told_append (a b : List Effect) : told (a ++ b) = told a ++ told b :=
  List.flatMap_append

theorem mem_opened {log : List Effect} {generation : Nat} {params : LinkParams}
    (h : .openLink generation params ∈ log) : generation ∈ opened log :=
  List.mem_flatMap.mpr ⟨_, h, List.mem_singleton.mpr rfl⟩

/-- What is told is told by an effect of the log. -/
theorem mem_told {log : List Effect} {id : ListenerId} {p : Presence} :
    (id, p) ∈ told log ↔ Effect.notify id (.presence p) ∈ log := by
  unfold told
  rw [List.mem_flatMap]
  constructor
  · rintro ⟨e, he, hp⟩
    unfold Effect.tells at hp
    split at hp
    · cases List.mem_singleton.mp hp
      exact he
    · cases hp
  · exact fun he => ⟨_, he, List.mem_singleton.mpr rfl⟩

/-- Some effects open no link and tell nobody of a member. -/
def Mute (log : List Effect) : Prop := ∀ e ∈ log, e.opens = [] ∧ e.tells = []

section Mute

variable {a b log : List Effect}

theorem Mute.opened (h : Mute log) : opened log = [] :=
  List.flatMap_eq_nil_iff.mpr fun e he => (h e he).1

theorem Mute.told (h : Mute log) : told log = [] :=
  List.flatMap_eq_nil_iff.mpr fun e he => (h e he).2

theorem mute_nil : Mute [] := fun _ he => absurd he List.not_mem_nil

theorem mute_append (ha : Mute a) (hb : Mute b) : Mute (a ++ b) := fun e he =>
  (List.mem_append.mp he).elim (ha e) (hb e)

theorem mute_singleton {e : Effect} (ho : e.opens = []) (ht : e.tells = []) : Mute [e] := by
  intro e' he
  cases List.mem_singleton.mp he
  exact ⟨ho, ht⟩

theorem mute_resolve (r : Responder) (reply : Reply) : Mute (r.resolve reply) := by
  cases r with
  | caller ticket => exact mute_singleton rfl rfl
  | reentry channel clientId => exact mute_nil

theorem mute_resolveEach {α : Type} (xs : List α) (f : α → Responder) (reply : Reply) :
    Mute (xs.flatMap fun x => (f x).resolve reply) := by
  intro e he
  obtain ⟨x, -, hx⟩ := List.mem_flatMap.mp he
  exact mute_resolve (f x) reply e hx

theorem mute_answerGets (gets : List PendingGet) (f : PendingGet → Reply) :
    Mute (gets.map fun g => Channel.answerGet g (f g)) := by
  intro e he
  obtain ⟨g, -, rfl⟩ := List.mem_map.mp he
  exact ⟨rfl, rfl⟩

/-- News that is not of a member. -/
theorem mute_publish {κ : Type} [DecidableEq κ] (r : Listener.Registry κ) (kind : κ) {n : Notice}
    (hn : ∀ p, n ≠ .presence p) : Mute (r.publish kind n).log := by
  intro e he
  simp only [Listener.Registry.publish, Logged.log_bind, Logged.log_tell, Logged.log_pure,
    List.append_nil] at he
  obtain ⟨id, -, rfl⟩ := List.mem_map.mp he
  refine ⟨rfl, ?_⟩
  unfold Effect.tells
  split
  · rename_i heq
    cases heq
    exact absurd rfl (hn _)
  · rfl

end Mute

/-! ## Channels that keep their members or forget them -/

namespace Channel

/-- The members are kept, or all are forgotten, and nobody is told of it. -/
structure Hushed (ch : Channel) (x : Logged Channel) : Prop where
  roster : x.value.roster = ch.roster ∨ x.value.roster = {}
  mute : Mute x.log

variable {ch : Channel}

theorem hushed_same {x : Logged Channel} (hr : x.value.roster = ch.roster) (hx : Mute x.log) :
    Hushed ch x := ⟨.inl hr, hx⟩

theorem hushed_pure {ch' : Channel} (hr : ch'.roster = ch.roster ∨ ch'.roster = {}) :
    Hushed ch (pure ch') := ⟨hr, mute_nil⟩

theorem hushed_from {ch' : Channel} {x : Logged Channel} (h : Hushed ch' x)
    (hr : ch'.roster = ch.roster ∨ ch'.roster = {}) : Hushed ch x := by
  refine ⟨?_, h.mute⟩
  rcases h.roster with he | he
  · exact he ▸ hr
  · exact .inr he

theorem hushed_bind {x : Logged Channel} {f : Channel → Logged Channel} (h1 : Hushed ch x)
    (h2 : Hushed x.value (f x.value)) : Hushed ch (x >>= f) :=
  ⟨(hushed_from h2 h1.roster).roster, mute_append h1.mute h2.mute⟩

theorem hushed_tell {es : List Effect} {ch' : Channel} (hes : Mute es)
    (hr : ch'.roster = ch.roster) : Hushed ch (tell es >>= fun _ => pure ch') :=
  hushed_same hr (mute_append hes mute_nil)

variable (ch)

theorem hushed_become (next : State) (reason : Option ErrorInfo) (resumed : Bool) :
    Hushed ch (ch.become next reason resumed) :=
  become_cases (fun _ => hushed_same rfl (mute_append (mute_publish _ _ nofun) mute_nil))
    fun _ => hushed_pure (.inl rfl)

theorem hushed_failWaiters (e : ErrorInfo) : Hushed ch (ch.failWaiters e) :=
  hushed_same rfl (mute_append (mute_resolveEach _ _ _) (mute_append (mute_resolveEach _ id _)
    (mute_append (mute_resolveEach _ id _) (mute_append (mute_answerGets _ _) mute_nil))))

theorem hushed_failQueue (e : ErrorInfo) : Hushed ch (ch.failQueue e) :=
  hushed_same rfl (mute_append (mute_resolveEach _ _ _) mute_nil)

theorem hushed_detachDone : Hushed ch ch.detachDone := hushed_tell (mute_resolveEach _ id _) rfl

theorem hushed_failAttachWaiters (e : ErrorInfo) : Hushed ch (ch.failAttachWaiters e) :=
  hushed_tell (mute_resolveEach _ id _) rfl

theorem hushed_failDetachWaiters (e : ErrorInfo) : Hushed ch (ch.failDetachWaiters e) :=
  hushed_tell (mute_resolveEach _ id _) rfl

theorem hushed_failGets (e : ErrorInfo) : Hushed ch (ch.failGets e) :=
  hushed_tell (mute_answerGets _ _) rfl

theorem hushed_enterDetached (reason : Option ErrorInfo) (e : ErrorInfo) :
    Hushed ch (ch.enterDetached reason e) := by
  unfold enterDetached
  refine hushed_bind (hushed_from (hushed_become _ _ _ _) (.inl rfl)) ?_
  exact hushed_bind (hushed_from (hushed_detachDone _) (.inr rfl)) (hushed_failWaiters _ e)

theorem hushed_detachTimedOut : Hushed ch (Client.detachTimedOut ch) :=
  hushed_bind (hushed_become _ _ _ _) (hushed_failDetachWaiters _ _)

theorem hushed_detachOnClose (e : ErrorInfo) : Hushed ch (Client.detachOnClose e ch) :=
  Client.detachOnClose_cases (fun _ => hushed_enterDetached ch none e)
    fun _ => hushed_failWaiters ch e

theorem hushed_toAttaching (waiters : List Responder) :
    Hushed ch (Client.toAttaching waiters ch) :=
  hushed_bind (hushed_from (hushed_failDetachWaiters _ _) (.inl rfl)) (hushed_become _ _ _ _)

theorem hushed_toDetaching (waiter : Responder) : Hushed ch (Client.toDetaching waiter ch) :=
  hushed_bind (hushed_failAttachWaiters _ _) (hushed_from (hushed_become _ _ _ _) (.inl rfl))

theorem hushed_toFailed (e : ErrorInfo) : Hushed ch (Client.toFailed e ch) :=
  hushed_bind (hushed_from (hushed_become _ _ _ _) (.inl rfl))
    (hushed_from (hushed_failWaiters _ e) (.inr rfl))

theorem hushed_suspendedChannel (e : ErrorInfo) (alarm : Option (Alarm Timer)) :
    Hushed ch (Client.suspendedChannel e alarm ch) := by
  refine Client.suspendedChannel_cases (fun _ => ?_) fun _ => hushed_pure (.inl rfl)
  exact hushed_bind (hushed_become _ _ _ _)
    (hushed_bind (hushed_failWaiters _ e) (hushed_pure (.inl rfl)))

theorem hushed_toAttachingAgain (now : Instant) (e : Option ErrorInfo) :
    Hushed ch (Client.toAttachingAgain now e ch) :=
  hushed_from (hushed_become _ _ _ _) (.inl rfl)

end Channel

namespace Client

/-! ## The connection and the members apart from each other -/

/-- The connection of a client, serials apart. -/
def session (c : Client) : Connection := c.connection.session

/-- Who is present on the channel of a name. -/
def roster (c : Client) (name : String) : Roster := (c.channelOrNew name).roster

/-- Some links are opened, and the connection is as given then. -/
structure Drives (c : Client) (r : Logged Client) (links : List Nat) (k : Connection) : Prop where
  options : r.value.options = c.options
  clock : r.value.clock = c.clock
  session : r.value.session = k
  opened : opened r.log = links

/-- Every channel keeps its members or forgets them all, and nobody is told of it. -/
structure Calm (c : Client) (r : Logged Client) : Prop where
  roster : ∀ name, r.value.roster name = c.roster name ∨ r.value.roster name = {}
  told : told r.log = []

structure Leads (c : Client) (r : Logged Client) (links : List Nat) (k : Connection) : Prop
    extends Drives c r links k, Calm c r

/-- The connection is left alone. -/
def Rests (c : Client) (r : Logged Client) : Prop := Leads c r [] c.session

section Frames

variable {c d : Client} {r : Logged Client} {name : String} {ch : Channel} {links links' : List Nat}
  {k k' : Connection}

theorem roster_of_some (h : c.channel? name = some ch) : c.roster name = ch.roster := by
  rw [roster, channelOrNew_of_some h]

theorem roster_setChannel_self (c : Client) (name : String) (ch : Channel) :
    (c.setChannel name ch).roster name = ch.roster := by
  rw [roster, channelOrNew_setChannel_self]

theorem roster_setChannel_ne (c : Client) (ch : Channel) {other : String} (h : other ≠ name) :
    (c.setChannel name ch).roster other = c.roster other := by
  rw [roster, channelOrNew_setChannel_ne c name ch h, roster]

theorem roster_ensureChannel (c : Client) (name other : String) :
    (c.ensureChannel name).roster other = c.roster other := by
  rw [roster, channelOrNew_ensureChannel, roster]

theorem roster_of_none (h : c.channel? name = none) : c.roster name = {} := by
  rw [roster, channelOrNew, h]
  rfl

theorem roster_congr (h : d.channel? name = c.channel? name) : d.roster name = c.roster name := by
  rw [roster, channelOrNew_congr h, roster]

theorem roster_of_channels (h : d.channels = c.channels) (name : String) :
    d.roster name = c.roster name := roster_congr (channel?_of_channels h name)

theorem drives_bind {x : Logged Client} {f : Client → Logged Client} (h1 : Drives c x links k)
    (h2 : Drives x.value (f x.value) links' k') : Drives c (x >>= f) (links ++ links') k' := by
  refine ⟨h2.options.trans h1.options, h2.clock.trans h1.clock, h2.session, ?_⟩
  rw [Logged.log_bind, opened_append, h1.opened, h2.opened]

theorem calm_bind {x : Logged Client} {f : Client → Logged Client} (h1 : Calm c x)
    (h2 : Calm x.value (f x.value)) : Calm c (x >>= f) := by
  refine ⟨fun name => ?_, ?_⟩
  · rcases h2.roster name with he | he
    · exact he ▸ h1.roster name
    · exact .inr he
  · rw [Logged.log_bind, told_append, h1.told, h2.told, List.append_nil]

theorem leads_bind {x : Logged Client} {f : Client → Logged Client} (h1 : Leads c x links k)
    (h2 : Leads x.value (f x.value) links' k') : Leads c (x >>= f) (links ++ links') k' :=
  ⟨drives_bind h1.toDrives h2.toDrives, calm_bind h1.toCalm h2.toCalm⟩

/-- What comes later starts from the connection that it finds. -/
theorem leads_then {x : Logged Client} {f : Client → Logged Client} (h1 : Leads c x links k)
    (h2 : ∀ d, d.options = c.options → d.clock = c.clock → d.session = k →
      Leads d (f d) links' k') : Leads c (x >>= f) (links ++ links') k' :=
  leads_bind h1 (h2 x.value h1.options h1.clock h1.session)

/-- The channels may have their part after the connection. -/
theorem leads_rests {x : Logged Client} {f : Client → Logged Client} (h1 : Leads c x links k)
    (h2 : Rests x.value (f x.value)) : Leads c (x >>= f) links k := by
  have h := leads_bind h1 h2
  rwa [List.append_nil, h1.session] at h

theorem rests_bind {x : Logged Client} {f : Client → Logged Client} (h1 : Rests c x)
    (h2 : Rests x.value (f x.value)) : Rests c (x >>= f) := leads_rests h1 h2

/-- Effects that have no part in this may come first. -/
theorem leads_quiet {α : Type} {x : Logged α} {f : α → Logged Client} (hx : Mute x.log)
    (h : Leads c (f x.value) links k) : Leads c (x >>= f) links k := by
  refine ⟨⟨h.options, h.clock, h.session, ?_⟩, h.roster, ?_⟩
  · rw [Logged.log_bind, opened_append, hx.opened, h.opened, List.nil_append]
  · rw [Logged.log_bind, told_append, hx.told, h.told, List.nil_append]

/-- Nothing but what is said here changes. -/
theorem leads_same (ho : d.options = c.options) (hc : d.clock = c.clock)
    (hch : d.channels = c.channels) : Leads c (pure d) [] d.session :=
  ⟨⟨ho, hc, rfl, rfl⟩, fun name => .inl (roster_of_channels hch name), rfl⟩

theorem rests_pure : Rests c (pure c) := leads_same rfl rfl rfl

/-- What starts with the same options at the same time, with the same members or without. -/
theorem leads_from (h : Leads d r links k) (ho : d.options = c.options) (hc : d.clock = c.clock)
    (hr : ∀ name, d.roster name = c.roster name ∨ d.roster name = {}) : Leads c r links k := by
  refine ⟨⟨h.options.trans ho, h.clock.trans hc, h.session, h.opened⟩, fun name => ?_, h.told⟩
  rcases h.roster name with he | he
  · exact he ▸ hr name
  · exact .inr he

/-- A channel of the same members is set, or one without any. -/
theorem leads_set (h : Leads (c.setChannel name ch) r links k)
    (hr : ch.roster = c.roster name ∨ ch.roster = {}) : Leads c r links k := by
  refine leads_from h rfl rfl fun other => ?_
  by_cases hne : other = name
  · rw [hne, roster_setChannel_self]
    exact hr
  · exact .inl (roster_setChannel_ne c ch hne)

/-- A channel that is dropped has no members. -/
theorem leads_erase (name : String)
    (h : Leads { c with channels := c.channels.erase name } r links k) : Leads c r links k := by
  refine leads_from h rfl rfl fun other => ?_
  by_cases hne : other = name
  · subst hne
    exact .inr (roster_of_none (Table.get?_erase_self c.channels other))
  · exact .inl (roster_congr (Table.get?_erase_ne c.channels hne))

theorem rests_put (hr : ch.roster = c.roster name ∨ ch.roster = {}) :
    Rests c (pure (c.setChannel name ch)) := leads_set rests_pure hr

theorem leads_ensure (h : Leads (c.ensureChannel name) r links k) : Leads c r links k :=
  leads_set h (.inl rfl)

/-- What a channel does by itself comes first. -/
theorem leads_channel {x : Logged Channel} {f : Channel → Logged Client} (hx : ch.Hushed x)
    (hr : ch.roster = c.roster name)
    (h : Leads (c.setChannel name x.value) (f x.value) links k) : Leads c (x >>= f) links k :=
  leads_quiet hx.mute (leads_set h (hr ▸ hx.roster))

theorem rests_onChannel {f : Channel → Logged Channel} (hf : ∀ ch : Channel, ch.Hushed (f ch)) :
    Rests c (c.onChannel name f) :=
  onChannel_cases (fun _ => rests_pure) fun ch hch =>
    leads_channel (hf ch) (roster_of_some hch).symm rests_pure

theorem connection_onChannel (c : Client) (name : String) (f : Channel → Logged Channel) :
    (c.onChannel name f).value.connection = c.connection :=
  onChannel_cases (fun _ => rfl) fun _ _ => rfl

theorem rests_foldlM {α : Type} {f : Client → α → Logged Client} (hf : ∀ d x, Rests d (f d x))
    (xs : List α) : Rests c (xs.foldlM f c) := by
  induction xs generalizing c with
  | nil => exact rests_pure
  | cons x rest ih => exact rests_bind (hf c x) ih

end Frames

/-! ## Sending -/

section Channels

variable {c : Client} {r : Logged Client} {name : String} {ch : Channel}

theorem rests_told {es : List Effect} {d : Client} (hes : Mute es) (h : Rests c (pure d)) :
    Rests c (do
      tell es
      pure d) := leads_quiet hes h

theorem rests_sendForAck (m : Message) (responder : Responder) :
    Rests c (c.sendForAck m responder) :=
  leads_quiet (mute_singleton rfl rfl) (leads_same rfl rfl rfl)

theorem rests_sendAttach : Rests c (c.sendAttach name) :=
  sendAttach_cases (fun _ => rests_pure) fun _ hch =>
    rests_told (mute_singleton rfl rfl) (rests_put (.inl (roster_of_some hch).symm))

theorem rests_sendDetach : Rests c (c.sendDetach name) :=
  sendDetach_cases (fun _ => rests_pure) fun _ hch =>
    rests_told (mute_singleton rfl rfl) (rests_put (.inl (roster_of_some hch).symm))

theorem rests_flushQueue : Rests c (c.flushQueue name) := by
  refine flushQueue_cases (fun _ => rests_pure) fun ch hch _ _ => ?_
  have h : Rests (c.setChannel name { ch with queue := {} }) _ :=
    rests_foldlM (fun _ (e : Queued) => rests_sendForAck e.message e.responder) ch.queue.entries
  exact leads_set h (.inl (roster_of_some hch).symm)

theorem rests_failPendingOf (e : ErrorInfo) : Rests c (c.failPendingOf name e) :=
  leads_quiet (mute_resolveEach _ _ _) (leads_same rfl rfl rfl)

/-! ## Attaching and detaching on a connection in use -/

theorem rests_attachAnew : Rests c (do
    let c ← c.onChannel name fun ch => ch.become .attaching none false
    c.sendAttach name) :=
  rests_bind (rests_onChannel fun ch => Channel.hushed_become ch _ _ _) rests_sendAttach

/-- A connection that was asked for before is not asked for again. -/
theorem rests_beginAttach (hs : c.connection.state ≠ .initialized)
    (hr : ch.roster = c.roster name) (waiters : List Responder) :
    Rests c (c.beginAttach name ch waiters) :=
  beginAttach_cases
    (fun _ => leads_channel (Channel.hushed_toAttaching ch waiters) hr rests_sendAttach)
    (fun h => absurd h hs)
    fun _ _ => leads_channel (Channel.hushed_toAttaching ch waiters) hr rests_pure

theorem rests_attachChannel (hs : c.connection.state ≠ .initialized) (waiters : List Responder) :
    Rests c (c.attachChannel name waiters) := by
  have hr := (roster_ensureChannel c name name).symm
  refine attachChannel_cases (fun _ => ?done) (fun _ => ?joins) (fun _ _ => ?refused)
    fun _ _ _ => ?begins
  all_goals refine leads_ensure (?_ : Rests (c.ensureChannel name) _)
  case done => exact rests_told (mute_resolveEach _ id _) rests_pure
  case joins => exact rests_put (.inl hr)
  case refused => exact rests_told (mute_resolveEach _ id _) rests_pure
  case begins => exact rests_beginAttach (c := c.ensureChannel name) hs hr waiters

theorem rests_detachAtOnce (waiter : Responder) (reason : Option ErrorInfo) (e : ErrorInfo) :
    Rests c (c.onChannel name fun ch => (ch.awaitDetach waiter).enterDetached reason e) :=
  rests_onChannel fun ch =>
    Channel.hushed_from (Channel.hushed_enterDetached (ch.awaitDetach waiter) reason e) (.inl rfl)

theorem rests_detachChannel (waiter : Responder) : Rests c (c.detachChannel name waiter) := by
  have hr := (roster_ensureChannel c name name).symm
  refine detachChannel_cases (fun _ => ?idle) (fun _ => ?failed) (fun _ => ?joins)
    (fun _ => ?atOnce) fun _ _ => ?asks
  all_goals refine leads_ensure (?_ : Rests (c.ensureChannel name) _)
  case idle => exact rests_told (mute_resolve waiter _) rests_pure
  case failed => exact rests_told (mute_resolve waiter _) rests_pure
  case joins => exact rests_put (.inl hr)
  case atOnce => exact rests_detachAtOnce waiter _ _
  case asks => exact leads_channel (Channel.hushed_toDetaching _ waiter) hr rests_sendDetach

theorem rests_releaseChannel : Rests c (c.releaseChannel name) := by
  refine releaseChannel_cases (fun _ => rests_pure) fun ch farewell _ hsaid => ?_
  refine leads_quiet (Channel.hushed_failWaiters ch _).mute (leads_erase name ?_)
  refine rests_bind (rests_failPendingOf _) (leads_quiet ?_ rests_pure)
  rcases hsaid with rfl | ⟨rfl, -⟩
  · exact mute_nil
  · exact mute_singleton rfl rfl

/-! ## Failing and suspending -/

theorem rests_failChannel (e : ErrorInfo) : Rests c (c.failChannel name e) :=
  failChannel_cases (fun _ => rests_pure) fun ch hch _ =>
    leads_channel (Channel.hushed_toFailed ch e) (roster_of_some hch).symm (rests_failPendingOf e)

theorem rests_suspendChannel (e : ErrorInfo) (retry : Bool) :
    Rests c (c.suspendChannel name e retry) :=
  rests_onChannel fun ch => Channel.hushed_suspendedChannel ch e (c.retryAlarm retry)

theorem rests_failQueue (name : String) (e : ErrorInfo) :
    Rests c (c.onChannel name fun ch => ch.failQueue e) :=
  rests_onChannel fun ch => Channel.hushed_failQueue ch e

theorem rests_suspendUnder (e : ErrorInfo) : Rests c (suspendUnder e c name) :=
  suspendUnder_cases (fun _ => rests_pure) (fun _ _ _ => rests_suspendChannel e false)
    fun _ _ _ _ => rests_failQueue name e

theorem rests_failUnder (e : ErrorInfo) : Rests c (failUnder e c name) :=
  failUnder_cases (fun _ => rests_pure) (fun _ _ _ => rests_failChannel e)
    fun _ _ _ _ _ _ => rests_failQueue name e

/-! ## What the server says of a channel -/

theorem rests_reattach (e : Option ErrorInfo) (hr : ch.roster = c.roster name) :
    Rests c (c.reattach name ch e) :=
  reattach_cases (rests_suspendChannel _ true)
    (fun _ => leads_channel (Channel.hushed_toAttachingAgain ch _ e) hr rests_sendAttach)
    fun _ => leads_channel (Channel.hushed_toAttachingAgain ch _ e) hr rests_pure

theorem rests_onDetached (m : Message) : Rests c (c.onDetached m) :=
  onDetached_cases (fun _ => rests_pure)
    (fun _ _ _ _ _ => rests_onChannel fun ch => Channel.hushed_enterDetached ch _ _)
    (fun _ _ _ hch _ => rests_reattach _ (roster_of_some hch).symm)
    fun _ _ _ _ _ _ _ _ => rests_failChannel _

/-- An attach may change the members, but the connection only sends. -/
theorem session_onAttached (m : Message) : (c.onAttached m).value.session = c.session := by
  refine onAttached_cases (fun _ => rfl) (fun name ch _ _ _ _ => ?_) fun _ _ _ _ _ _ => rfl
  have hsent : ∀ mine : List Presence, Rests (c.setChannel name (attachedChannel m ch).value)
      (mine.foldlM (reenter name) (c.setChannel name (attachedChannel m ch).value) >>= fun c =>
        c.flushQueue name) := fun mine =>
    rests_bind (rests_foldlM (fun d p => rests_sendForAck _ _) mine) rests_flushQueue
  exact (hsent _).session

theorem rests_onLinkUp (resumed : Bool) : Rests c (c.onLinkUp resumed name) := by
  refine onLinkUp_cases (fun _ => rests_pure) (fun _ _ _ => rests_sendAttach)
    (fun _ _ _ => rests_sendDetach) (fun ch asks _ _ _ hasks => ?_) fun _ _ _ => rests_attachAnew
  refine leads_quiet ?_ rests_flushQueue
  rcases hasks with ⟨rfl, -⟩ | ⟨cursor, -, -, rfl⟩
  · exact mute_nil
  · exact mute_singleton rfl rfl

/-- The timer of a channel may attach it again, on a live link. -/
theorem rests_onChannelTimer : Rests c (c.onChannelTimer name) := by
  have hset : ∀ {ch : Channel} {r : Logged Client}, c.channel? name = some ch →
      Rests (c.setChannel name { ch with timer := none }) r → Rests c r := fun hch h =>
    leads_set h (.inl (roster_of_some hch).symm)
  refine onChannelTimer_cases (fun _ => rests_pure) (fun ch _ hch _ _ => hset hch ?attach)
    (fun ch _ hch _ _ _ => hset hch ?detach) (fun ch _ hch _ _ _ hup => hset hch ?reattach)
    fun ch _ hch _ _ => hset hch rests_pure
  case attach => exact rests_suspendChannel _ true
  case detach => exact rests_onChannel Channel.hushed_detachTimedOut
  case reattach =>
    have hs : c.connection.state ≠ .initialized := by simp [isConnected_iff.mp hup]
    exact rests_attachChannel (c := c.setChannel name { ch with timer := none }) hs []

end Channels

end Client

end PresenceClient
