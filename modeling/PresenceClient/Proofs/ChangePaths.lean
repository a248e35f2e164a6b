-- The changes of state that a listener is told of, as a path. A function of a channel or of the
-- client tells a listener for all kinds of change of every step that it takes, and of no other;
-- whoever listens elsewhere is told of none. Who listens to the states stays as it is.
import PresenceClient.Proofs.Postings

namespace PresenceClient

open Logged (tell)

/-! ## Paths -/

/-- Steps that lead from one state to another: each starts where the one before has ended, and
may be taken. -/
def Steps {σ : Type} (may : σ → σ → Bool) : σ → List (σ × σ) → σ → Prop
  | s, [], t => s = t
  | s, (a, b) :: rest, t => a = s ∧ may a b = true ∧ Steps may b rest t

theorem steps_append {σ : Type} {may : σ → σ → Bool} {s t u : σ} {xs ys : List (σ × σ)}
    (hx : Steps may s xs t) (hy : Steps may t ys u) : Steps may s (xs ++ ys) u := by
  induction xs generalizing s with
  | nil => exact (show s = t from hx) ▸ hy
  | cons x rest ih =>
    obtain ⟨hs, hmay, hrest⟩ := hx
    exact ⟨hs, hmay, ih hrest⟩

/-- Changes of a connection that lead from one state to another. -/
def Connection.Path (s : State) (changes : List Change) (t : State) : Prop :=
  Steps State.canBecome s (changes.map fun change => (change.previous, change.current)) t

/-- Changes of a channel that lead from one state to another. -/
def Channel.Path (s : State) (changes : List Change) (t : State) : Prop :=
  Steps State.canBecome s (changes.map fun change => (change.previous, change.current)) t

theorem Connection.path_append {s t u : State} {xs ys : List Change} (hx : Path s xs t)
    (hy : Path t ys u) : Path s (xs ++ ys) u := by
  unfold Path
  rw [List.map_append]
  exact steps_append hx hy

theorem Channel.path_append {s t u : State} {xs ys : List Change} (hx : Path s xs t)
    (hy : Path t ys u) : Path s (xs ++ ys) u := by
  unfold Path
  rw [List.map_append]
  exact steps_append hx hy

/-! ## Changes in a log -/

/-- What an effect tells a listener of the connection. -/
def Effect.connectionChange? (id : ListenerId) : Effect → Option Connection.Change
  | .notify listener (.connection change) => if listener = id then some change else none
  | _ => none

/-- What an effect tells a listener of a channel. -/
def Effect.channelChange? (id : ListenerId) : Effect → Option Channel.Change
  | .notify listener (.channel change) => if listener = id then some change else none
  | _ => none

/-- The changes of the connection that some effects tell a listener, in order. -/
def connectionChanges (id : ListenerId) (log : List Effect) : List Connection.Change :=
  log.filterMap (Effect.connectionChange? id)

/-- The changes of channels that some effects tell a listener, in order. -/
def channelChanges (id : ListenerId) (log : List Effect) : List Channel.Change :=
  log.filterMap (Effect.channelChange? id)

theorem connectionChanges_append (id : ListenerId) (a b : List Effect) :
    connectionChanges id (a ++ b) = connectionChanges id a ++ connectionChanges id b :=
  List.filterMap_append

theorem channelChanges_append (id : ListenerId) (a b : List Effect) :
    channelChanges id (a ++ b) = channelChanges id a ++ channelChanges id b :=
  List.filterMap_append

/-- Does an effect tell of a change of state? -/
def Effect.isChange : Effect → Bool
  | .notify _ (.connection _) | .notify _ (.channel _) => true
  | _ => false

/-- Some effects tell nobody of a change of state. -/
def Still (log : List Effect) : Prop := ∀ e ∈ log, e.isChange = false

section Still

variable {a b log : List Effect}

theorem Still.connection (h : Still log) (id : ListenerId) : connectionChanges id log = [] := by
  refine List.filterMap_eq_nil_iff.mpr fun e he => ?_
  have hstill := h e he
  unfold Effect.connectionChange?
  split
  · cases hstill
  · rfl

theorem Still.channel (h : Still log) (id : ListenerId) : channelChanges id log = [] := by
  refine List.filterMap_eq_nil_iff.mpr fun e he => ?_
  have hstill := h e he
  unfold Effect.channelChange?
  split
  · cases hstill
  · rfl

theorem still_nil : Still [] := fun _ he => absurd he List.not_mem_nil

theorem still_append (ha : Still a) (hb : Still b) : Still (a ++ b) := fun e he =>
  (List.mem_append.mp he).elim (ha e) (hb e)

theorem still_singleton {e : Effect} (h : e.isChange = false) : Still [e] := by
  intro e' he
  cases List.mem_singleton.mp he
  exact h

theorem still_resolve (r : Responder) (reply : Reply) : Still (r.resolve reply) := by
  cases r with
  | caller ticket => exact still_singleton rfl
  | reentry channel clientId => exact still_nil

theorem still_resolveEach {α : Type} (xs : List α) (f : α → Responder) (reply : Reply) :
    Still (xs.flatMap fun x => (f x).resolve reply) := by
  intro e he
  obtain ⟨x, -, hx⟩ := List.mem_flatMap.mp he
  exact still_resolve (f x) reply e hx

theorem still_answerGets (gets : List PendingGet) (f : PendingGet → Reply) :
    Still (gets.map fun g => Channel.answerGet g (f g)) := by
  intro e he
  obtain ⟨g, -, rfl⟩ := List.mem_map.mp he
  rfl

end Still

/-! ## Who listens -/

namespace Listener.Registry

variable {κ : Type} (r : Registry κ) {id : ListenerId}

/-- The registrations of an id whose receiver is there. -/
def seats (id : ListenerId) : List (Registration κ) := r.live.filter fun e => decide (e.id = id)

/-- The listener is registered once, for every kind of event. -/
def Hears (id : ListenerId) : Prop := r.seats id = [{ id := id, filter := none }]

/-- Nobody listens under the id. -/
def IsDeaf (id : ListenerId) : Prop := r.seats id = []

variable {r} [DecidableEq κ]

/-- What an event brings a listener is as many notices as there are seats that ask for it. -/
theorem filterMap_publish {β : Type} (kind : κ) (n : Notice) (f : Effect → Option β) (b : β)
    (hid : f (.notify id n) = some b) (hne : ∀ other ≠ id, f (.notify other n) = none) :
    (r.publish kind n).log.filterMap f =
      ((r.seats id).filter fun e => e.wants kind).map fun _ => b := by
  have hlog : (r.publish kind n).log =
      (r.live.filter fun e => e.wants kind).map fun e => Effect.notify e.id n := by
    show (r.recipients kind).map _ ++ [] = _
    rw [List.append_nil, recipients_eq, List.map_map]
    rfl
  rw [hlog]
  unfold seats
  rw [List.filter_filter]
  induction r.live with
  | nil => rfl
  | cons e rest ih =>
    by_cases hw : e.wants kind = true
    · by_cases he : e.id = id
      · simp [hw, he, hid, ih]
      · simp [hw, he, hne e.id he, ih]
    · simp [hw, ih]

end Listener.Registry

/-! ## One channel -/

namespace Channel

/-- A listener for all kinds of change is told of the way from the state before to the one after.
Whoever listens elsewhere is told nothing, and who listens here stays as it is. -/
structure Tells (ch : Channel) (x : Logged Channel) : Prop where
  live : x.value.stateListeners.live = ch.stateListeners.live
  connection : ∀ id, connectionChanges id x.log = []
  path : ∀ id, ch.stateListeners.Hears id → Path ch.state (channelChanges id x.log) x.value.state
  silent : ∀ id, ch.stateListeners.IsDeaf id → channelChanges id x.log = []

section Rules

variable {ch ch' : Channel} {x : Logged Channel}

theorem tells_bind {f : Channel → Logged Channel} (h1 : Tells ch x)
    (h2 : Tells x.value (f x.value)) : Tells ch (x >>= f) := by
  refine ⟨h2.live.trans h1.live, fun id => ?_, fun id hid => ?_, fun id hid => ?_⟩
  · rw [Logged.log_bind, connectionChanges_append, h1.connection, h2.connection, List.append_nil]
  · rw [Logged.log_bind, channelChanges_append]
    refine path_append (h1.path id hid) (h2.path id ?_)
    unfold Listener.Registry.Hears Listener.Registry.seats
    rwa [h1.live]
  · rw [Logged.log_bind, channelChanges_append, h1.silent id hid, h2.silent id ?_, List.append_nil]
    unfold Listener.Registry.IsDeaf Listener.Registry.seats
    rwa [h1.live]

/-- The state stays as it is, and so does who listens to it. -/
theorem tells_same (hs : x.value.state = ch.state)
    (hl : x.value.stateListeners = ch.stateListeners) (hx : Still x.log) : Tells ch x := by
  refine ⟨by rw [hl], hx.connection, fun id _ => ?_, fun id _ => hx.channel id⟩
  rw [hx.channel, hs]
  exact rfl

theorem tells_pure : Tells ch (pure ch) := tells_same rfl rfl still_nil

/-- What is changed before that is no matter of the state. -/
theorem tells_from (h : Tells ch' x) (hs : ch'.state = ch.state)
    (hl : ch'.stateListeners = ch.stateListeners) : Tells ch x := by
  obtain ⟨hlive, hconnection, hpath, hsilent⟩ := h
  rw [hl] at hlive hpath hsilent
  rw [hs] at hpath
  exact ⟨hlive, hconnection, hpath, hsilent⟩

theorem tells_foldlM {α : Type} {f : Channel → α → Logged Channel}
    (hf : ∀ ch x, Tells ch (f ch x)) (xs : List α) : Tells ch (xs.foldlM f ch) := by
  induction xs generalizing ch with
  | nil => exact tells_pure
  | cons x rest ih => exact tells_bind (hf ch x) ih

end Rules

variable (ch : Channel)

/-- A step that may be taken is taken and told of, and no other. -/
theorem tells_become (next : State) (reason : Option ErrorInfo) (resumed : Bool) :
    Tells ch (ch.become next reason resumed) := by
  refine become_cases (fun hmay => ?goes) fun _ => tells_pure
  let change : Change := ⟨ch.state, next, reason, resumed⟩
  have htold : ∀ id, channelChanges id (ch.stateListeners.publish next (.channel change)).log =
      ((ch.stateListeners.seats id).filter fun e => e.wants next).map fun _ => change :=
    fun id => Listener.Registry.filterMap_publish next (.channel change)
      (Effect.channelChange? id) change (if_pos rfl) fun _ hne => if_neg hne
  refine ⟨ch.stateListeners.live_prune, fun id => ?_, fun id hid => ?_, fun id hid => ?_⟩
  · rw [Logged.log_bind, Logged.log_pure, List.append_nil]
    refine List.filterMap_eq_nil_iff.mpr fun e he => ?_
    obtain ⟨_, rfl⟩ := mem_publish he
    rfl
  · rw [Logged.log_bind, Logged.log_pure, List.append_nil, htold, hid]
    exact ⟨rfl, hmay, rfl⟩
  · rw [Logged.log_bind, Logged.log_pure, List.append_nil, htold, hid]
    rfl

theorem still_failWaiters (e : ErrorInfo) : Still (ch.failWaiters e).log :=
  still_append (still_resolveEach _ _ _) (still_append (still_resolveEach _ id _)
    (still_append (still_resolveEach _ id _) (still_append (still_answerGets _ _) still_nil)))

theorem tells_failWaiters (e : ErrorInfo) : Tells ch (ch.failWaiters e) :=
  tells_same rfl rfl (still_failWaiters ch e)

theorem tells_failQueue (e : ErrorInfo) : Tells ch (ch.failQueue e) :=
  tells_same rfl rfl (still_append (still_resolveEach _ _ _) still_nil)

theorem tells_attachDone : Tells ch ch.attachDone :=
  tells_same rfl rfl (still_append (still_resolveEach _ id _) still_nil)

theorem tells_detachDone : Tells ch ch.detachDone :=
  tells_same rfl rfl (still_append (still_resolveEach _ id _) still_nil)

theorem tells_failAttachWaiters (e : ErrorInfo) : Tells ch (ch.failAttachWaiters e) :=
  tells_same rfl rfl (still_append (still_resolveEach _ id _) still_nil)

theorem tells_failDetachWaiters (e : ErrorInfo) : Tells ch (ch.failDetachWaiters e) :=
  tells_same rfl rfl (still_append (still_resolveEach _ id _) still_nil)

theorem tells_failGets (e : ErrorInfo) : Tells ch (ch.failGets e) :=
  tells_same rfl rfl (still_append (still_answerGets _ _) still_nil)

theorem tells_answerGets : Tells ch ch.answerGets :=
  tells_same rfl rfl (still_append
    (still_answerGets _ fun g => .members (ch.roster.select g.query)) still_nil)

theorem tells_answerUnsyncedGets : Tells ch ch.answerUnsyncedGets :=
  tells_same rfl rfl (still_append
    (still_answerGets _ fun g => .members (ch.roster.select g.query)) still_nil)

theorem tells_announce (p : Presence) : Tells ch (ch.announce p) := by
  refine tells_same rfl rfl (still_append (fun e he => ?_) still_nil)
  obtain ⟨_, rfl⟩ := mem_publish he
  rfl

theorem tells_take (p : Presence) : Tells ch (ch.take p) :=
  take_cases (fun _ _ => tells_from (tells_announce _ _) rfl rfl)
    fun _ => tells_same rfl rfl still_nil

theorem tells_endSync (timestamp : Option Int) : Tells ch (ch.endSync timestamp) :=
  tells_from (tells_foldlM (fun ch p => tells_announce ch p) _) rfl rfl

theorem tells_enterDetached (reason : Option ErrorInfo) (e : ErrorInfo) :
    Tells ch (ch.enterDetached reason e) := by
  unfold enterDetached
  refine tells_bind (tells_from (tells_become _ _ _ _) rfl rfl) ?_
  exact tells_bind (tells_from (tells_detachDone _) rfl rfl) (tells_failWaiters _ e)

theorem tells_detachTimedOut : Tells ch (Client.detachTimedOut ch) :=
  tells_bind (tells_become _ _ _ _) (tells_failDetachWaiters _ _)

theorem tells_detachOnClose (e : ErrorInfo) : Tells ch (Client.detachOnClose e ch) :=
  Client.detachOnClose_cases (fun _ => tells_enterDetached ch none e) fun _ =>
    tells_failWaiters ch e

theorem tells_toAttaching (waiters : List Responder) : Tells ch (Client.toAttaching waiters ch) :=
  tells_bind (tells_from (tells_failDetachWaiters _ _) rfl rfl) (tells_become _ _ _ _)

theorem tells_toDetaching (waiter : Responder) : Tells ch (Client.toDetaching waiter ch) :=
  tells_bind (tells_failAttachWaiters _ _) (tells_from (tells_become _ _ _ _) rfl rfl)

theorem tells_toFailed (e : ErrorInfo) : Tells ch (Client.toFailed e ch) :=
  tells_bind (tells_from (tells_become _ _ _ _) rfl rfl)
    (tells_from (tells_failWaiters _ e) rfl rfl)

theorem tells_suspendedChannel (e : ErrorInfo) (alarm : Option (Alarm Timer)) :
    Tells ch (Client.suspendedChannel e alarm ch) := by
  refine Client.suspendedChannel_cases (fun _ => ?suspends) fun _ => tells_pure
  exact tells_bind (tells_become ch _ _ _)
    (tells_bind (tells_failWaiters _ e) (tells_same rfl rfl still_nil))

theorem tells_toAttachingAgain (now : Instant) (e : Option ErrorInfo) :
    Tells ch (Client.toAttachingAgain now e ch) := tells_from (tells_become _ _ _ _) rfl rfl

theorem tells_attachedChannel (m : Message) : Tells ch (Client.attachedChannel m ch) := by
  have hattached : Tells ch (Client.toAttached m ch) :=
    tells_bind (tells_from (tells_become _ _ _ _) rfl rfl)
      (tells_bind (tells_attachDone _) (tells_same rfl rfl still_nil))
  exact Client.attachedChannel_cases (fun _ => tells_bind hattached (tells_answerUnsyncedGets _))
    fun _ => tells_bind hattached (tells_bind (tells_endSync _ _) (tells_answerGets _))

theorem tells_takeLive (c : Client) (p : Presence) : Tells ch (c.takeLive ch p) :=
  Client.takeLive_cases (fun _ => tells_from (tells_take _ p) rfl rfl) fun _ => tells_take ch p

theorem tells_takePage (m : Message) : Tells ch (Client.takePage m ch) := by
  have htaken : Tells ch (Client.takeRecords m ch) :=
    tells_bind (tells_from (tells_foldlM (fun ch p => tells_take ch p) _) rfl rfl)
      (tells_same rfl rfl still_nil)
  exact Client.takePage_cases (fun _ => htaken) fun _ =>
    tells_bind htaken (tells_bind (tells_endSync _ _) (tells_answerGets _))

end Channel

/-! ## The client -/

namespace Client

/-- The listener is registered on the channel of a name, for all kinds of change, and on no
other. -/
def HearsOn (c : Client) (name : String) (id : ListenerId) : Prop :=
  (c.channelOrNew name).stateListeners.Hears id ∧
    ∀ other ≠ name, (c.channelOrNew other).stateListeners.IsDeaf id

/-- A listener for all kinds of change is told of the way from the state before to the one after,
be it of the connection or of a channel. Who listens stays as it is. -/
structure Tells (c : Client) (r : Logged Client) : Prop where
  connectionLive : r.value.connectionListeners.live = c.connectionListeners.live
  channelLive : ∀ name, (r.value.channelOrNew name).stateListeners.live =
    (c.channelOrNew name).stateListeners.live
  nextListener : c.nextListener ≤ r.value.nextListener
  connection : ∀ id, c.connectionListeners.Hears id →
    Connection.Path c.connection.state (connectionChanges id r.log) r.value.connection.state
  channel : ∀ name id, c.HearsOn name id → Channel.Path (c.channelOrNew name).state
    (channelChanges id r.log) (r.value.channelOrNew name).state

section Rules

variable {c d : Client} {r : Logged Client} {name : String} {ch ch' : Channel}

theorem tells_bind {x : Logged Client} {f : Client → Logged Client} (h1 : Tells c x)
    (h2 : Tells x.value (f x.value)) : Tells c (x >>= f) := by
  refine ⟨h2.connectionLive.trans h1.connectionLive,
    fun name => (h2.channelLive name).trans (h1.channelLive name),
    h1.nextListener.trans h2.nextListener, fun id hid => ?_, fun name id hid => ?_⟩
  · rw [Logged.log_bind, connectionChanges_append]
    refine Connection.path_append (h1.connection id hid) (h2.connection id ?_)
    unfold Listener.Registry.Hears Listener.Registry.seats
    rwa [h1.connectionLive]
  · rw [Logged.log_bind, channelChanges_append]
    refine Channel.path_append (h1.channel name id hid) (h2.channel name id ?_)
    unfold HearsOn Listener.Registry.Hears Listener.Registry.IsDeaf Listener.Registry.seats at *
    simpa only [h1.channelLive] using hid

/-- No state changes, and nobody is told of one. -/
theorem tells_same (hs : r.value.connection.state = c.connection.state)
    (hch : r.value.channels = c.channels)
    (hl : r.value.connectionListeners = c.connectionListeners)
    (hn : c.nextListener ≤ r.value.nextListener) (hr : Still r.log) : Tells c r := by
  have hsame : ∀ name, r.value.channelOrNew name = c.channelOrNew name := fun name =>
    channelOrNew_congr (channel?_of_channels hch name)
  refine ⟨by rw [hl], fun name => by rw [hsame], hn, fun id _ => ?_, fun name id _ => ?_⟩
  · rw [hr.connection, hs]
    exact rfl
  · rw [hr.channel, hsame]
    exact rfl

theorem tells_pure : Tells c (pure c) := tells_same rfl rfl rfl (Nat.le_refl _) still_nil

/-- What has no part in this comes first. -/
theorem tells_from (h : Tells d r) (hs : d.connection.state = c.connection.state)
    (hch : d.channels = c.channels) (hl : d.connectionListeners = c.connectionListeners)
    (hn : d.nextListener = c.nextListener) : Tells c r :=
  tells_bind (x := pure d) (f := fun _ => r)
    (tells_same hs hch hl (Nat.le_of_eq hn.symm) still_nil) h

/-- Effects that tell of no change may come first. -/
theorem tells_quiet {α : Type} {x : Logged α} {f : α → Logged Client} (hx : Still x.log)
    (h : Tells c (f x.value)) : Tells c (x >>= f) := by
  refine ⟨h.connectionLive, h.channelLive, h.nextListener, fun id hid => ?_, fun name id hid => ?_⟩
  · rw [Logged.log_bind, connectionChanges_append, hx.connection, List.nil_append]
    exact h.connection id hid
  · rw [Logged.log_bind, channelChanges_append, hx.channel, List.nil_append]
    exact h.channel name id hid

/-- What a channel does by itself. -/
theorem tells_put {x : Logged Channel} (hx : (c.channelOrNew name).Tells x) :
    Tells c { value := c.setChannel name x.value, log := x.log } := by
  refine ⟨rfl, fun other => ?_, Nat.le_refl _, fun id _ => ?_, fun other id hid => ?_⟩
  · dsimp only
    by_cases hne : other = name
    · subst hne
      rw [channelOrNew_setChannel_self]
      exact hx.live
    · rw [channelOrNew_setChannel_ne c name _ hne]
  · rw [hx.connection]
    exact rfl
  · dsimp only
    by_cases hne : other = name
    · subst hne
      rw [channelOrNew_setChannel_self]
      exact hx.path id hid.1
    · rw [channelOrNew_setChannel_ne c name _ hne, hx.silent id (hid.2 name (Ne.symm hne))]
      exact rfl

theorem tells_channel {x : Logged Channel} {f : Channel → Logged Client}
    (hch : c.channelOrNew name = ch) (hx : ch.Tells x)
    (h : Tells (c.setChannel name x.value) (f x.value)) : Tells c (x >>= f) := by
  subst hch
  exact tells_bind (f := fun _ => f x.value) (tells_put hx) h

/-- Nothing but those who wait, timers and the like is changed. -/
theorem tells_set (hs : ch.state = (c.channelOrNew name).state)
    (hl : ch.stateListeners = (c.channelOrNew name).stateListeners)
    (h : Tells (c.setChannel name ch) r) : Tells c r :=
  tells_channel (x := pure ch) (f := fun _ => r) rfl (Channel.tells_same hs hl still_nil) h

theorem tells_ensure (name : String) (h : Tells (c.ensureChannel name) r) : Tells c r :=
  tells_set rfl rfl h

/-- A channel that is there is changed, but for its state and those who listen to that. -/
theorem tells_change (hch : c.channel? name = some ch) (h : Tells (c.setChannel name ch') r)
    (hs : ch'.state = ch.state) (hl : ch'.stateListeners = ch.stateListeners) : Tells c r := by
  rw [← channelOrNew_of_some hch] at hs hl
  exact tells_set hs hl h

theorem tells_onChannel {f : Channel → Logged Channel} (hf : ∀ ch : Channel, ch.Tells (f ch)) :
    Tells c (c.onChannel name f) :=
  onChannel_cases (fun _ => tells_pure) fun ch hch =>
    tells_channel (channelOrNew_of_some hch) (hf ch) tells_pure

theorem tells_foldlM {α : Type} {f : Client → α → Logged Client} (hf : ∀ d x, Tells d (f d x))
    (xs : List α) : Tells c (xs.foldlM f c) := by
  induction xs generalizing c with
  | nil => exact tells_pure
  | cons x rest ih => exact tells_bind (hf c x) ih

theorem tells_told {es : List Effect} (hes : Still es) : Tells c (do
    tell es
    pure c) := tells_quiet hes tells_pure

end Rules

end Client

end PresenceClient
