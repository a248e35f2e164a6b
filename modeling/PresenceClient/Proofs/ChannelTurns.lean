-- The turns of a channel: all that a step of the client can do to its core, with what is
-- sent there for the first time. What each turn keeps, every run keeps.
import PresenceClient.Proofs.ChannelCore

namespace PresenceClient.Channel

/-! ## What a turn makes of the core -/

namespace Core

/-- An attach begins, and a detach that was under way is superseded. -/
def begun (k : Core) (waiters : List Responder) (up : Bool) : Core :=
  { k with
    state := .attaching
    attachWaiters := k.attachWaiters ++ waiters
    detachWaiters := []
    timer := if up then some .attachTimeout else k.timer }

/-- A detach begins, and an attach that was under way is superseded. -/
def detachBegun (k : Core) (waiter : Responder) : Core :=
  { k with
    state := .detaching
    attachWaiters := []
    detachWaiters := k.detachWaiters ++ [waiter]
    timer := some .detachTimeout }

/-- The channel is attached again, on its own account. -/
def reattached (k : Core) (up : Bool) : Core :=
  { k with state := .attaching, timer := if up then some .attachTimeout else k.timer }

/-- The server has attached the channel, and what is queued goes out on a live link. -/
def served (k : Core) (peopled up : Bool) : Core :=
  { k with
    state := .attached
    queue := if up then [] else k.queue
    attachWaiters := []
    pendingGets := if peopled then k.pendingGets.filter (·.query.waitForSync) else []
    timer := none
    sync := if peopled then .inProgress else .complete }

def suspended (k : Core) (timer : Option Timer) : Core :=
  { k.cleared with state := .suspended, timer := timer }

/-- The channel is out of use, detached or failed. -/
def ended (k : Core) (state : State) : Core :=
  { k.cleared with state := state, timer := none, sync := .notStarted }

/-- A detach is given up. -/
def undetached (k : Core) : Core :=
  { k with state := .attached, detachWaiters := [], timer := none }

end Core

/-! ## The turns -/

/-- What gives a channel its turn. -/
inductive Cue where
  /-- A caller publishes. -/
  | submit (ticket : Ticket)
  /-- The server has attached the channel. -/
  | attached
  /-- The timer of the channel may be due. -/
  | timer
  /-- The timer is due, and a detach is given up on a live link. -/
  | giveUp
  | other

/-- One turn of the channel `name`: the core before it, what is sent for the first time,
and the core after it. The two booleans say if the connection is up, before and after. -/
inductive Turn (name : String) : Bool → Cue → Core → List Ticket → Core → Bool → Prop
  | idle {up up' : Bool} {cue : Cue} {k : Core} (hcue : cue ≠ .attached ∧ cue ≠ .giveUp)
      (hup : up' = true → up = true ∨ k.state = .initialized ∨ k.state = .detached ∨
        k.state = .failed) : Turn name up cue k [] k up'
  | publishNow {t : Ticket} {k : Core} (hs : k.state = .attached) :
      Turn name true (.submit t) k [t] k true
  | publishLater {up : Bool} {t : Ticket} {m : Message} {k : Core} (hm : m.channel = some name)
      (hs : k.state = .attaching ∨ k.state = .attached ∧ up = false) :
      Turn name up (.submit t) k [] { k with queue := k.queue ++ [⟨m, .caller t⟩] } up
  | publishFirst {up : Bool} {t : Ticket} {m : Message} {k : Core} (hm : m.channel = some name)
      (hs : k.state = .initialized ∨ k.state = .detached ∨ k.state = .detaching) :
      Turn name up (.submit t) k []
        (Core.begun { k with queue := k.queue ++ [⟨m, .caller t⟩] } [] up) up
  | served {up : Bool} {k : Core} (peopled : Bool)
      (hs : k.state = .attaching ∨ k.state = .attached ∨ k.state = .suspended) :
      Turn name up .attached k (if up then queueTickets k.queue else []) (k.served peopled up) up
  | attachTimedOut {up : Bool} {k : Core} (hs : k.state = .attaching) :
      Turn name up .timer k [] (k.suspended (some .reattach)) up
  | reattachDue {k : Core} (hs : k.state = .suspended) :
      Turn name true .timer k [] (k.begun [] true) true
  | timerGone {k : Core}
      (hs : k.state = .attaching ∨ k.state = .detaching ∨ k.state = .suspended) :
      Turn name false .timer k [] { k with timer := none } false
  | giveUp {k : Core} (hs : k.state = .detaching) :
      Turn name true .giveUp k [] k.undetached true
  | ended {up up' : Bool} {k : Core} {state : State} (hs : state = .detached ∨ state = .failed)
      (hup : up' = true → up = true) : Turn name up .other k [] (k.ended state) up'
  | suspended {up up' : Bool} {timer : Option Timer} {k : Core}
      (ht : timer = some .reattach ∨ timer = none ∧ up' = false) (hup : up' = true → up = true) :
      Turn name up .other k [] (k.suspended timer) up'
  | cleared {up up' : Bool} {k : Core} (hup : up' = true → up = true) :
      Turn name up .other k [] k.cleared up'
  | queueFailed {up up' : Bool} {k : Core} (hup : up' = true → up = true) :
      Turn name up .other k [] { k with queue := [] } up'
  | released {up : Bool} {k : Core} : Turn name up .other k [] {} up
  | attachAgain {up : Bool} {k : Core} (hs : k.state = .attaching) :
      Turn name up .other k [] { k with timer := some .attachTimeout } true
  | detachAgain {up : Bool} {k : Core} (hs : k.state = .detaching) :
      Turn name up .other k [] { k with timer := some .detachTimeout } true
  | flushed {up : Bool} {k : Core} (hs : k.state = .attached) :
      Turn name up .other k (queueTickets k.queue) { k with queue := [] } true
  | reattached {up up' : Bool} {k : Core}
      (hs : k.state = .attaching ∨ k.state = .attached ∨ k.state = .suspended) :
      Turn name up .other k [] (k.reattached up') up'
  | begun {up : Bool} {k : Core} (waiters : List Responder) (gets : List PendingGet)
      (hs : k.state ≠ .attaching ∧ k.state ≠ .attached) :
      Turn name up .other k []
        (Core.begun { k with pendingGets := k.pendingGets ++ gets } waiters up) up
  | joinAttach {up : Bool} {k : Core} (waiters : List Responder) (hs : k.state = .attaching) :
      Turn name up .other k [] { k with attachWaiters := k.attachWaiters ++ waiters } up
  | joinDetach {up : Bool} {k : Core} (waiter : Responder) (hs : k.state = .detaching) :
      Turn name up .other k [] { k with detachWaiters := k.detachWaiters ++ [waiter] } up
  | detachBegun {k : Core} (waiter : Responder)
      (hs : k.state = .attaching ∨ k.state = .attached) :
      Turn name true .other k [] (k.detachBegun waiter) true
  | parkGet {up : Bool} {k : Core} (g : PendingGet)
      (hs : k.state = .attaching ∨ k.state = .attached) :
      Turn name up .other k [] { k with pendingGets := k.pendingGets ++ [g] } up
  | failGets {up : Bool} {k : Core} : Turn name up .other k [] { k with pendingGets := [] } up
  | paged {up : Bool} {k : Core} (last : Bool) (hs : k.state = .attached) :
      Turn name up .other k [] (k.paged last) up

/-- The operations that a turn brings to the channel. -/
def Cue.submitted : Cue → List Ticket
  | .submit t => [t]
  | _ => []

variable {name : String} {up up' : Bool} {cue : Cue} {k k' : Core} {sent : List Ticket}

/-! ## Those who wait -/

/-- Is the channel out of use, so that nothing the server said of it counts any more? -/
def State.isResting : State → Bool
  | .initialized | .detached | .failed => true
  | _ => false

/-- Nobody waits on the channel. -/
def Core.Idle (k : Core) : Prop :=
  k.queue = [] ∧ k.attachWaiters = [] ∧ k.detachWaiters = [] ∧ k.pendingGets = []

/-- Who waits and which timer runs is right for the state of the channel. Where no link is
up, a timer may have gone, and an attach may still have the timer of what came before it. -/
def Core.Fits (k : Core) (up : Bool) : Prop :=
  match k.state with
  | .attaching => k.detachWaiters = [] ∧ (up = true → k.timer = some .attachTimeout)
  | .attached => k.attachWaiters = [] ∧ k.detachWaiters = [] ∧ k.timer = none
  | .detaching =>
    k.attachWaiters = [] ∧ (k.timer = some .detachTimeout ∨ k.timer = none ∧ up = false)
  | .suspended => k.Idle ∧ (k.timer = some .reattach ∨ k.timer = none ∧ up = false)
  | .initialized | .detached | .failed => k.Idle ∧ k.timer = none

section Fits

theorem fits_attaching (hs : k.state = .attaching) : k.Fits up ↔
    k.detachWaiters = [] ∧ (up = true → k.timer = some .attachTimeout) := by
  rw [Core.Fits, hs]

theorem fits_attached (hs : k.state = .attached) : k.Fits up ↔
    k.attachWaiters = [] ∧ k.detachWaiters = [] ∧ k.timer = none := by
  rw [Core.Fits, hs]

theorem fits_detaching (hs : k.state = .detaching) : k.Fits up ↔
    k.attachWaiters = [] ∧ (k.timer = some .detachTimeout ∨ k.timer = none ∧ up = false) := by
  rw [Core.Fits, hs]

theorem fits_suspended (hs : k.state = .suspended) : k.Fits up ↔
    k.Idle ∧ (k.timer = some .reattach ∨ k.timer = none ∧ up = false) := by
  rw [Core.Fits, hs]

theorem fits_resting (hs : k.state.isResting = true) :
    k.Fits up ↔ k.Idle ∧ k.timer = none := by
  unfold Core.Fits
  cases hk : k.state <;> simp [hk, State.isResting] at hs ⊢

theorem idle_cleared (k : Core) : k.cleared.Idle := ⟨rfl, rfl, rfl, rfl⟩

theorem fits_fresh (up : Bool) : Core.Fits {} up := (fits_resting rfl).mpr ⟨idle_cleared {}, rfl⟩

theorem fits_begun (k : Core) (waiters : List Responder) (up : Bool) :
    (k.begun waiters up).Fits up := (fits_attaching rfl).mpr ⟨rfl, fun hup => if_pos hup⟩

/-- Only an attach that is under way is waited for. -/
theorem Core.Fits.no_attach (h : k.Fits up) (hs : k.state ≠ .attaching) :
    k.attachWaiters = [] := by
  cases hk : k.state with
  | attaching => exact absurd hk hs
  | attached => exact ((fits_attached hk).mp h).1
  | detaching => exact ((fits_detaching hk).mp h).1
  | suspended => exact ((fits_suspended hk).mp h).1.2.1
  | _ => exact ((fits_resting (by rw [hk]; rfl)).mp h).1.2.1

/-- Only a detach that is under way is waited for. -/
theorem Core.Fits.no_detach (h : k.Fits up) (hs : k.state ≠ .detaching) :
    k.detachWaiters = [] := by
  cases hk : k.state with
  | attaching => exact ((fits_attaching hk).mp h).1
  | attached => exact ((fits_attached hk).mp h).2.1
  | detaching => exact absurd hk hs
  | suspended => exact ((fits_suspended hk).mp h).1.2.2.1
  | _ => exact ((fits_resting (by rw [hk]; rfl)).mp h).1.2.2.1

/-- Which timer runs tells what the channel is about. -/
theorem Core.Fits.of_timer {t : Timer} (h : k.Fits up) (ht : k.timer = some t) :
    (t = .attachTimeout → k.state = .attaching) ∧
      (t = .detachTimeout → k.state = .detaching ∨ k.state = .attaching ∧ up = false) ∧
      (t = .reattach → k.state = .suspended ∨ k.state = .attaching ∧ up = false) := by
  cases hs : k.state with
  | attaching =>
    rw [fits_attaching hs, ht] at h
    have hdown : t ≠ .attachTimeout → up = false := fun hne =>
      eq_false_of_ne_true fun hup => hne (Option.some.inj (h.2 hup))
    exact ⟨fun _ => rfl, fun ht => .inr ⟨rfl, hdown (by simp [ht])⟩,
      fun ht => .inr ⟨rfl, hdown (by simp [ht])⟩⟩
  | attached => exact nomatch ht.symm.trans ((fits_attached hs).mp h).2.2
  | detaching =>
    rw [fits_detaching hs, ht] at h
    rcases h.2 with h | h
    · cases h
      exact ⟨nofun, fun _ => .inl rfl, nofun⟩
    · exact nomatch h.1
  | suspended =>
    rw [fits_suspended hs, ht] at h
    rcases h.2 with h | h
    · cases h
      exact ⟨nofun, nofun, fun _ => .inl rfl⟩
    · exact nomatch h.1
  | _ => exact nomatch ht.symm.trans ((fits_resting (by rw [hs]; rfl)).mp h).2

/-- A link that goes down, and one that comes up on a channel out of use, change nothing. -/
theorem Core.Fits.under (h : k.Fits up) (hup : up' = true → up = true ∨ k.state.isResting = true) :
    k.Fits up' := by
  have hdown : k.state.isResting = false → up = false → up' = false := by
    intro hr hd
    cases up' with
    | false => rfl
    | true => rcases hup rfl with hu | hr' <;> simp_all
  cases hs : k.state with
  | attaching =>
    rw [fits_attaching hs] at h ⊢
    refine ⟨h.1, fun hu => h.2 ((hup hu).resolve_right ?_)⟩
    simp [hs, State.isResting]
  | attached => exact (fits_attached hs).mpr ((fits_attached hs).mp h)
  | detaching =>
    rw [fits_detaching hs] at h ⊢
    exact ⟨h.1, h.2.imp_right fun hn => ⟨hn.1, hdown (by rw [hs]; rfl) hn.2⟩⟩
  | suspended =>
    rw [fits_suspended hs] at h ⊢
    exact ⟨h.1, h.2.imp_right fun hn => ⟨hn.1, hdown (by rw [hs]; rfl) hn.2⟩⟩
  | _ =>
    have hr : k.state.isResting = true := by rw [hs]; rfl
    exact (fits_resting hr).mpr ((fits_resting hr).mp h)

/-- Nobody has to wait. -/
theorem Core.Fits.fewer (h : k.Fits up) (hs : k'.state = k.state) (ht : k'.timer = k.timer)
    (hq : k.queue = [] → k'.queue = []) (ha : k.attachWaiters = [] → k'.attachWaiters = [])
    (hd : k.detachWaiters = [] → k'.detachWaiters = [])
    (hg : k.pendingGets = [] → k'.pendingGets = []) : k'.Fits up := by
  unfold Core.Fits Core.Idle at *
  rw [hs, ht]
  split at h <;> simp_all

end Fits

/-- Whatever a turn does, it leaves those who wait and the timer right for the new state. -/
theorem fits_turn (h : Turn name up cue k sent k' up') (hk : k.Fits up) : k'.Fits up' := by
  cases h with
  | idle hcue hup =>
    refine hk.under fun hu => (hup hu).imp_right fun hs => ?_
    rcases hs with hs | hs | hs <;> simp [hs, State.isResting]
  | publishNow hs => exact hk
  | publishLater hm hs =>
    rcases hs with hs | ⟨hs, -⟩
    · exact Iff.mpr (fits_attaching hs) ((fits_attaching hs).mp hk)
    · exact Iff.mpr (fits_attached hs) ((fits_attached hs).mp hk)
  | publishFirst hm hs => exact fits_begun _ _ _
  | served peopled hs =>
    refine (fits_attached rfl).mpr ⟨rfl, hk.no_detach ?_, rfl⟩
    rcases hs with hs | hs | hs <;> simp [hs]
  | attachTimedOut hs => exact (fits_suspended rfl).mpr ⟨idle_cleared k, .inl rfl⟩
  | reattachDue hs => exact fits_begun _ _ _
  | timerGone hs =>
    rcases hs with hs | hs | hs
    · exact Iff.mpr (fits_attaching hs) ⟨hk.no_detach (by simp [hs]), nofun⟩
    · exact Iff.mpr (fits_detaching hs) ⟨hk.no_attach (by simp [hs]), .inr ⟨rfl, rfl⟩⟩
    · exact Iff.mpr (fits_suspended hs) ⟨((fits_suspended hs).mp hk).1, .inr ⟨rfl, rfl⟩⟩
  | giveUp hs => exact (fits_attached rfl).mpr ⟨hk.no_attach (by simp [hs]), rfl, rfl⟩
  | ended hs hup =>
    refine (fits_resting ?_).mpr ⟨idle_cleared k, rfl⟩
    rcases hs with rfl | rfl <;> rfl
  | suspended ht hup => exact (fits_suspended rfl).mpr ⟨idle_cleared k, ht⟩
  | cleared hup =>
    exact (hk.under fun hu => .inl (hup hu)).fewer rfl rfl (fun _ => rfl) (fun _ => rfl)
      (fun _ => rfl) fun _ => rfl
  | queueFailed hup =>
    exact (hk.under fun hu => .inl (hup hu)).fewer rfl rfl (fun _ => rfl) id id id
  | released => exact fits_fresh up
  | attachAgain hs =>
    exact Iff.mpr (fits_attaching hs) ⟨hk.no_detach (by simp [hs]), fun _ => rfl⟩
  | detachAgain hs => exact Iff.mpr (fits_detaching hs) ⟨hk.no_attach (by simp [hs]), .inl rfl⟩
  | flushed hs => exact Iff.mpr (fits_attached hs) ((fits_attached hs).mp hk)
  | reattached hs =>
    refine (fits_attaching rfl).mpr ⟨hk.no_detach ?_, fun hup => if_pos hup⟩
    rcases hs with hs | hs | hs <;> simp [hs]
  | begun waiters gets hs => exact fits_begun _ _ _
  | joinAttach waiters hs => exact Iff.mpr (fits_attaching hs) ((fits_attaching hs).mp hk)
  | joinDetach waiter hs => exact Iff.mpr (fits_detaching hs) ((fits_detaching hs).mp hk)
  | detachBegun waiter hs => exact (fits_detaching rfl).mpr ⟨rfl, .inl rfl⟩
  | parkGet g hs =>
    rcases hs with hs | hs
    · exact Iff.mpr (fits_attaching hs) ((fits_attaching hs).mp hk)
    · exact Iff.mpr (fits_attached hs) ((fits_attached hs).mp hk)
  | failGets => exact hk.fewer rfl rfl id id id fun _ => rfl
  | paged last hs =>
    unfold Core.paged
    split <;> exact Iff.mpr (fits_attached hs) ((fits_attached hs).mp hk)

/-! ## The queue -/

/-- What is queued on a channel goes to that channel. -/
def Core.Addressed (k : Core) (name : String) : Prop :=
  ∀ q ∈ k.queue, q.message.channel = some name

/-- Nothing is queued on a channel that is attached over a live link. -/
def Core.Drained (k : Core) (up : Bool) : Prop := up = true → k.state = .attached → k.queue = []

/-- What a turn can do to a queue: leave it, drop it, send it, or add to it; or a caller
publishes past it. -/
theorem queue_turn (h : Turn name up cue k sent k' up') :
    (sent = [] ∧ k'.queue = k.queue) ∨ (sent = [] ∧ k'.queue = []) ∨
      (sent = queueTickets k.queue ∧ k'.queue = []) ∨
      (∃ t m, cue = .submit t ∧ m.channel = some name ∧ sent = [] ∧
        k'.queue = k.queue ++ [⟨m, .caller t⟩]) ∨
      (∃ t, cue = .submit t ∧ up = true ∧ k.state = .attached ∧ sent = [t] ∧
        k'.queue = k.queue) := by
  cases h with
  | publishNow hs => exact .inr (.inr (.inr (.inr ⟨_, rfl, rfl, hs, rfl, rfl⟩)))
  | publishLater hm hs => exact .inr (.inr (.inr (.inl ⟨_, _, rfl, hm, rfl, rfl⟩)))
  | publishFirst hm hs => exact .inr (.inr (.inr (.inl ⟨_, _, rfl, hm, rfl, rfl⟩)))
  | served peopled hs =>
    cases up with
    | true => exact .inr (.inr (.inl ⟨rfl, rfl⟩))
    | false => exact .inl ⟨rfl, rfl⟩
  | flushed hs => exact .inr (.inr (.inl ⟨rfl, rfl⟩))
  | paged last hs =>
    unfold Core.paged
    split <;> exact .inl ⟨rfl, rfl⟩
  | attachTimedOut hs => exact .inr (.inl ⟨rfl, rfl⟩)
  | ended hs hup => exact .inr (.inl ⟨rfl, rfl⟩)
  | suspended ht hup => exact .inr (.inl ⟨rfl, rfl⟩)
  | cleared hup => exact .inr (.inl ⟨rfl, rfl⟩)
  | queueFailed hup => exact .inr (.inl ⟨rfl, rfl⟩)
  | released => exact .inr (.inl ⟨rfl, rfl⟩)
  | _ => exact .inl ⟨rfl, rfl⟩

theorem addressed_turn (h : Turn name up cue k sent k' up') (hk : k.Addressed name) :
    k'.Addressed name := by
  unfold Core.Addressed at *
  rcases queue_turn h with ⟨-, hq⟩ | ⟨-, hq⟩ | ⟨-, hq⟩ | ⟨t, m, -, hm, -, hq⟩ | ⟨t, -, -, -, -, hq⟩
  · rwa [hq]
  · simp [hq]
  · simp [hq]
  · intro q hmem
    rw [hq] at hmem
    rcases List.mem_append.mp hmem with hmem | hmem
    · exact hk q hmem
    · rw [List.mem_singleton.mp hmem]
      exact hm
  · rwa [hq]

/-- A queue that is drained stays drained, unless a detach is given up before it is. -/
theorem drained_turn (h : Turn name up cue k sent k' up') (hk : k.Drained up)
    (hg : cue = .giveUp → k.queue = []) : k'.Drained up' := by
  unfold Core.Drained at *
  cases h with
  | idle hcue hup => grind
  | publishNow hs => exact hk
  | publishLater hm hs => grind
  | served peopled hs => grind [Core.served]
  | timerGone hs => exact hk
  | giveUp hs => exact fun _ _ => hg rfl
  | ended hs hup => exact fun _ _ => rfl
  | suspended ht hup => exact fun _ _ => rfl
  | cleared hup => exact fun _ _ => rfl
  | queueFailed hup => exact fun _ _ => rfl
  | released => exact fun _ _ => rfl
  | attachAgain hs => exact fun _ hs' => by cases hs.symm.trans hs'
  | detachAgain hs => exact fun _ hs' => by cases hs.symm.trans hs'
  | flushed hs => exact fun _ _ => rfl
  | paged last hs => grind [Core.paged]
  | joinAttach waiters hs => exact hk
  | joinDetach waiter hs => exact hk
  | parkGet g hs => exact hk
  | failGets => exact hk
  -- In all other turns the channel is not attached afterwards.
  | _ => exact fun _ hs' => by cases hs'

/-- What is sent and what stays queued was queued or comes now, in that order. -/
theorem order_turn (h : Turn name up cue k sent k' up') (hk : k.Drained up) :
    (sent ++ queueTickets k'.queue).Sublist (queueTickets k.queue ++ cue.submitted) := by
  rcases queue_turn h with ⟨rfl, hq⟩ | ⟨rfl, hq⟩ | ⟨rfl, hq⟩ | ⟨t, m, rfl, -, rfl, hq⟩ |
    ⟨t, rfl, hup, hs, rfl, hq⟩
  · rw [hq]
    exact List.sublist_append_left _ _
  · rw [hq]
    exact List.nil_sublist _
  · rw [hq, queueTickets_nil, List.append_nil]
    exact List.sublist_append_left _ _
  · rw [hq, queueTickets_append]
    exact List.Sublist.refl _
  · rw [hq, hk hup hs]
    exact List.Sublist.refl _

/-! ## The word of the server -/

/-- The sync of the channel is where its state says that it is. -/
structure Core.Synced (k : Core) : Prop where
  attached : k.state = .attached → k.sync ≠ .notStarted
  resting : k.state.isResting = true → k.sync = .notStarted

theorem synced_fresh : Core.Synced {} := ⟨nofun, fun _ => rfl⟩

theorem synced_between (h : k.state = .attaching ∨ k.state = .detaching ∨ k.state = .suspended) :
    k.Synced := by
  constructor <;> rcases h with h | h | h <;> simp [h, State.isResting]

/-- A channel stays synced, unless a detach is given up on a channel that no sync has
reached. -/
theorem synced_turn (h : Turn name up cue k sent k' up') (hk : k.Synced)
    (hg : cue = .giveUp → k.sync ≠ .notStarted) : k'.Synced := by
  obtain ⟨h1, h2⟩ := hk
  cases h with
  | served peopled hs => constructor <;> grind [Core.served, State.isResting]
  | giveUp hs => exact ⟨fun _ => hg rfl, fun h => by cases h⟩
  | ended hs hup => constructor <;> grind [Core.ended]
  | released => exact synced_fresh
  | paged last hs => constructor <;> grind [Core.paged, State.isResting]
  | publishFirst hm hs => exact synced_between (.inl rfl)
  | attachTimedOut hs => exact synced_between (.inr (.inr rfl))
  | reattachDue hs => exact synced_between (.inl rfl)
  | suspended ht hup => exact synced_between (.inr (.inr rfl))
  | begun waiters gets hs => exact synced_between (.inl rfl)
  | detachBegun waiter hs => exact synced_between (.inr (.inl rfl))
  | reattached hs => exact synced_between (.inl rfl)
  | _ => exact ⟨h1, h2⟩

/-- Only the word of the server starts a sync. -/
theorem sync_begins (h : Turn name up cue k sent k' up') (hk : k.Synced)
    (hs' : k'.sync ≠ .notStarted) : cue = .attached ∨ k.sync ≠ .notStarted := by
  cases h with
  | served peopled hs => exact .inl rfl
  | paged last hs => exact .inr (hk.attached hs)
  | ended hs hup => exact absurd rfl hs'
  | released => exact absurd rfl hs'
  | _ => exact .inr hs'

/-- A sync is not forgotten while the channel is in use. -/
theorem sync_stays (h : Turn name up cue k sent k' up') (hk : k.sync ≠ .notStarted)
    (hs' : k'.state.isResting = false) : k'.sync ≠ .notStarted := by
  cases h with
  | served peopled hs => grind [Core.served]
  | paged last hs => grind [Core.paged]
  | ended hs hup => grind [Core.ended, State.isResting]
  | released => cases hs'
  | _ => exact hk

theorem served_syncs (h : Turn name up .attached k sent k' up') : k'.sync ≠ .notStarted := by
  cases h with
  | idle hcue hup => exact absurd rfl hcue.1
  | served peopled hs => cases peopled <;> exact nofun

theorem giveUp_undetaches (h : Turn name up .giveUp k sent k' up') :
    k.state = .detaching ∧ up' = true ∧ sent = [] ∧ k' = k.undetached := by
  cases h with
  | idle hcue hup => exact absurd rfl hcue.2
  | giveUp hs => exact ⟨hs, rfl, rfl, rfl⟩

/-- No timer brings a channel into use or out of use. -/
theorem timer_rests (h : Turn name up cue k sent k' up') (hcue : cue = .timer ∨ cue = .giveUp) :
    k'.state.isResting = k.state.isResting := by
  cases h with
  | idle hcue' hup => rfl
  | attachTimedOut hs => simp [hs, State.isResting, Core.suspended, Core.cleared]
  | reattachDue hs => simp [hs, State.isResting, Core.begun]
  | timerGone hs => rfl
  | giveUp hs => simp [hs, State.isResting, Core.undetached]
  | _ => simp at hcue

end PresenceClient.Channel
