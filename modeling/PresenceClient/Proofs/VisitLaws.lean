-- The law of visits. A connection that is suspended, fails or is closed goes through all its
-- channels, in an order that nothing fixes. Two visits commute: each changes one channel, tells
-- those who listen there, and answers those who wait there, and nobody does so on two channels. So
-- whatever the order, the client comes to the same state, and everyone is told the same.
import PresenceClient.Proofs.ChangeLaws
import PresenceClient.Proofs.FailureLaws
import PresenceClient.Proofs.Teardown

namespace PresenceClient

/-- In an ordered table it does not matter which of two keys comes first. -/
theorem Table.put_comm {κ α : Type} [DecidableEq κ] [LT κ] [DecidableLT κ]
    [IsStrictTotalOrder κ (· < ·)] {t : Table κ α} (h : t.Ordered) {k k' : κ} (hne : k ≠ k')
    (v w : α) : (t.put k v).put k' w = (t.put k' w).put k v := by
  refine eq_of_get? (ordered_put (ordered_put h k v) k' w) (ordered_put (ordered_put h k' w) k v)
    fun one => ?_
  by_cases hk : one = k
  · rw [hk, get?_put_ne _ hne, get?_put_self, get?_put_self]
  · by_cases hk' : one = k'
    · rw [hk', get?_put_self, get?_put_ne _ (Ne.symm hne), get?_put_self]
    · rw [get?_put_ne _ hk', get?_put_ne _ hk, get?_put_ne _ hk, get?_put_ne _ hk']

/-! ## What everyone is told -/

def Effect.notice? (id : ListenerId) : Effect → Option Notice
  | .notify listener notice => if listener = id then some notice else none
  | _ => none

def Effect.reply? (t : Ticket) : Effect → Option Reply
  | .resolve ticket reply => if ticket = t then some reply else none
  | _ => none

/-- What a listener is told, in order. -/
def noticesTo (id : ListenerId) (log : List Effect) : List Notice :=
  log.filterMap (Effect.notice? id)

/-- How an operation ends, as often as it does. -/
def repliesTo (t : Ticket) (log : List Effect) : List Reply := log.filterMap (Effect.reply? t)

theorem noticesTo_append (id : ListenerId) (a b : List Effect) :
    noticesTo id (a ++ b) = noticesTo id a ++ noticesTo id b := List.filterMap_append

theorem repliesTo_append (t : Ticket) (a b : List Effect) :
    repliesTo t (a ++ b) = repliesTo t a ++ repliesTo t b := List.filterMap_append

/-- Where an operation is not answered, there is no reply to it. -/
theorem repliesTo_eq_nil {t : Ticket} {log : List Effect} (h : (answered log).count t = 0) :
    repliesTo t log = [] := by
  refine List.filterMap_eq_nil_iff.mpr fun e he => ?_
  unfold Effect.reply?
  split
  · rename_i ticket reply
    refine if_neg ?_
    rintro rfl
    refine List.count_eq_zero.mp h (List.mem_flatMap.mpr ⟨_, he, List.mem_singleton.mpr rfl⟩)
  · rfl

/-- Two ways to go on that nobody can tell apart: they end in the same state, and do the same, in
the same order for each listener and for each operation of its own ticket. -/
structure Alike (own : Ticket → Prop) (r s : Logged Client) : Prop where
  value : r.value = s.value
  log : r.log.Perm s.log
  notices : ∀ id, noticesTo id r.log = noticesTo id s.log
  replies : ∀ t, own t → repliesTo t r.log = repliesTo t s.log

section Alike

variable {own : Ticket → Prop} {r s t : Logged Client}

theorem alike_refl (own : Ticket → Prop) (r : Logged Client) : Alike own r r :=
  ⟨rfl, List.Perm.refl _, fun _ => rfl, fun _ _ => rfl⟩

theorem alike_trans (h : Alike own r s) (h' : Alike own s t) : Alike own r t :=
  ⟨h.value.trans h'.value, h.log.trans h'.log, fun id => (h.notices id).trans (h'.notices id),
    fun one hone => (h.replies one hone).trans (h'.replies one hone)⟩

/-- What comes first is the same. -/
theorem alike_then {α : Type} (x : Logged α) {f g : α → Logged Client}
    (h : Alike own (f x.value) (g x.value)) : Alike own (x >>= f) (x >>= g) := by
  refine ⟨h.value, h.log.append_left x.log, fun id => ?_, fun one hone => ?_⟩
  · rw [Logged.log_bind, Logged.log_bind, noticesTo_append, noticesTo_append, h.notices]
  · rw [Logged.log_bind, Logged.log_bind, repliesTo_append, repliesTo_append, h.replies one hone]

/-- What comes after goes on from the same state. -/
theorem alike_before (h : Alike own r s) (f : Client → Logged Client) :
    Alike own (r >>= f) (s >>= f) := by
  have hafter : (f r.value).log = (f s.value).log := by rw [h.value]
  refine ⟨congrArg (fun c => (f c).value) h.value, ?_, fun id => ?_, fun one hone => ?_⟩
  · rw [Logged.log_bind, Logged.log_bind, hafter]
    exact h.log.append_right _
  · rw [Logged.log_bind, Logged.log_bind, noticesTo_append, noticesTo_append, h.notices, hafter]
  · rw [Logged.log_bind, Logged.log_bind, repliesTo_append, repliesTo_append, h.replies one hone,
      hafter]

/-- Two things are done in either order, and no listener and no operation has a part in both. -/
theorem alike_swapped {a b : List Effect} (hvalue : r.value = s.value) (hr : r.log = a ++ b)
    (hs : s.log = b ++ a) (hnotices : ∀ id, noticesTo id a = [] ∨ noticesTo id b = [])
    (hreplies : ∀ t, own t → repliesTo t a = [] ∨ repliesTo t b = []) : Alike own r s := by
  refine ⟨hvalue, ?_, fun id => ?_, fun one hone => ?_⟩
  · rw [hr, hs]
    exact List.perm_append_comm
  · rw [hr, hs, noticesTo_append, noticesTo_append]
    rcases hnotices id with h | h <;> simp [h]
  · rw [hr, hs, repliesTo_append, repliesTo_append]
    rcases hreplies one hone with h | h <;> simp [h]

end Alike

/-! ## Whom a channel tells -/

namespace Channel

/-- Only those who listen to the channel are told something, and they stay. -/
structure TellsOwn (ch : Channel) (x : Logged Channel) : Prop where
  live : x.value.stateListeners.live = ch.stateListeners.live
  own : ∀ id notice, .notify id notice ∈ x.log → ¬ch.stateListeners.IsDeaf id

section TellsOwn

variable {ch ch' : Channel} {x : Logged Channel}

theorem TellsOwn.noticesTo_eq_nil (h : ch.TellsOwn x) {id : ListenerId}
    (hid : ch.stateListeners.IsDeaf id) : noticesTo id x.log = [] := by
  refine List.filterMap_eq_nil_iff.mpr fun e he => ?_
  unfold Effect.notice?
  split
  · rename_i listener notice
    refine if_neg ?_
    rintro rfl
    exact h.own listener notice he hid
  · rfl

theorem tellsOwn_bind {f : Channel → Logged Channel} (h1 : ch.TellsOwn x)
    (h2 : x.value.TellsOwn (f x.value)) : ch.TellsOwn (x >>= f) := by
  refine ⟨h2.live.trans h1.live, fun id notice hmem => ?_⟩
  rcases List.mem_append.mp hmem with hmem | hmem
  · exact h1.own id notice hmem
  · have hown := h2.own id notice hmem
    unfold Listener.Registry.IsDeaf Listener.Registry.seats at *
    rwa [h1.live] at hown

/-- Nobody is told anything. -/
theorem tellsOwn_same (hl : x.value.stateListeners = ch.stateListeners)
    (hx : ∀ e ∈ x.log, ∃ t reply, e = .resolve t reply) : ch.TellsOwn x := by
  refine ⟨congrArg _ hl, fun id notice hmem => ?_⟩
  obtain ⟨t, reply, he⟩ := hx _ hmem
  cases he

theorem tellsOwn_from (h : ch'.TellsOwn x) (hl : ch'.stateListeners = ch.stateListeners) :
    ch.TellsOwn x := by
  obtain ⟨hlive, hown⟩ := h
  rw [hl] at hlive hown
  exact ⟨hlive, hown⟩

variable (ch)

theorem tellsOwn_become (next : State) (reason : Option ErrorInfo) (resumed : Bool) :
    ch.TellsOwn (ch.become next reason resumed) := by
  refine become_cases (fun _ => ?goes) fun _ =>
    tellsOwn_same rfl fun e he => absurd he List.not_mem_nil
  case goes =>
    refine ⟨ch.stateListeners.live_prune, fun id notice hmem hdeaf => ?_⟩
    have htold : .notify id notice ∈ (ch.stateListeners.recipients next).map fun listener =>
        Effect.notify listener (.channel ⟨ch.state, next, reason, resumed⟩) := by
      simpa only [Listener.Registry.publish, Logged.log_bind, Logged.log_tell, Logged.log_pure,
        List.append_nil] using hmem
    obtain ⟨listener, hlistener, heq⟩ := List.mem_map.mp htold
    cases heq
    rw [Listener.Registry.recipients_eq] at hlistener
    obtain ⟨e, he, rfl⟩ := List.mem_map.mp hlistener
    have hseat : e ∈ ch.stateListeners.seats e.id :=
      List.mem_filter.mpr ⟨(List.mem_filter.mp he).1, decide_eq_true rfl⟩
    exact absurd (hdeaf ▸ hseat) List.not_mem_nil

theorem mem_resolveEach {α : Type} {xs : List α} {f : α → Responder} {reply : Reply} {e : Effect}
    (he : e ∈ xs.flatMap fun x => (f x).resolve reply) : ∃ t reply, e = .resolve t reply := by
  obtain ⟨x, -, he⟩ := List.mem_flatMap.mp he
  unfold Responder.resolve at he
  split at he
  · exact ⟨_, _, List.mem_singleton.mp he⟩
  · cases he

theorem tellsOwn_failQueue (e : ErrorInfo) : ch.TellsOwn (ch.failQueue e) := by
  refine tellsOwn_same rfl fun e he => ?_
  rw [failQueue, Logged.log_bind, Logged.log_pure, List.append_nil] at he
  exact mem_resolveEach he

theorem tellsOwn_detachDone : ch.TellsOwn ch.detachDone := by
  refine tellsOwn_same rfl fun e he => ?_
  rw [detachDone, Logged.log_bind, Logged.log_pure, List.append_nil] at he
  exact mem_resolveEach (f := id) he

theorem tellsOwn_failWaiters (e : ErrorInfo) : ch.TellsOwn (ch.failWaiters e) := by
  refine tellsOwn_same rfl fun e he => ?_
  simp only [failWaiters, Logged.log_bind, Logged.log_tell, Logged.log_pure, List.append_nil,
    List.mem_append] at he
  rcases he with he | he | he | he
  · exact mem_resolveEach he
  · exact mem_resolveEach (f := id) he
  · exact mem_resolveEach (f := id) he
  · obtain ⟨g, -, rfl⟩ := List.mem_map.mp he
    exact ⟨_, _, rfl⟩

end TellsOwn

/-! ## What becomes of one channel -/

/-- What a suspended connection does to a channel: in use, it is suspended. -/
def goSuspended (error : ErrorInfo) (ch : Channel) : Logged Channel :=
  match ch.state with
  | .attached | .attaching => Client.toSuspended error none ch
  | _ => ch.failQueue error

/-- What a failed connection does to a channel: in use, it fails. -/
def goFailed (error : ErrorInfo) (ch : Channel) : Logged Channel :=
  match ch.state with
  | .attaching | .attached | .detaching | .suspended => Client.toFailed error ch
  | _ => ch.failQueue error

theorem tellsOwn_goSuspended (error : ErrorInfo) (ch : Channel) :
    ch.TellsOwn (goSuspended error ch) := by
  unfold goSuspended
  split
  any_goals
    refine tellsOwn_bind (tellsOwn_become ch _ _ _) ?_
    refine tellsOwn_bind (tellsOwn_failWaiters _ error) ?_
    exact tellsOwn_same rfl fun e he => absurd he List.not_mem_nil
  exact tellsOwn_failQueue ch error

theorem tellsOwn_toFailed (error : ErrorInfo) (ch : Channel) :
    ch.TellsOwn (Client.toFailed error ch) :=
  tellsOwn_bind (tellsOwn_from (tellsOwn_become _ _ _ _) rfl)
    (tellsOwn_from (tellsOwn_failWaiters _ error) rfl)

theorem tellsOwn_goFailed (error : ErrorInfo) (ch : Channel) :
    ch.TellsOwn (goFailed error ch) := by
  unfold goFailed
  split
  any_goals exact tellsOwn_toFailed error ch
  exact tellsOwn_failQueue ch error

theorem tellsOwn_detachOnClose (error : ErrorInfo) (ch : Channel) :
    ch.TellsOwn (Client.detachOnClose error ch) := by
  refine Client.detachOnClose_cases (fun _ => ?used) fun _ => tellsOwn_failWaiters ch error
  case used =>
    refine tellsOwn_bind (tellsOwn_from (tellsOwn_become _ _ _ _) rfl) ?_
    exact tellsOwn_bind (tellsOwn_from (tellsOwn_detachDone _) rfl) (tellsOwn_failWaiters _ error)

end Channel

namespace Client

/-! ## Visits -/

variable {c d : Client} {own : Ticket → Prop} {name : String}

theorem onChannel_eq {g : Channel → Logged Channel} {ch : Channel}
    (h : c.channel? name = some ch) :
    c.onChannel name g = ⟨c.setChannel name (g ch).value, (g ch).log⟩ :=
  (onChannel_of_some h g).trans (Logged.ext rfl (List.append_nil _))

theorem log_onChannel_congr {g : Channel → Logged Channel} (h : d.channel? name = c.channel? name) :
    (d.onChannel name g).log = (c.onChannel name g).log := by
  cases hch : c.channel? name with
  | none => rw [onChannel_of_none (h.trans hch), onChannel_of_none hch]; rfl
  | some ch => rw [onChannel_eq (h.trans hch), onChannel_eq hch]

theorem channel?_onChannel_ne {g : Channel → Logged Channel} {other : String} (h : other ≠ name) :
    (c.onChannel name g).value.channel? other = c.channel? other := by
  cases hch : c.channel? name with
  | none => rw [onChannel_of_none hch]; rfl
  | some ch =>
    rw [onChannel_eq hch]
    exact channel?_setChannel_ne c name _ h

theorem setChannel_comm (h : c.channels.Ordered) {one two : String} (hne : one ≠ two)
    (a b : Channel) :
    (c.setChannel one a).setChannel two b = (c.setChannel two b).setChannel one a :=
  congrArg (fun channels => { c with channels := channels }) (Table.put_comm h hne a b)

/-- What is done to one channel has no part in what is done to another. -/
theorem value_onChannel_comm (h : c.channels.Ordered) {one two : String} (hne : one ≠ two)
    (g : Channel → Logged Channel) : ((c.onChannel one g).value.onChannel two g).value =
      ((c.onChannel two g).value.onChannel one g).value := by
  have h1 : (c.onChannel two g).value.channel? one = c.channel? one := channel?_onChannel_ne hne
  have h2 : (c.onChannel one g).value.channel? two = c.channel? two :=
    channel?_onChannel_ne (Ne.symm hne)
  cases hone : c.channel? one with
  | none =>
    rw [onChannel_of_none (h1.trans hone), onChannel_of_none hone]
    rfl
  | some a =>
    cases htwo : c.channel? two with
    | none =>
      rw [onChannel_of_none (h2.trans htwo), onChannel_of_none htwo]
      rfl
    | some b =>
      rw [onChannel_eq (h1.trans hone), onChannel_eq (h2.trans htwo),
        onChannel_eq hone, onChannel_eq htwo]
      exact setChannel_comm h hne _ _

/-- No listener has a seat on two channels. -/
def Parted (c : Client) : Prop := ∀ id one two, one ≠ two →
  (c.channelOrNew one).stateListeners.IsDeaf id ∨ (c.channelOrNew two).stateListeners.IsDeaf id

/-- Nobody listens on two channels, and what waits under a ticket of its own waits once. -/
structure Distinguished (own : Ticket → Prop) (c : Client) : Prop where
  ordered : c.channels.Ordered
  parted : c.Parted
  single : ∀ t, own t → c.load t ≤ 1

/-- A visit of a client for which nothing awaits an acknowledgement does something to one channel,
which tells its own listeners; and the books are kept. -/
structure Visits (f : Client → String → Logged Client) (g : Channel → Logged Channel) : Prop where
  onChannel : ∀ c name, c.pending.entries = [] → f c name = c.onChannel name g
  tells : ∀ ch : Channel, ch.TellsOwn (g ch)
  books : ∀ c name, c.channels.Ordered → Balances [] c (f c name)

/-- Where nothing awaits an acknowledgement, a channel fails by itself. -/
theorem failChannel_eq {ch : Channel} (h : c.pending.entries = []) (hch : c.channel? name = some ch)
    (hs : ch.state ≠ .failed) (error : ErrorInfo) :
    c.failChannel name error = c.onChannel name (toFailed error) := by
  have hsettled : c.pending.failChannel name error = pure c.pending := by
    rw [show c.pending = {} from congrArg Pending.mk h]
    rfl
  have hnone : ∀ ch, (c.setChannel name ch).failPendingOf name error =
      pure (c.setChannel name ch) := fun ch =>
    congrArg (fun x => x >>= fun pending => pure { c.setChannel name ch with pending := pending })
      hsettled
  refine failChannel_cases (fun hidle => absurd (hidle ch hch) hs) fun ch' hch' _ => ?_
  cases hch.symm.trans hch'
  rw [onChannel_of_some hch]
  exact Logged.bind_congr (hnone _)

theorem failUnder_eq (h : c.pending.entries = []) (error : ErrorInfo) (name : String) :
    failUnder error c name = c.onChannel name (Channel.goFailed error) := by
  refine failUnder_cases (fun hnone => (onChannel_of_none hnone _).symm) (fun ch hch hs => ?used)
    fun ch hch h1 h2 h3 h4 => ?unused
  case used =>
    have hgo : Channel.goFailed error ch = toFailed error ch ∧ ch.state ≠ .failed := by
      rcases hs with hs | hs | hs | hs <;> simp [Channel.goFailed, hs]
    rw [failChannel_eq h hch hgo.2 error, onChannel_of_some hch, onChannel_of_some hch, hgo.1]
  case unused =>
    have hgo : Channel.goFailed error ch = ch.failQueue error := by
      cases hs : ch.state <;> simp_all [Channel.goFailed]
    rw [onChannel_of_some hch, onChannel_of_some hch, hgo]

theorem suspendUnder_eq (error : ErrorInfo) (c : Client) (name : String) :
    suspendUnder error c name = c.onChannel name (Channel.goSuspended error) := by
  refine suspendUnder_cases (fun hnone => (onChannel_of_none hnone _).symm) (fun ch hch hs => ?used)
    fun ch hch h1 h2 => ?unused
  case used =>
    have hgo : suspendedChannel error (c.retryAlarm false) ch = Channel.goSuspended error ch := by
      unfold suspendedChannel Channel.goSuspended
      rcases hs with hs | hs <;> rw [hs] <;> rfl
    rw [suspendChannel_eq, onChannel_of_some hch, onChannel_of_some hch, hgo]
  case unused =>
    have hgo : Channel.goSuspended error ch = ch.failQueue error := by
      cases hs : ch.state <;> simp_all [Channel.goSuspended]
    rw [onChannel_of_some hch, onChannel_of_some hch, hgo]

theorem visits_suspendUnder (error : ErrorInfo) :
    Visits (suspendUnder error) (Channel.goSuspended error) :=
  ⟨fun c name _ => suspendUnder_eq error c name, Channel.tellsOwn_goSuspended error,
    fun _ name h => balances_suspendUnder name h error⟩

theorem visits_failUnder (error : ErrorInfo) :
    Visits (failUnder error) (Channel.goFailed error) :=
  ⟨fun _ name h => failUnder_eq h error name, Channel.tellsOwn_goFailed error,
    fun _ name h => balances_failUnder name h error⟩

theorem visits_detachOnClose (error : ErrorInfo) :
    Visits (fun c name => c.onChannel name (detachOnClose error)) (detachOnClose error) :=
  ⟨fun _ _ _ => rfl, Channel.tellsOwn_detachOnClose error,
    fun _ name h => balances_detachOnClose name h error⟩

/-! ## Two visits -/

theorem parted_of_live (h : c.Parted) (hlive : ∀ name, (d.channelOrNew name).stateListeners.live =
    (c.channelOrNew name).stateListeners.live) : d.Parted := by
  intro id one two hne
  unfold Listener.Registry.IsDeaf Listener.Registry.seats
  rw [hlive, hlive]
  exact h id one two hne

theorem Distinguished.of_balances (h : Distinguished own c) {x : Logged Client}
    (hx : Balances [] c x) (hp : x.value.Parted) : Distinguished own x.value := by
  refine ⟨hx.ordered, hp, fun t ht => ?_⟩
  have hbooks := hx.count t
  have hsingle := h.single t ht
  rw [List.count_nil] at hbooks
  omega

variable {f : Client → String → Logged Client} {g : Channel → Logged Channel}

theorem Visits.distinguished (hf : Visits f g) (hc : Distinguished own c)
    (hp : c.pending.entries = []) (name : String) :
    Distinguished own (f c name).value ∧ (f c name).value.pending.entries = [] := by
  have hvisit := hf.onChannel c name hp
  refine ⟨hc.of_balances (hf.books c name hc.ordered) ?_, ?_⟩
  · refine parted_of_live hc.parted fun other => ?_
    rw [hvisit]
    cases hch : c.channel? name with
    | none => rw [onChannel_of_none hch, Logged.value_pure]
    | some ch =>
      rw [onChannel_eq hch]
      dsimp only
      by_cases hne : other = name
      · rw [hne, channelOrNew_setChannel_self, channelOrNew_of_some hch]
        exact (hf.tells ch).live
      · rw [channelOrNew_setChannel_ne c name _ hne]
  · rw [hvisit, pending_onChannel]
    exact hp

theorem Visits.log_eq (hf : Visits f g) (hp : c.pending.entries = []) (name : String) :
    (f c name).log = (c.onChannel name g).log := congrArg Logged.log (hf.onChannel c name hp)

/-- Whoever does not listen to a channel is told nothing by its visit. -/
theorem Visits.noticesTo_eq_nil (hf : Visits f g) (hp : c.pending.entries = []) {id : ListenerId}
    (hdeaf : (c.channelOrNew name).stateListeners.IsDeaf id) :
    noticesTo id (f c name).log = [] := by
  rw [hf.log_eq hp]
  cases hch : c.channel? name with
  | none => rw [onChannel_of_none hch]; rfl
  | some ch =>
    rw [onChannel_eq hch]
    exact (hf.tells ch).noticesTo_eq_nil (channelOrNew_of_some hch ▸ hdeaf)

/-- Two visits commute: nobody can tell which channel came first. -/
theorem Visits.comm (hf : Visits f g) (hc : Distinguished own c) (hp : c.pending.entries = [])
    (one two : String) : Alike own (do
      let c ← f c one
      f c two) (do
      let c ← f c two
      f c one) := by
  by_cases hne : one = two
  · subst hne
    exact alike_refl own _
  have hnone : ∀ name, (c.onChannel name g).value.pending.entries = [] := fun name =>
    (congrArg Pending.entries (pending_onChannel c name g)).trans hp
  have hlog : ∀ {first second}, second ≠ first →
      (f (f c first).value second).log = (f c second).log := fun {first second} h => by
    rw [hf.onChannel c first hp, hf.log_eq (hnone first), hf.log_eq hp]
    exact log_onChannel_congr (channel?_onChannel_ne h)
  refine alike_swapped (a := (f c one).log) (b := (f c two).log) ?_ ?_ ?_ (fun id => ?_)
    fun t ht => ?_
  · rw [Logged.value_bind, Logged.value_bind, hf.onChannel c one hp, hf.onChannel c two hp,
      hf.onChannel _ two (hnone one), hf.onChannel _ one (hnone two)]
    exact value_onChannel_comm hc.ordered hne g
  · rw [Logged.log_bind, hlog (Ne.symm hne)]
  · rw [Logged.log_bind, hlog hne]
  · exact (hc.parted id one two hne).imp (hf.noticesTo_eq_nil hp) (hf.noticesTo_eq_nil hp)
  · -- Both visits together answer no more than was parked before them.
    have hbooks : Balances [] c (do
        let c ← f c one
        f c two) := balances_then (hf.books c one hc.ordered) fun d hd => hf.books d two hd
    have hcount := hbooks.count t
    have hsingle := hc.single t ht
    rw [Logged.log_bind, hlog (Ne.symm hne), answered_append, List.count_append,
      List.count_nil] at hcount
    have honce : (answered (f c one).log).count t = 0 ∨ (answered (f c two).log).count t = 0 := by
      omega
    exact honce.imp repliesTo_eq_nil repliesTo_eq_nil

/-! ## All visits -/

/-- However the channels are gone through, nobody can tell. -/
theorem Visits.alike_of_perm (hf : Visits f g) (hc : Distinguished own c)
    (hp : c.pending.entries = []) {names others : List String} (h : names.Perm others) :
    Alike own (c.forNames names f) (c.forNames others f) := by
  -- By the swaps that lead from one order to the other; what a visit leaves is fit for the next.
  induction h generalizing c with
  | nil => exact alike_refl own _
  | cons name _ ih =>
    obtain ⟨hc', hp'⟩ := hf.distinguished hc hp name
    exact alike_then (f c name) (ih hc' hp')
  | swap first second rest =>
    have hswap := alike_before (hf.comm hc hp second first) fun d => d.forNames rest f
    rwa [bind_assoc, bind_assoc] at hswap
  | trans _ _ ih ih' => exact alike_trans (ih hc hp) (ih' hc hp)

/-- The connection goes down, what awaits an acknowledgement fails, and then the channels have
their part, in whatever order. -/
theorem Visits.alike_goDown (hf : Visits f g) (hc : Distinguished own c)
    (next : Connection.State) (reason : Option ErrorInfo) (retryIn : Option Duration)
    (k : Client → Connection) (e : ErrorInfo) {names others : List String}
    (h : names.Perm others) : Alike own (do
      let c ← c.become next reason retryIn
      let c ← { c with connection := k c }.failPending e
      c.forNames names f) (do
      let c ← c.become next reason retryIn
      let c ← { c with connection := k c }.failPending e
      c.forNames others f) := by
  refine alike_then (c.become next reason retryIn) (alike_then (Client.failPending _ e) ?_)
  have hdown : Balances [] c (do
      let c ← c.become next reason retryIn
      { c with connection := k c }.failPending e) :=
    balances_then (balances_become hc.ordered next reason retryIn) fun d hd =>
      balances_from { d with connection := k d } rfl rfl hd fun ho => balances_failPending ho e
  refine hf.alike_of_perm (hc.of_balances hdown ?_) (failAll_nil _ e) h
  refine parted_of_live hc.parted fun name => ?_
  have hsame := (apart_become (c := c) next reason retryIn).channels
  exact congrArg (fun ch : Channel => ch.stateListeners.live)
    (channelOrNew_congr (channel?_of_channels hsame name))

/-! ## Seats over a run -/

/-- The one id that a step gives out is given to one channel. -/
theorem parted_next (h : Unheard c) (i : Input) {one two : String} (hne : one ≠ two)
    (hspent : (c.step i).value.nextListener ≠ c.nextListener) :
    ((c.step i).value.channelOrNew one).stateListeners.IsDeaf c.nextListener ∨
      ((c.step i).value.channelOrNew two).stateListeners.IsDeaf c.nextListener := by
  have hdeaf : ∀ name {ch : Channel}, ch.stateListeners.live =
      (c.channelOrNew name).stateListeners.live →
        ch.stateListeners.IsDeaf c.nextListener := fun name {ch} hlive => by
    -- Before the step nobody listens under that id.
    have hbefore := (h c.nextListener (Nat.le_refl _)).2 name
    unfold Listener.Registry.IsDeaf Listener.Registry.seats at *
    rwa [hlive]
  cases hi : rearranges i with
  | false => exact .inl (hdeaf one ((tells_step hi).channelLive one))
  | true =>
    unfold rearranges at hi
    split at hi
    · exact .inl (hdeaf one rfl)
    · exact absurd rfl hspent
    · rename_i ticket name filter
      have hother : ∀ other, other ≠ name → ((c.step
          (.command ticket (.channel name (.onState filter)))).value.channelOrNew other) =
            c.channelOrNew other := fun other hother => by
        exact channelOrNew_setChannel_ne c name _ hother
      by_cases hname : one = name
      · exact .inr (hdeaf two (congrArg (·.stateListeners.live) (hother two (hname ▸ Ne.symm hne))))
      · exact .inl (hdeaf one (congrArg (·.stateListeners.live) (hother one hname)))
    · exact absurd rfl hspent
    · rename_i ticket name
      exact absurd (releaseChannel_rest c name).2.2.1 hspent
    · exact absurd rfl hspent
    · cases hi

theorem parted_step (h : Unheard c) (hp : c.Parted) (i : Input) : (c.step i).value.Parted := by
  intro id one two hne
  by_cases hspent : id = c.nextListener → (c.step i).value.nextListener = id
  · have hkept : ∀ name, (c.channelOrNew name).stateListeners.IsDeaf id →
        ((c.step i).value.channelOrNew name).stateListeners.IsDeaf id := fun name hdeaf => by
      unfold Listener.Registry.IsDeaf at *
      rw [(traces_step c i).seatsOn name id hspent, hdeaf, ite_self]
    exact (hp id one two hne).imp (hkept one) (hkept two)
  · obtain ⟨rfl, hnext⟩ := Classical.not_imp.mp hspent
    exact parted_next h i hne hnext

theorem parted_run (options : Options) (words : List UInt64) (inputs : List Input) :
    ((fresh options words).run inputs).value.Parted :=
  (run_keeps (P := fun c => Unheard c ∧ c.Parted)
    (fun _ i h => ⟨unheard_step h.1 i, parted_step h.1 h.2 i⟩) (c := fresh options words)
    ⟨unheard_run options words [], fun _ _ _ _ => .inl rfl⟩ inputs).2

/-- Wherever a run leads, what was handed in once is parked at most once. -/
theorem distinguished_run (options : Options) (words : List UInt64) (inputs : List Input) :
    Distinguished (fun t => (handed inputs).count t ≤ 1)
      ((fresh options words).run inputs).value := by
  have hrun : Balances (handed inputs) (fresh options words) ((fresh options words).run inputs) :=
    balances_run Table.ordered_empty inputs
  refine ⟨hrun.ordered, parted_run options words inputs, fun t ht => ?_⟩
  have hbooks := hrun.count t
  have hfresh : (fresh options words).load t = 0 := rfl
  omega

/-! ## The law -/

/-- Wherever a run has brought the client, and whatever has become of its connection since: if it
is suspended, fails or is closed, then the order in which the channels go along makes no difference.
The client comes to the same state, every listener is told the same in the same order, and so is
every operation whose ticket was handed in once. -/
theorem the_order_of_the_channels_makes_no_difference (options : Options) (words : List UInt64)
    (inputs : List Input) (connection : Connection) {one two : List String}
    (hone : one.Perm ((fresh options words).run inputs).value.channels.keys)
    (htwo : two.Perm ((fresh options words).run inputs).value.channels.keys) :
    let c := { ((fresh options words).run inputs).value with connection := connection }
    let own t := (handed inputs).count t ≤ 1
    Alike own (c.enterSuspendedVisiting one) (c.enterSuspendedVisiting two) ∧
      (∀ error,
        Alike own (c.failConnectionVisiting one error) (c.failConnectionVisiting two error)) ∧
      Alike own (c.finishCloseVisiting one) (c.finishCloseVisiting two) := by
  intro c own
  have hperm : one.Perm two := hone.trans htwo.symm
  obtain ⟨hordered, hparted, hsingle⟩ := distinguished_run options words inputs
  have hanew : ∀ connection, Distinguished own { c with connection := connection } :=
    fun _ => ⟨hordered, hparted, hsingle⟩
  refine ⟨?_, fun error => ?_, ?_⟩
  · unfold enterSuspendedVisiting
    split
    · exact (visits_suspendUnder _).alike_goDown (hanew connection) _ _ _ _ _ hperm
    · exact alike_refl own _
  · unfold failConnectionVisiting
    refine alike_then c.dropLink ?_
    split
    · exact (visits_failUnder error).alike_goDown (hanew _) _ _ _ _ _ hperm
    · exact alike_refl own _
  · unfold finishCloseVisiting
    refine alike_then c.dropLink ?_
    split
    · exact (visits_detachOnClose _).alike_goDown (hanew _) _ _ _ _ _ hperm
    · exact alike_refl own _

/-- The room waits for its attach and the hall is attached, each with a listener and with an
operation of its own. Whichever goes along first, both listeners and both callers are told the
same, though not one after the other. -/
theorem the_room_and_the_hall_go_along_in_either_order :
    let inputs := busyRooms ++ [.command 5 (.channel "room" (.onState none)),
      .command 6 (.channel "hall" (.onState none)), .command 7 (.channel "hall" (.get {}))]
    let c := ((fresh keyOptions []).run inputs).value
    let hallFirst := c.failConnectionVisiting ["hall", "room"] unauthorized
    let roomFirst := c.failConnectionVisiting ["room", "hall"] unauthorized
    Alike (fun t => (handed inputs).count t ≤ 1) hallFirst roomFirst ∧
      noticesTo 1 hallFirst.log ≠ [] ∧ hallFirst.log ≠ roomFirst.log := by
  intro inputs c hallFirst roomFirst
  have hkeys : c.channels.keys = ["hall", "room"] := by decide +kernel
  refine ⟨?_, by decide +kernel, by decide +kernel⟩
  exact (the_order_of_the_channels_makes_no_difference keyOptions [] inputs c.connection
    (hkeys ▸ List.Perm.refl _) (hkeys ▸ List.Perm.swap _ _ _)).2.1 unauthorized

end Client

end PresenceClient
