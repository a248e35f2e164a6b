-- The postings of the client: what a function sends, which serials it uses up for that, and
-- what it files until an acknowledgement comes. Along with these goes what is kept on the way:
-- only presence is queued and filed, each on its own channel, and nobody waits for members who
-- has not asked for them.
import PresenceClient.Proofs.MemberTurns

namespace PresenceClient

open Logged (tell)

/-! ## Serials in a log -/

/-- The serial of the message that an effect sends. -/
def Effect.serials : Effect → List Int
  | .send m _ => m.msgSerial.toList
  | _ => []

/-- What an effect sends that an acknowledgement is to end. -/
def Effect.filed : Effect → List Unacked
  | .send m (.first responder) | .send m (.again responder) =>
    m.msgSerial.toList.map fun serial => ⟨serial, m, responder⟩
  | _ => []

/-- The serials that some effects send, in order. -/
def serials (log : List Effect) : List Int := log.flatMap Effect.serials

/-- What some effects send that acknowledgements are to end, in order. -/
def filed (log : List Effect) : List Unacked := log.flatMap Effect.filed

@[simp] theorem serials_nil : serials [] = [] := rfl

@[simp] theorem serials_append (a b : List Effect) :
    serials (a ++ b) = serials a ++ serials b := List.flatMap_append

@[simp] theorem filed_append (a b : List Effect) : filed (a ++ b) = filed a ++ filed b :=
  List.flatMap_append

/-- What has no serial is not filed. -/
theorem filed_eq_nil {log : List Effect} (h : serials log = []) : filed log = [] := by
  have hone : ∀ e : Effect, e.serials = [] → e.filed = [] := by
    intro e he
    unfold Effect.serials at he
    unfold Effect.filed
    split <;> simp_all
  exact List.flatMap_eq_nil_iff.mpr fun e he => hone e (List.flatMap_eq_nil_iff.mp h e he)

/-- So many serials, one after the other. -/
def countFrom (serial : Int) (n : Nat) : List Int := (List.range n).map fun (i : Nat) => serial + i

@[simp] theorem length_countFrom (serial : Int) (n : Nat) : (countFrom serial n).length = n := by
  simp [countFrom]

theorem mem_countFrom {serial s : Int} {n : Nat} :
    s ∈ countFrom serial n ↔ serial ≤ s ∧ s < serial + n := by
  unfold countFrom
  simp only [List.mem_map, List.mem_range]
  constructor
  · rintro ⟨i, hi, rfl⟩
    omega
  · rintro ⟨hle, hlt⟩
    exact ⟨(s - serial).toNat, by omega, by omega⟩

theorem countFrom_append (serial : Int) (m n : Nat) :
    countFrom serial m ++ countFrom (serial + m) n = countFrom serial (m + n) := by
  unfold countFrom
  rw [List.range_add, List.map_append, List.map_map]
  congr 1
  refine List.map_congr_left fun i _ => ?_
  simp only [Function.comp]
  omega

theorem ascending_countFrom (serial : Int) (n : Nat) : (countFrom serial n).Pairwise (· < ·) := by
  unfold countFrom
  rw [List.pairwise_map]
  exact List.pairwise_lt_range.imp fun h => by omega

/-- The serials `used` come one after the other, from the one that was free before on; the
next one is free then. -/
structure Counts (free : Int) (used : List Int) (next : Int) : Prop where
  consecutive : used = countFrom free used.length
  next_eq : next = free + used.length

theorem counts_nil (free : Int) : Counts free [] free := ⟨rfl, (Int.add_zero free).symm⟩

theorem counts_one (free : Int) : Counts free [free] (free + 1) := ⟨by simp [countFrom], rfl⟩

theorem counts_append {free mid next : Int} {a b : List Int} (ha : Counts free a mid)
    (hb : Counts mid b next) : Counts free (a ++ b) next := by
  constructor
  · rw [List.length_append, ← countFrom_append, ← ha.consecutive, ← ha.next_eq, ← hb.consecutive]
  · rw [hb.next_eq, ha.next_eq, List.length_append]
    omega

/-! ## Plain effects -/

/-- The effect sends nothing, answers nobody with members, and brings no news of the
connection. -/
def Effect.IsPlain : Effect → Prop
  | .send _ _ | .resolve _ (.members _) | .notify _ (.connection _) => False
  | _ => True

/-- The effect brings news of the connection. -/
def Effect.IsNews : Effect → Prop
  | .notify _ (.connection _) => True
  | _ => False

def Plain (log : List Effect) : Prop := ∀ e ∈ log, e.IsPlain

section Plain

variable {a b log : List Effect}

theorem serials_of_plain {e : Effect} (h : e.IsPlain) : e.serials = [] := by
  unfold Effect.IsPlain at h
  unfold Effect.serials
  split
  · exact h.elim
  · rfl

theorem serials_of_news {e : Effect} (h : e.IsNews) : e.serials = [] := by
  unfold Effect.IsNews at h
  unfold Effect.serials
  split
  · exact h.elim
  · rfl

theorem Plain.serials (h : Plain log) : serials log = [] :=
  List.flatMap_eq_nil_iff.mpr fun e he => serials_of_plain (h e he)

theorem plain_nil : Plain [] := fun _ he => absurd he List.not_mem_nil

theorem plain_append (ha : Plain a) (hb : Plain b) : Plain (a ++ b) := fun e he =>
  (List.mem_append.mp he).elim (ha e) (hb e)

theorem plain_singleton {e : Effect} (h : e.IsPlain) : Plain [e] := by
  intro e' he
  cases List.mem_singleton.mp he
  exact h

/-- An answer that does not give members. -/
theorem plain_resolve (r : Responder) {reply : Reply} (h : ∀ ps, reply ≠ .members ps) :
    Plain (r.resolve reply) := by
  cases r with
  | reentry channel clientId => exact plain_nil
  | caller ticket =>
    refine plain_singleton ?_
    cases reply with
    | members ps => exact absurd rfl (h ps)
    | _ => exact trivial

theorem plain_resolveEach {α : Type} (xs : List α) (f : α → Responder) {reply : Reply}
    (h : ∀ ps, reply ≠ .members ps) : Plain (xs.flatMap fun x => (f x).resolve reply) := by
  intro e he
  obtain ⟨x, -, hx⟩ := List.mem_flatMap.mp he
  exact plain_resolve (f x) h e hx

theorem plain_failEach (waiters : List Responder) (e : ErrorInfo) :
    Plain (Channel.failEach waiters e) := plain_resolveEach waiters id nofun

theorem plain_succeedEach (waiters : List Responder) : Plain (Channel.succeedEach waiters) :=
  plain_resolveEach waiters id (nofun : ∀ ps, Reply.done ≠ .members ps)

theorem plain_failures (q : Queue) (e : ErrorInfo) : Plain (q.failures e) :=
  plain_resolveEach q.entries (fun q => q.responder) nofun

theorem plain_failGets (gets : List PendingGet) (error : ErrorInfo) :
    Plain (gets.map fun g => Channel.answerGet g (.failed (.service error))) := by
  intro e he
  obtain ⟨g, -, rfl⟩ := List.mem_map.mp he
  exact trivial

theorem mem_publish {κ : Type} [DecidableEq κ] {r : Listener.Registry κ} {kind : κ} {n : Notice}
    {e : Effect} (he : e ∈ (r.publish kind n).log) : ∃ id, e = .notify id n := by
  simp only [Listener.Registry.publish, Logged.log_bind, Logged.log_tell, Logged.log_pure,
    List.append_nil] at he
  obtain ⟨id, -, rfl⟩ := List.mem_map.mp he
  exact ⟨id, rfl⟩

/-- News that is not of the connection. -/
theorem plain_publish {κ : Type} [DecidableEq κ] (r : Listener.Registry κ) (kind : κ) {n : Notice}
    (hn : ∀ id, (Effect.notify id n).IsPlain) : Plain (r.publish kind n).log := by
  intro e he
  obtain ⟨id, rfl⟩ := mem_publish he
  exact hn id

end Plain

/-! ## Channels that take on nothing -/

namespace Channel

/-- A channel sends nothing, has nothing more to send than before, and nobody more waits there
for members. Who is told of members is told what the given effects say. -/
structure Sheds (may : Effect → Prop) (ch : Channel) (x : Logged Channel) : Prop where
  within : ∀ e ∈ x.log, e.IsPlain ∨ may e
  silent : serials x.log = []
  queue : ∀ q ∈ x.value.queue.entries, q ∈ ch.queue.entries
  gets : ∀ g ∈ x.value.pendingGets, g ∈ ch.pendingGets

variable {may : Effect → Prop} {ch : Channel}

theorem sheds_of_plain {x : Logged Channel} (hx : Plain x.log)
    (hq : ∀ q ∈ x.value.queue.entries, q ∈ ch.queue.entries)
    (hg : ∀ g ∈ x.value.pendingGets, g ∈ ch.pendingGets) : Sheds may ch x :=
  ⟨fun e he => .inl (hx e he), hx.serials, hq, hg⟩

/-- The queue and those who wait for members are left alone. -/
theorem sheds_same {x : Logged Channel} (hx : Plain x.log) (hq : x.value.queue = ch.queue)
    (hg : x.value.pendingGets = ch.pendingGets) : Sheds may ch x :=
  sheds_of_plain hx (fun _ h => hq ▸ h) fun _ h => hg ▸ h

theorem sheds_pure : Sheds may ch (pure ch) := sheds_same plain_nil rfl rfl

theorem sheds_from {ch' : Channel} {x : Logged Channel} (h : Sheds may ch' x)
    (hq : ch'.queue = ch.queue) (hg : ch'.pendingGets = ch.pendingGets) : Sheds may ch x :=
  ⟨h.within, h.silent, fun q hm => hq ▸ h.queue q hm, fun g hm => hg ▸ h.gets g hm⟩

theorem sheds_bind {x : Logged Channel} {f : Channel → Logged Channel} (h1 : Sheds may ch x)
    (h2 : Sheds may x.value (f x.value)) : Sheds may ch (x >>= f) := by
  refine ⟨fun e he => ?_, ?_, fun q hq => h1.queue q (h2.queue q hq),
    fun g hg => h1.gets g (h2.gets g hg)⟩
  · rcases List.mem_append.mp he with he | he
    · exact h1.within e he
    · exact h2.within e he
  · rw [Logged.log_bind, serials_append, h1.silent, h2.silent, List.nil_append]

theorem sheds_foldlM {α : Type} {f : Channel → α → Logged Channel}
    (hf : ∀ ch x, Sheds may ch (f ch x)) (xs : List α) : Sheds may ch (xs.foldlM f ch) := by
  induction xs generalizing ch with
  | nil => exact sheds_pure
  | cons x rest ih => exact sheds_bind (hf ch x) ih

variable (ch)

theorem sheds_become (next : State) (reason : Option ErrorInfo) (resumed : Bool) :
    Sheds may ch (ch.become next reason resumed) :=
  become_cases
    (fun _ => sheds_same (plain_append (plain_publish _ _ fun _ => trivial) plain_nil) rfl rfl)
    fun _ => sheds_pure

theorem sheds_failWaiters (e : ErrorInfo) : Sheds may ch (ch.failWaiters e) := by
  refine sheds_of_plain ?_ (fun _ hq => absurd hq List.not_mem_nil) fun _ hg =>
    absurd hg List.not_mem_nil
  refine plain_append (plain_failures ch.queue e) (plain_append (plain_failEach _ e) ?_)
  exact plain_append (plain_failEach _ e) (plain_append (plain_failGets _ e) plain_nil)

theorem sheds_failQueue (e : ErrorInfo) : Sheds may ch (ch.failQueue e) :=
  sheds_of_plain (plain_append (plain_failures ch.queue e) plain_nil)
    (fun _ hq => absurd hq List.not_mem_nil) fun _ hg => hg

theorem sheds_attachDone : Sheds may ch ch.attachDone :=
  sheds_same (plain_append (plain_succeedEach _) plain_nil) rfl rfl

theorem sheds_detachDone : Sheds may ch ch.detachDone :=
  sheds_same (plain_append (plain_succeedEach _) plain_nil) rfl rfl

theorem sheds_failAttachWaiters (e : ErrorInfo) : Sheds may ch (ch.failAttachWaiters e) :=
  sheds_same (plain_append (plain_failEach _ e) plain_nil) rfl rfl

theorem sheds_failDetachWaiters (e : ErrorInfo) : Sheds may ch (ch.failDetachWaiters e) :=
  sheds_same (plain_append (plain_failEach _ e) plain_nil) rfl rfl

theorem sheds_failGets (e : ErrorInfo) : Sheds may ch (ch.failGets e) :=
  sheds_of_plain (plain_append (plain_failGets _ e) plain_nil) (fun _ hq => hq)
    fun _ hg => absurd hg List.not_mem_nil

theorem sheds_announce (p : Presence) : Sheds may ch (ch.announce p) :=
  sheds_same (plain_append (plain_publish _ _ fun _ => trivial) plain_nil) rfl rfl

theorem sheds_take (p : Presence) : Sheds may ch (ch.take p) :=
  take_cases (fun _ _ => sheds_from (sheds_announce _ _) rfl rfl)
    fun _ => sheds_same plain_nil rfl rfl

theorem sheds_takeLive (c : Client) (p : Presence) : Sheds may ch (c.takeLive ch p) :=
  Client.takeLive_cases (fun _ => sheds_from (sheds_take _ p) rfl rfl) fun _ => sheds_take ch p

theorem sheds_endSync (timestamp : Option Int) : Sheds may ch (ch.endSync timestamp) :=
  sheds_from (sheds_foldlM sheds_announce _) rfl rfl

theorem sheds_enterDetached (reason : Option ErrorInfo) (e : ErrorInfo) :
    Sheds may ch (ch.enterDetached reason e) := by
  unfold enterDetached
  refine sheds_bind (sheds_from (sheds_become _ _ _ _) rfl rfl) ?_
  exact sheds_bind (sheds_from (sheds_detachDone _) rfl rfl) (sheds_failWaiters _ e)

theorem sheds_detachTimedOut : Sheds may ch (Client.detachTimedOut ch) :=
  sheds_bind (sheds_become _ _ _ _) (sheds_failDetachWaiters _ _)

theorem sheds_detachOnClose (e : ErrorInfo) : Sheds may ch (Client.detachOnClose e ch) :=
  Client.detachOnClose_cases (fun _ => sheds_enterDetached ch none e) fun _ =>
    sheds_failWaiters ch e

theorem sheds_toAttaching (waiters : List Responder) :
    Sheds may ch (Client.toAttaching waiters ch) :=
  sheds_bind (sheds_from (sheds_failDetachWaiters _ _) rfl rfl) (sheds_become _ _ _ _)

theorem sheds_toDetaching (waiter : Responder) : Sheds may ch (Client.toDetaching waiter ch) :=
  sheds_bind (sheds_failAttachWaiters _ _) (sheds_from (sheds_become _ _ _ _) rfl rfl)

theorem sheds_toFailed (e : ErrorInfo) : Sheds may ch (Client.toFailed e ch) :=
  sheds_bind (sheds_from (sheds_become _ _ _ _) rfl rfl)
    (sheds_from (sheds_failWaiters _ e) rfl rfl)

theorem sheds_suspendedChannel (e : ErrorInfo) (alarm : Option (Alarm Timer)) :
    Sheds may ch (Client.suspendedChannel e alarm ch) := by
  refine Client.suspendedChannel_cases (fun _ => ?suspends) fun _ => sheds_pure
  refine sheds_bind (sheds_become ch _ _ _) (sheds_bind (sheds_failWaiters _ e) ?_)
  exact sheds_same plain_nil rfl rfl

theorem sheds_toAttachingAgain (now : Instant) (e : Option ErrorInfo) :
    Sheds may ch (Client.toAttachingAgain now e ch) := sheds_from (sheds_become _ _ _ _) rfl rfl

/-! ## Answering with members -/

/-- Who is answered gets the members as they are then. -/
theorem sheds_answers {gets left : List PendingGet} (hgets : ∀ g ∈ gets, may (ch.answerNow g))
    (hleft : ∀ g ∈ left, g ∈ ch.pendingGets) : Sheds may ch (do
      tell (gets.map ch.answerNow)
      pure { ch with pendingGets := left }) := by
  refine ⟨fun e he => ?_, ?_, fun _ hq => hq, hleft⟩
  · simp only [Logged.log_bind, Logged.log_tell, Logged.log_pure, List.append_nil] at he
    obtain ⟨g, hg, rfl⟩ := List.mem_map.mp he
    exact .inr (hgets g hg)
  · simp only [Logged.log_bind, Logged.log_tell, Logged.log_pure, List.append_nil]
    refine List.flatMap_eq_nil_iff.mpr fun e he => ?_
    obtain ⟨g, -, rfl⟩ := List.mem_map.mp he
    rfl

theorem sheds_answerGets (hgets : ∀ g ∈ ch.pendingGets, may (ch.answerNow g)) :
    Sheds may ch ch.answerGets :=
  sheds_answers ch hgets fun _ hg => absurd hg List.not_mem_nil

theorem sheds_answerUnsyncedGets (hgets : ∀ g ∈ ch.pendingGets, g.query.waitForSync = false →
    may (ch.answerNow g)) : Sheds may ch ch.answerUnsyncedGets := by
  refine sheds_answers ch (fun g hg => ?_) fun g hg => (List.mem_filter.mp hg).1
  obtain ⟨hmem, hwait⟩ := List.mem_filter.mp hg
  exact hgets g hmem (by simpa using hwait)

/-- A channel that is attached answers those who wait for members, all of them or only those
who do not wait for the sync. -/
theorem sheds_attachedChannel (m : Message)
    (hgets : ∀ g ∈ ch.pendingGets, (m.has .hasPresence = true → g.query.waitForSync = false) →
      may ((Client.attachedChannel m ch).value.answerNow g)) :
    Sheds may ch (Client.attachedChannel m ch) := by
  have hattached : Sheds may ch (Client.toAttached m ch) := by
    refine sheds_bind (sheds_from (sheds_become _ _ _ _) rfl rfl) ?_
    exact sheds_bind (sheds_attachDone _) (sheds_same plain_nil rfl rfl)
  revert hgets
  refine Client.attachedChannel_cases (fun _ hgets => ?peopled) fun hnobody hgets => ?empty
  case peopled =>
    refine sheds_bind hattached (sheds_answerUnsyncedGets _ fun g hm hwait => ?_)
    exact hgets g (hattached.gets g hm) fun _ => hwait
  case empty =>
    have hended : Sheds may (Client.toAttached m ch).value _ := sheds_endSync _ m.timestamp
    refine sheds_bind hattached (sheds_bind hended (sheds_answerGets _ fun g hm => ?_))
    exact hgets g (hattached.gets g (hended.gets g hm)) fun he =>
      absurd (hnobody.symm.trans he) Bool.false_ne_true

/-- The last page of a sync answers all who wait for members. -/
theorem sheds_takePage (m : Message)
    (hgets : ∀ g ∈ ch.pendingGets, isLastPage m.channelSerial = true →
      may ((Client.takePage m ch).value.answerNow g)) : Sheds may ch (Client.takePage m ch) := by
  have htaken : Sheds may ch (Client.takeRecords m ch) := by
    refine sheds_bind (sheds_from (sheds_foldlM sheds_take _) rfl rfl) ?_
    exact sheds_same plain_nil rfl rfl
  revert hgets
  refine Client.takePage_cases (fun _ _ => htaken) fun hlast hgets => ?last
  case last =>
    have hended : Sheds may (Client.takeRecords m ch).value _ := sheds_endSync _ m.timestamp
    refine sheds_bind htaken (sheds_bind hended (sheds_answerGets _ fun g hm => ?_))
    exact hgets g (htaken.gets g (hended.gets g hm)) hlast

end Channel

end PresenceClient
