-- The law of the switchboard. What a registration receives can be told from the history of
-- moves alone, and so can who is still there. No registration is taken for another, since all
-- registries take their ids from one counter.
import PresenceClient.Listener.Switchboard

namespace PresenceClient.Listener

namespace Switchboard

variable {κ ε : Type}

theorem registry_setRegistry (b : Switchboard κ ε) (n : Nat) (r : Registry κ) (k : Nat) :
    (b.setRegistry n r).registry k = if n = k then r else b.registry k := by
  unfold registry setRegistry
  split
  · rename_i h
    simp [h]
  · rename_i h
    rw [Table.get?_put_ne b.registries (Ne.symm h)]

/-- What would remove nothing leaves all registries as they are. -/
theorem setRegistry_filter {b : Switchboard κ ε} {n : Nat} {P : Registration κ → Prop}
    [DecidablePred P] (h : ∀ e ∈ (b.registry n).entries, ¬P e) (k : Nat) :
    (b.setRegistry n ⟨(b.registry n).entries.filter fun e => !decide (P e)⟩).registry k =
      b.registry k := by
  rw [registry_setRegistry, List.filter_eq_self.mpr fun e he => by simpa using h e he]
  split
  · rename_i hk
    rw [hk]
  · rfl

/-! ## Ids and their seats -/

/-- The entries of an id at a registry, as long as somebody is there. -/
def seats (b : Switchboard κ ε) (id : ListenerId) (n : Nat) : List (Registration κ) :=
  (b.registry n).live.filter fun e => decide (e.id = id)

/-- No id that is in use is still to be given out. -/
structure Numbered (b : Switchboard κ ε) : Prop where
  entries : ∀ n, ∀ e ∈ (b.registry n).entries, e.id < b.nextId
  delivered : ∀ d ∈ b.delivered, d.1 < b.nextId

/-- An id that has not been given out has neither a seat nor received anything. -/
theorem Numbered.unused {b : Switchboard κ ε} (h : b.Numbered) {id : ListenerId}
    (hid : b.nextId ≤ id) : (∀ n, b.seats id n = []) ∧ b.received id = [] := by
  refine ⟨fun n => List.filter_eq_nil_iff.mpr fun e he => ?_,
    List.filterMap_eq_nil_iff.mpr fun d hd => if_neg ?_⟩
  · have hlt := h.entries n e (List.mem_filter.mp he).1
    simpa using Nat.ne_of_lt (Nat.lt_of_lt_of_le hlt hid)
  · exact Nat.ne_of_lt (Nat.lt_of_lt_of_le (h.delivered d hd) hid)

/-! ## What the history tells -/

/-- A registration as the history tells it: its id, where it was made and for which kind of
event, and all the moves that came after it. -/
structure Enrolment (κ ε : Type) where
  id : ListenerId
  registry : Nat
  filter : Option κ
  later : List (Move κ ε)

/-- The registrations that some moves make, from the next id on. -/
def enrolments (next : ListenerId) : List (Move κ ε) → List (Enrolment κ ε)
  | [] => []
  | .on n filter :: rest => ⟨next, n, filter, rest⟩ :: enrolments (next + 1) rest
  | _ :: rest => enrolments next rest

theorem le_of_mem_enrolments {next : ListenerId} {moves : List (Move κ ε)} {s : Enrolment κ ε}
    (h : s ∈ enrolments next moves) : next ≤ s.id := by
  induction moves generalizing next with
  | nil => cases h
  | cons m rest ih =>
    cases m with
    | on n filter =>
      rcases List.mem_cons.mp h with rfl | h
      · exact Nat.le_refl _
      · exact Nat.le_of_succ_le (ih h)
    | _ => exact ih h

/-- Each id stands for one registration. -/
theorem eq_of_mem_enrolments {next : ListenerId} {moves : List (Move κ ε)} {s t : Enrolment κ ε}
    (hs : s ∈ enrolments next moves) (ht : t ∈ enrolments next moves) (hid : s.id = t.id) :
    s = t := by
  induction moves generalizing next with
  | nil => cases hs
  | cons m rest ih =>
    cases m with
    | on n filter =>
      rcases List.mem_cons.mp hs with rfl | hs' <;> rcases List.mem_cons.mp ht with rfl | ht'
      · rfl
      · exact absurd (le_of_mem_enrolments ht') (by rw [← hid]; exact Nat.not_succ_le_self _)
      · exact absurd (le_of_mem_enrolments hs') (by rw [hid]; exact Nat.not_succ_le_self _)
      · exact ih hs' ht'
    | _ => exact ih hs ht

variable [DecidableEq κ]

/-- Does a move end the registration of an id with a filter at a registry? It is removed there,
or its receiver goes away. -/
def Move.ends (n : Nat) (id : ListenerId) (filter : Option κ) : Move κ ε → Bool
  | .off m other => decide (m = n ∧ other = id)
  | .offFiltered m f other => decide (m = n ∧ other = id ∧ f = filter)
  | .offAll m => decide (m = n)
  | .drop other => decide (other = id)
  | _ => false

/-- No move of some ends a registration at a registry. -/
def outlasts (n : Nat) (moves : List (Move κ ε)) (e : Registration κ) : Bool :=
  moves.all fun m => !m.ends n e.id e.filter

/-- The event of a move, if it is one of the registry and of the kind that is asked for. -/
def Move.event? (n : Nat) (filter : Option κ) : Move κ ε → Option ε
  | .emit m kind event =>
    if m = n ∧ (filter.all fun f => decide (f = kind)) = true then some event else none
  | _ => none

namespace Enrolment

def entry (s : Enrolment κ ε) : Registration κ := { id := s.id, filter := s.filter }

/-- Nothing has ended the registration. -/
def stands (s : Enrolment κ ε) : Bool := outlasts s.registry s.later s.entry

/-- The events that the registration is for, until it ends. -/
def due (s : Enrolment κ ε) : List ε :=
  (s.later.takeWhile fun m => !m.ends s.registry s.id s.filter).filterMap fun m =>
    m.event? s.registry s.filter

variable {s : Enrolment κ ε} {m : Move κ ε} {rest : List (Move κ ε)}

theorem due_of_ends (h : m.ends s.registry s.id s.filter = true) :
    { s with later := m :: rest }.due = [] := by
  simp [due, h]

theorem due_of_not_ends (h : m.ends s.registry s.id s.filter = false) :
    { s with later := m :: rest }.due =
      (m.event? s.registry s.filter).toList ++ { s with later := rest }.due := by
  unfold due
  dsimp only
  rw [List.takeWhile_cons_of_pos (by simp [h]), List.filterMap_cons]
  cases m.event? s.registry s.filter <;> rfl

end Enrolment

/-- The registration that a move makes at a registry. -/
def Move.entry? (n : Nat) (next : ListenerId) : Move κ ε → Option (Registration κ)
  | .on m filter => if m = n then some { id := next, filter := filter } else none
  | _ => none

/-! ## One move -/

section Step

variable (b : Switchboard κ ε)

theorem registry_drop (id : ListenerId) (k : Nat) :
    (b.step (.drop id)).registry k = (b.registry k).drop id := by
  have hget : (b.step (.drop id)).registries.get? k =
      (b.registries.get? k).map fun r => r.drop id := by
    unfold step Table.get?
    dsimp only
    induction b.registries.entries with
    | nil => rfl
    | cons e rest ih =>
      by_cases h : k = e.1
      · simp [Entries.get?, h]
      · simpa [Entries.get?, h] using ih
  unfold registry
  rw [hget]
  cases b.registries.get? k <;> rfl

/-- Those who are there after a move: the ones whom it does not end, and then the one who comes. -/
theorem live_step (m : Move κ ε) (n : Nat) :
    ((b.step m).registry n).live =
      ((b.registry n).live.filter fun e => !m.ends n e.id e.filter) ++
        (m.entry? n b.nextId).toList := by
  have hset : ∀ k r, ((b.setRegistry k r).registry n).live =
      if k = n then r.live else (b.registry n).live := fun k r => by
    rw [registry_setRegistry]
    split <;> rfl
  have hall : (b.registry n).live.filter (fun _ => true) = (b.registry n).live :=
    List.filter_eq_self.mpr fun _ _ => rfl
  cases m with
  | on k filter =>
    refine (hset k _).trans ?_
    by_cases h : k = n <;> simp [h, Registry.live_on, Move.ends, Move.entry?, hall]
  | off k id =>
    refine (hset k _).trans ?_
    by_cases h : k = n <;>
      simp [h, Registry.off, Registry.live_filter, Move.ends, Move.entry?, eq_comm, hall]
  | offFiltered k filter id =>
    refine (hset k _).trans ?_
    by_cases h : k = n <;>
      simp [h, Registry.offFiltered, Registry.live_filter, Move.ends, Move.entry?, eq_comm, hall]
  | offAll k =>
    refine (hset k _).trans ?_
    by_cases h : k = n <;>
      simp [h, Registry.offAll, Registry.live, Move.ends, Move.entry?]
  | emit k kind event =>
    refine (hset k _).trans ?_
    by_cases h : k = n <;> simp [h, Registry.live_prune, Move.ends, Move.entry?, hall]
  | drop id =>
    rw [registry_drop, Registry.live_drop]
    simp [Move.ends, Move.entry?, eq_comm]

end Step

/-! ## A run -/

/-- The registrations that stand at a registry, of those that some moves make. -/
def standing (n : Nat) (next : ListenerId) (moves : List (Move κ ε)) : List (Registration κ) :=
  ((enrolments next moves).filter fun s => decide (s.registry = n) && s.stands).map Enrolment.entry

theorem standing_cons (b : Switchboard κ ε) (n : Nat) (m : Move κ ε) (rest : List (Move κ ε)) :
    standing n b.nextId (m :: rest) =
      (m.entry? n b.nextId).toList.filter (outlasts n rest) ++
        standing n (b.step m).nextId rest := by
  cases m with
  | on k filter =>
    by_cases h : k = n
    · subst h
      by_cases hout : outlasts k rest { id := b.nextId, filter := filter } = true <;>
        simp [standing, enrolments, Move.entry?, Enrolment.stands, Enrolment.entry, hout, step]
    · simp [standing, enrolments, Move.entry?, h, step]
  | _ => rfl

/-- Those who are there after some moves: the ones who were there and have not been ended, and
then the ones who have come and stand. -/
theorem live_run (b : Switchboard κ ε) (moves : List (Move κ ε)) (n : Nat) :
    ((b.run moves).registry n).live =
      (b.registry n).live.filter (outlasts n moves) ++ standing n b.nextId moves := by
  induction moves generalizing b with
  | nil =>
    have hall : (b.registry n).live.filter (outlasts n ([] : List (Move κ ε))) =
        (b.registry n).live := List.filter_eq_self.mpr fun _ _ => rfl
    rw [hall]
    exact (List.append_nil _).symm
  | cons m rest ih =>
    have hcons : outlasts n (m :: rest) = fun e : Registration κ =>
        outlasts n rest e && !m.ends n e.id e.filter := funext fun _ => Bool.and_comm _ _
    rw [run, List.foldl_cons, ← run, ih, live_step, List.filter_append, List.filter_filter,
      standing_cons, List.append_assoc, hcons]

/-! ## What one registration receives -/

section Received

variable {b : Switchboard κ ε} {s : Enrolment κ ε}

/-- The registration is there, once and at no other registry. -/
def Seated (b : Switchboard κ ε) (s : Enrolment κ ε) : Prop :=
  ∀ n, b.seats s.id n = if n = s.registry then [s.entry] else []

/-- What a move delivers to an id: its event, once for each seat that wants it. -/
def deliveries (b : Switchboard κ ε) (id : ListenerId) : Move κ ε → List ε
  | .emit n kind event => List.replicate ((b.seats id n).countP fun e => e.wants kind) event
  | _ => []

theorem received_step (b : Switchboard κ ε) (id : ListenerId) (m : Move κ ε) :
    (b.step m).received id = b.received id ++ b.deliveries id m := by
  cases m with
  | emit n kind event =>
    unfold step received deliveries seats
    dsimp only
    rw [List.filterMap_append, Registry.recipients_eq]
    congr 1
    induction (b.registry n).live with
    | nil => rfl
    | cons e rest ih =>
      by_cases hw : e.wants kind = true <;> by_cases hid : e.id = id <;>
        simp_all [List.replicate_succ]
  | _ => exact (List.append_nil _).symm

theorem nextId_le_step (b : Switchboard κ ε) (m : Move κ ε) : b.nextId ≤ (b.step m).nextId := by
  cases m <;> simp [step, setRegistry]

/-- An id that has been given out keeps its seats until they are ended, and gets no new one. -/
theorem seats_step {id : ListenerId} (hid : id < b.nextId) (m : Move κ ε) (n : Nat) :
    (b.step m).seats id n = (b.seats id n).filter fun e => !m.ends n id e.filter := by
  have hnew : (m.entry? n b.nextId).toList.filter (fun e => decide (e.id = id)) = [] := by
    have hne : b.nextId ≠ id := Nat.ne_of_gt hid
    cases m with
    | on k filter => by_cases h : k = n <;> simp [Move.entry?, h, hne]
    | _ => rfl
  unfold seats
  rw [live_step, List.filter_append, hnew, List.append_nil, List.filter_filter, List.filter_filter]
  refine List.filter_congr fun e _ => ?_
  by_cases h : e.id = id <;> simp [h]

/-- Who is not there receives nothing any more. -/
theorem received_of_gone {id : ListenerId} (hid : id < b.nextId) (h : ∀ n, b.seats id n = [])
    (moves : List (Move κ ε)) : (b.run moves).received id = b.received id := by
  induction moves generalizing b with
  | nil => rfl
  | cons m rest ih =>
    have hgone : ∀ n, (b.step m).seats id n = [] := fun n => by
      rw [seats_step hid, h n, List.filter_nil]
    have hnothing : b.deliveries id m = [] := by
      cases m with
      | emit n kind event => simp [deliveries, h n]
      | _ => rfl
    rw [run, List.foldl_cons, ← run, ih (Nat.lt_of_lt_of_le hid (nextId_le_step b m)) hgone,
      received_step, hnothing, List.append_nil]

/-- Who is there, once, is delivered the event of a move that has one for them. -/
theorem deliveries_of_seated (h : b.Seated s) (m : Move κ ε) :
    b.deliveries s.id m = (m.event? s.registry s.filter).toList := by
  cases m with
  | emit n kind event =>
    simp only [deliveries, Move.event?, h n]
    by_cases hn : n = s.registry
    · by_cases hw : (s.filter.all fun f => decide (f = kind)) = true <;>
        simp [hn, hw, Enrolment.entry, Registration.wants]
    · simp [hn]
  | _ => rfl

/-- Who is there receives what is due from then on. -/
theorem received_of_seated (hid : s.id < b.nextId) (h : b.Seated s) (moves : List (Move κ ε)) :
    (b.run moves).received s.id = b.received s.id ++ { s with later := moves }.due := by
  induction moves generalizing b with
  | nil => exact (List.append_nil _).symm
  | cons m rest ih =>
    have hid' := Nat.lt_of_lt_of_le hid (nextId_le_step b m)
    have hseats : ∀ n, (b.step m).seats s.id n = if n = s.registry then
        [s.entry].filter fun e => !m.ends s.registry s.id e.filter else [] := fun n => by
      rw [seats_step hid, h n]
      split
      · rename_i hn
        rw [hn]
      · rfl
    rw [run, List.foldl_cons, ← run]
    cases hends : m.ends s.registry s.id s.filter with
    | true =>
      have hgone : ∀ n, (b.step m).seats s.id n = [] := fun n => by
        rw [hseats]
        simp [Enrolment.entry, hends]
      have hnothing : m.event? s.registry s.filter = none := by
        cases m with
        | emit n kind event => cases hends
        | _ => rfl
      rw [received_of_gone hid' hgone, received_step, deliveries_of_seated h, hnothing,
        Enrolment.due_of_ends hends]
      rfl
    | false =>
      have hseated : (b.step m).Seated s := fun n => by
        rw [hseats]
        simp [Enrolment.entry, hends]
      rw [ih hid' hseated, received_step, deliveries_of_seated h, Enrolment.due_of_not_ends hends,
        List.append_assoc]

end Received

/-! ## Where registrations come from -/

/-- What is registered after a move was so before, perhaps with its receiver still there, or has
just come. -/
theorem mem_entries_step (b : Switchboard κ ε) (m : Move κ ε) (n : Nat) {e : Registration κ}
    (h : e ∈ ((b.step m).registry n).entries) :
    (∃ e' ∈ (b.registry n).entries, e'.id = e.id ∧ e'.filter = e.filter) ∨
      m.entry? n b.nextId = some e := by
  have hset : ∀ k r, e ∈ ((b.setRegistry k r).registry n).entries →
      k = n ∧ e ∈ r.entries ∨ e ∈ (b.registry n).entries := fun k r h => by
    rw [registry_setRegistry] at h
    split at h
    · exact .inl ⟨‹_›, h⟩
    · exact .inr h
  have hkept : e ∈ (b.registry n).entries →
      ∃ e' ∈ (b.registry n).entries, e'.id = e.id ∧ e'.filter = e.filter :=
    fun h => ⟨e, h, rfl, rfl⟩
  cases m with
  | on k filter =>
    rcases hset k _ h with ⟨rfl, hon⟩ | hold
    · rcases List.mem_append.mp hon with hold | hnew
      · exact .inl (hkept hold)
      · exact .inr (by simp [Move.entry?, List.mem_singleton.mp hnew])
    · exact .inl (hkept hold)
  | drop id =>
    rw [registry_drop] at h
    obtain ⟨e', he', rfl⟩ := List.mem_map.mp h
    refine .inl ⟨e', he', ?_⟩
    split <;> exact ⟨rfl, rfl⟩
  | offAll k =>
    rcases hset k _ h with ⟨-, hnone⟩ | hold
    · cases hnone
    · exact .inl (hkept hold)
  | _ =>
    rcases hset _ _ h with ⟨rfl, hleft⟩ | hold
    · exact .inl (hkept (List.mem_filter.mp hleft).1)
    · exact .inl (hkept hold)

/-- One who comes has the next id, and the one after it is next then. -/
theorem of_entry? {b : Switchboard κ ε} {m : Move κ ε} {n : Nat} {e : Registration κ}
    (h : m.entry? n b.nextId = some e) :
    e.id = b.nextId ∧ (b.step m).nextId = b.nextId + 1 := by
  cases m with
  | on k filter =>
    obtain ⟨-, rfl⟩ : k = n ∧ { id := b.nextId, filter := filter } = e := by
      simpa [Move.entry?] using h
    exact ⟨rfl, rfl⟩
  | _ => nomatch h

theorem numbered_step {b : Switchboard κ ε} (h : b.Numbered) (m : Move κ ε) :
    (b.step m).Numbered := by
  have hle := nextId_le_step b m
  refine ⟨fun n e he => ?_, fun d hd => ?_⟩
  · rcases mem_entries_step b m n he with ⟨e', he', hid, -⟩ | hnew
    · exact hid ▸ Nat.lt_of_lt_of_le (h.entries n e' he') hle
    · obtain ⟨hid, hnext⟩ := of_entry? hnew
      rw [hid, hnext]
      exact Nat.lt_succ_self _
  · have hold : d ∈ b.delivered → d.1 < (b.step m).nextId := fun hd =>
      Nat.lt_of_lt_of_le (h.delivered d hd) hle
    cases m with
    | emit n kind event =>
      rcases List.mem_append.mp hd with hd | hd
      · exact hold hd
      · obtain ⟨id, hid, rfl⟩ := List.mem_map.mp hd
        obtain ⟨e, he, -, -, rfl⟩ := (Registry.mem_recipients _ _ _).mp hid
        exact h.entries n e he
    | _ => exact hold hd

/-- What comes of the later moves comes of all. -/
theorem mem_enrolments_cons {b : Switchboard κ ε} {m : Move κ ε} {rest : List (Move κ ε)}
    {s : Enrolment κ ε} (h : s ∈ enrolments (b.step m).nextId rest) :
    s ∈ enrolments b.nextId (m :: rest) := by
  cases m with
  | on n filter => exact List.mem_cons_of_mem _ h
  | _ => exact h

/-- Whatever is registered after some moves was so before, or has come by one of them. -/
theorem origin_run {b : Switchboard κ ε} {moves : List (Move κ ε)} {n : Nat} {e : Registration κ}
    (h : e ∈ ((b.run moves).registry n).entries) :
    (∃ e' ∈ (b.registry n).entries, e'.id = e.id ∧ e'.filter = e.filter) ∨
      ∃ s ∈ enrolments b.nextId moves, s.id = e.id ∧ s.registry = n ∧ s.filter = e.filter := by
  induction moves generalizing b with
  | nil => exact .inl ⟨e, h, rfl, rfl⟩
  | cons m rest ih =>
    rcases ih h with ⟨e', he', hid, hfilter⟩ | ⟨s, hs, horigin⟩
    · rcases mem_entries_step b m n he' with ⟨e'', he'', hid', hfilter'⟩ | hnew
      · exact .inl ⟨e'', he'', hid'.trans hid, hfilter'.trans hfilter⟩
      · refine .inr ?_
        cases m with
        | on k filter =>
          obtain ⟨rfl, rfl⟩ : k = n ∧ { id := b.nextId, filter := filter } = e' := by
            simpa [Move.entry?] using hnew
          exact ⟨_, List.mem_cons_self, hid, rfl, hfilter⟩
        | _ => nomatch hnew
    · exact .inr ⟨s, mem_enrolments_cons hs, horigin⟩

/-- Whoever comes has a seat, and no other. -/
theorem seated_on {b : Switchboard κ ε} (h : b.Numbered) (n : Nat) (filter : Option κ)
    (later : List (Move κ ε)) : (b.step (.on n filter)).Seated ⟨b.nextId, n, filter, later⟩ := by
  intro k
  have hnone : (b.registry k).live.filter (fun e => decide (e.id = b.nextId)) = [] :=
    (h.unused (Nat.le_refl b.nextId)).1 k
  unfold seats
  rw [live_step, List.filter_append, List.filter_filter]
  by_cases hk : k = n
  · simp [hk, Move.ends, Move.entry?, Enrolment.entry, ← hnone]
  · simp [hk, Move.ends, Move.entry?, hnone, Ne.symm hk]

/-! ## The law -/

/-- Whoever registers receives what is due, and nothing else. -/
theorem received_run {b : Switchboard κ ε} (h : b.Numbered) {moves : List (Move κ ε)}
    {s : Enrolment κ ε} (hs : s ∈ enrolments b.nextId moves) :
    (b.run moves).received s.id = s.due := by
  induction moves generalizing b with
  | nil => cases hs
  | cons m rest ih =>
    have hstep := numbered_step h m
    cases m with
    | on n filter =>
      rcases List.mem_cons.mp hs with rfl | hs
      · have hreceived := received_of_seated (Nat.lt_succ_self b.nextId)
          (seated_on h n filter rest) rest
        rw [received_step, (h.unused (Nat.le_refl b.nextId)).2] at hreceived
        exact hreceived
      · exact ih hstep hs
    | _ => exact ih hstep hs

/-- For every history of moves: each registration receives just the events that are emitted at its
own registry, from when it is made until it is removed or its receiver goes away, and that are of
the kind which it asks for, in their order and once each. At another registry its id removes
nothing, and neither does it with a filter that is not its own. And there are as many receivers
for just a filter as there are registrations with it that stand. -/
theorem each_registration_receives_its_events (start : ListenerId) (moves : List (Move κ ε)) :
    let b := run { nextId := start } moves
    let made := enrolments start moves
    (∀ s ∈ made, b.received s.id = s.due) ∧
    (∀ s ∈ made, ∀ n filter k, n ≠ s.registry →
      (b.step (.off n s.id)).registry k = b.registry k ∧
        (b.step (.offFiltered n filter s.id)).registry k = b.registry k) ∧
    (∀ s ∈ made, ∀ n filter k, filter ≠ s.filter →
      (b.step (.offFiltered n filter s.id)).registry k = b.registry k) ∧
    ∀ n filter, (b.registry n).count filter =
      (made.filter fun s => decide (s.registry = n ∧ s.filter = filter) && s.stands).length := by
  intro b made
  have hnumbered : ({ nextId := start } : Switchboard κ ε).Numbered :=
    ⟨fun _ _ h => (nomatch h), fun _ h => (nomatch h)⟩
  -- An entry under the id of a registration is the entry of that registration.
  have hown : ∀ s ∈ made, ∀ n, ∀ e ∈ (b.registry n).entries, e.id = s.id →
      n = s.registry ∧ e.filter = s.filter := by
    intro s hs n e he hid
    rcases origin_run he with ⟨_, hnone, -⟩ | ⟨t, ht, hid', rfl, hfilter⟩
    · nomatch hnone
    · rw [← eq_of_mem_enrolments ht hs (hid'.trans hid)]
      exact ⟨rfl, hfilter.symm⟩
  refine ⟨fun s hs => received_run hnumbered hs, fun s hs n filter k hn => ⟨?_, ?_⟩,
    fun s hs n filter k hfilter => ?_, fun n filter => ?_⟩
  · exact setRegistry_filter (fun e he hid => hn (hown s hs n e he hid).1) k
  · exact setRegistry_filter (fun e he h => hn (hown s hs n e he h.1).1) k
  · exact setRegistry_filter (fun e he h => hfilter (h.2.symm.trans (hown s hs n e he h.1).2)) k
  · have hlive : (b.registry n).live = standing n start moves :=
      live_run { nextId := start } moves n
    rw [Registry.count_eq, hlive, standing, List.filter_map, List.length_map, List.filter_filter]
    congr 2
    funext s
    simp only [Function.comp, Enrolment.entry, Bool.decide_and]
    ac_rfl

/-- What comes after somebody has asked for the events of kind 5 at registry 1: some of them, one
of another kind, and attempts to remove the registration that miss it. -/
def laterMoves : List (Move Nat String) :=
  [.emit 1 5 "one", .emit 1 6 "two", .off 0 8, .emit 1 5 "three", .offFiltered 1 none 8,
    .emit 0 5 "four", .drop 7, .emit 1 5 "five"]

def secondOfTwo : Enrolment Nat String := ⟨8, 1, some 5, laterMoves⟩

/-- Of two registrations at two registries, the second one hears its three events and is still
there, when the receiver of the first one is gone. -/
theorem the_second_of_two_receives_its_events :
    let moves : List (Move Nat String) := .on 0 none :: .on 1 (some 5) :: laterMoves
    let b := run { nextId := 7 } moves
    secondOfTwo ∈ enrolments 7 moves ∧ b.received 8 = ["one", "three", "five"] ∧
      (0 ≠ secondOfTwo.registry ∧ (b.step (.off 0 8)).registry 0 = b.registry 0) ∧
      (none ≠ secondOfTwo.filter ∧ (b.step (.offFiltered 1 none 8)).registry 1 = b.registry 1) ∧
      (b.registry 1).count (some 5) = 1 ∧ (b.registry 0).count none = 0 := by
  intro moves b
  have hmem : secondOfTwo ∈ enrolments 7 moves := List.mem_cons_of_mem _ List.mem_cons_self
  obtain ⟨hreceived, hother, hfilter, hcount⟩ := each_registration_receives_its_events 7 moves
  exact ⟨hmem, hreceived _ hmem, ⟨by decide, (hother _ hmem 0 none 0 (by decide)).1⟩,
    ⟨by decide, hfilter _ hmem 1 none 1 (by decide)⟩, hcount 1 (some 5), hcount 0 none⟩

end Switchboard

end PresenceClient.Listener
