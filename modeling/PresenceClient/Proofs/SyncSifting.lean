-- How a sync sifts the members: while it lasts, each of them either waits to be named or has
-- been named, and its end keeps the ones and drops the others. A sync that is under way when
-- the next one begins goes on, so what it has named counts as named.
import PresenceClient.Proofs.RosterMoves

namespace PresenceClient.Roster

/-! ## Moves between the begin and the end of a sync -/

/-- Is the move one that neither begins nor ends a sync, nor forgets the members? -/
def Move.isTaking : Move → Bool
  | .put _ | .trackOwn _ | .setCursor _ => true
  | _ => false

/-- Does the move take in a record? -/
def Move.isRecord : Move → Bool
  | .put _ | .trackOwn _ => true
  | _ => false

theorem Move.isTaking_of_isRecord {m : Move} (h : m.isRecord = true) : m.isTaking = true := by
  cases m <;> first | rfl | cases h

/-- The member that a move names. -/
def Move.named : Move → Option MemberKey
  | .put p => some p.key
  | _ => none

/-- The members that some moves name, in order. -/
def named (moves : List Move) : List MemberKey := moves.filterMap Move.named

@[simp] theorem named_nil : named [] = [] := rfl

@[simp] theorem named_append (a b : List Move) : named (a ++ b) = named a ++ named b :=
  List.filterMap_append

section Taking

variable {r : Roster} {m : Move} {moves : List Move} {k : MemberKey} {p : Presence}

theorem sync_taking (hm : m.isTaking = true) : (r.move m).1.sync = r.sync := by
  cases m with
  | put p => exact sync_put
  | trackOwn p =>
    show (r.trackOwn p).sync = r.sync
    unfold trackOwn
    split <;> rfl
  | setCursor cursor => rfl
  | _ => cases hm

/-- Whoever is not named stays as they are. -/
theorem members_taking (hm : m.isTaking = true) (hk : m.named ≠ some k) :
    (r.move m).1.members.get? k = r.members.get? k := by
  cases m with
  | put p =>
    have hne : k ≠ p.key := fun he => hk (congrArg some he.symm)
    show (r.put p).1.members.get? k = _
    rw [members_put, if_neg fun h => hne h.1]
  | trackOwn p =>
    show (r.trackOwn p).members.get? k = _
    unfold trackOwn
    split <;> rfl
  | setCursor cursor => rfl
  | _ => cases hm

/-- During a sync, whoever is named is waited for no more, and the others keep their order. -/
theorem residual_taking (hs : r.isSyncing = true) (hm : m.isTaking = true) :
    (r.move m).1.residual = r.residual.filter fun k => decide (m.named ≠ some k) := by
  cases m with
  | put p =>
    show (r.put p).1.residual = _
    rw [residual_put hs]
    simp [Move.named, eq_comm]
  | trackOwn p =>
    have hsame : (r.trackOwn p).residual = r.residual := by
      unfold trackOwn
      split <;> rfl
    show (r.trackOwn p).residual = _
    simp [Move.named, hsame]
  | setCursor cursor => simp [move, setCursor, Move.named]
  | _ => cases hm

theorem mem_named_cons : k ∈ named (m :: moves) ↔ m.named = some k ∨ k ∈ named moves := by
  simp [named, List.mem_filterMap]

theorem sync_after_taking (h : ∀ m ∈ moves, m.isTaking = true) :
    (r.after moves).sync = r.sync := by
  induction moves generalizing r with
  | nil => rfl
  | cons m rest ih =>
    rw [after_cons, ih fun m' hm' => h m' (List.mem_cons_of_mem _ hm'),
      sync_taking (h m List.mem_cons_self)]

theorem members_after_taking (h : ∀ m ∈ moves, m.isTaking = true) (hk : k ∉ named moves) :
    (r.after moves).members.get? k = r.members.get? k := by
  induction moves generalizing r with
  | nil => rfl
  | cons m rest ih =>
    obtain ⟨hm, hrest⟩ := not_or.mp (mt mem_named_cons.mpr hk)
    rw [after_cons, ih (fun m' hm' => h m' (List.mem_cons_of_mem _ hm')) hrest,
      members_taking (h m List.mem_cons_self) hm]

theorem isSyncing_taking (hm : m.isTaking = true) : (r.move m).1.isSyncing = r.isSyncing := by
  rw [isSyncing, sync_taking hm, isSyncing]

theorem residual_eq_after_taking (hs : r.isSyncing = true) (h : ∀ m ∈ moves, m.isTaking = true) :
    (r.after moves).residual = r.residual.filter fun k => decide (k ∉ named moves) := by
  induction moves generalizing r with
  | nil => simp
  | cons m rest ih =>
    have hm := h m List.mem_cons_self
    rw [after_cons, ih ((isSyncing_taking hm).trans hs) fun m' hm' =>
      h m' (List.mem_cons_of_mem _ hm'), residual_taking hs hm, List.filter_filter]
    congr 1
    funext k
    simp [mem_named_cons, Bool.and_comm]

theorem residual_after_taking (hs : r.isSyncing = true) (h : ∀ m ∈ moves, m.isTaking = true) :
    k ∈ (r.after moves).residual ↔ k ∈ r.residual ∧ k ∉ named moves := by
  rw [residual_eq_after_taking hs h, List.mem_filter, decide_eq_true_eq]

end Taking

/-! ## Sifted rosters -/

/-- Each member waits to be named or is among those who have been named, and nobody who has
been named waits. -/
structure Sifted (r : Roster) (hasBeenNamed : MemberKey → Prop) : Prop where
  member : ∀ k p, r.members.get? k = some p → k ∈ r.residual ∨ hasBeenNamed k
  residual : ∀ k ∈ r.residual, ¬hasBeenNamed k

section Sifted

variable {r : Roster} {moves : List Move} {N : MemberKey → Prop} {k : MemberKey} {p : Presence}

/-- Where a sync begins, everybody waits. One that is under way goes on as it is. -/
theorem sifted_startSync (h : r.isSyncing = true → r.Sifted N) :
    r.startSync.Sifted fun k => r.isSyncing = true ∧ N k := by
  cases hs : r.isSyncing with
  | true =>
    have hr := h hs
    rw [startSync_of_syncing hs]
    exact ⟨fun k p hk => (hr.member k p hk).imp_right fun hn => ⟨rfl, hn⟩,
      fun k hk hn => hr.residual k hk hn.2⟩
  | false =>
    rw [startSync_of_not_syncing hs]
    exact ⟨fun k p hk => .inl (Table.mem_keys_of_get? hk), fun k _ hn => nomatch hn.1⟩

theorem sifted_taking (hs : r.isSyncing = true) (h : r.Sifted N)
    (hm : ∀ m ∈ moves, m.isTaking = true) :
    (r.after moves).Sifted fun k => k ∈ named moves ∨ N k := by
  refine ⟨fun k p hk => ?_, fun k hk hn => ?_⟩
  · by_cases hnamed : k ∈ named moves
    · exact .inr (.inl hnamed)
    · rw [members_after_taking hm hnamed] at hk
      rcases h.member k p hk with hres | hn
      · exact .inl ((residual_after_taking hs hm).mpr ⟨hres, hnamed⟩)
      · exact .inr (.inr hn)
  · obtain ⟨hres, hnot⟩ := (residual_after_taking hs hm).mp hk
    rcases hn with hn | hn
    · exact hnot hn
    · exact h.residual k hres hn

/-- The end of a sync keeps just the members that have been named. -/
theorem member_endSync (h : r.Sifted N) (timestamp : Option Int) :
    (r.endSync timestamp).1.members.get? k = some p ↔ r.members.get? k = some p ∧ N k := by
  rw [members_endSync]
  constructor
  · intro hk
    split at hk
    · cases hk
    · rename_i hres
      exact ⟨hk, (h.member k p hk).resolve_left hres⟩
  · rintro ⟨hk, hn⟩
    rw [if_neg fun hres => h.residual k hres hn]
    exact hk

/-- The end of a sync reports the members that have not been named. -/
theorem reported_endSync (h : r.Sifted N) (timestamp : Option Int)
    (hk : r.members.get? k = some p) (hn : ¬N k) :
    leaveOf timestamp p ∈ (r.endSync timestamp).2 :=
  List.mem_map_of_mem (List.mem_filterMap.mpr ⟨k, (h.member k p hk).resolve_right hn, hk⟩)

end Sifted

/-! ## What a step does to a sync -/

/-- The moves take in some records, perhaps after a sync has begun, and may end it then, at the
time given. -/
inductive Sifting (timestamp : Option Int) : List Move → Prop
  | taking {moves : List Move} (h : ∀ m ∈ moves, m.isTaking = true) : Sifting timestamp moves
  | started {moves : List Move} (h : ∀ m ∈ moves, m.isTaking = true) :
      Sifting timestamp (.startSync :: moves)
  | ended {moves : List Move} (h : ∀ m ∈ moves, m.isTaking = true) :
      Sifting timestamp (.startSync :: (moves ++ [.endSync timestamp]))

section Sifting

variable {r : Roster} {moves : List Move} {N : MemberKey → Prop} {k : MemberKey}
  {timestamp : Option Int}

/-- Who has been named after some moves: those whom they name, and those who had been named
in a sync that was under way. -/
def NamedAfter (r : Roster) (N : MemberKey → Prop) (moves : List Move) (k : MemberKey) : Prop :=
  k ∈ named moves ∨ r.isSyncing = true ∧ N k

/-- A sync that has begun and taken in some records. -/
theorem sifted_started (h : r.isSyncing = true → r.Sifted N)
    (hm : ∀ m ∈ moves, m.isTaking = true) :
    (r.startSync.after moves).Sifted (r.NamedAfter N moves) :=
  sifted_taking (by simp [isSyncing]) (sifted_startSync h) hm

/-- What goes on after some moves is sifted. -/
theorem sifted_sifting (h : r.isSyncing = true → r.Sifted N) (hm : Sifting timestamp moves)
    (hs : (r.after moves).isSyncing = true) : (r.after moves).Sifted (r.NamedAfter N moves) := by
  cases hm with
  | taking hm =>
    have hs' : r.isSyncing = true := by
      rw [isSyncing, sync_after_taking hm] at hs
      exact hs
    have hr := sifted_started h hm
    rwa [startSync_of_syncing hs'] at hr
  | started hm => exact sifted_started h hm
  | ended hm =>
    rw [after_cons, after_append] at hs
    cases hs

/-- As long as a sync goes on, whoever is not named stays as they are. -/
theorem members_sifting (hm : Sifting timestamp moves) (hs : (r.after moves).isSyncing = true)
    (hk : k ∉ named moves) : (r.after moves).members.get? k = r.members.get? k := by
  cases hm with
  | taking hm => exact members_after_taking hm hk
  | @started moves hm =>
    have hk' : k ∉ named moves := hk
    rw [after_cons]
    exact (members_after_taking hm hk').trans (congrArg (·.get? k) members_startSync)
  | ended hm =>
    rw [after_cons, after_append] at hs
    cases hs

/-- Where a sync comes to its end, the members are those who have been named, and the others
are reported. -/
theorem ended_sifting (h : r.isSyncing = true → r.Sifted N)
    (hm : ∀ m ∈ moves, m.isTaking = true) :
    let all := .startSync :: (moves ++ [.endSync timestamp])
    (r.after all).sync = .complete ∧
      (∀ k p, (r.after all).members.get? k = some p ↔
        (r.startSync.after moves).members.get? k = some p ∧ r.NamedAfter N all k) ∧
      ∀ k p, r.members.get? k = some p → ¬r.NamedAfter N all k →
        leaveOf timestamp p ∈ r.reports all := by
  intro all
  have hr := sifted_started h hm
  have hnamed : ∀ k, r.NamedAfter N all k ↔ r.NamedAfter N moves k := fun k => by
    have hsame : named all = named moves := by
      show named (moves ++ [.endSync timestamp]) = _
      rw [named_append]
      exact List.append_nil _
    rw [NamedAfter, NamedAfter, hsame]
  have hafter : r.after all = ((r.startSync.after moves).endSync timestamp).1 := by
    rw [after_cons, after_append]
    rfl
  refine ⟨by rw [hafter]; rfl, fun k p => ?_, fun k p hk hn => ?_⟩
  · rw [hafter, hnamed]
    exact member_endSync hr timestamp
  · rw [hnamed] at hn
    have hk' : (r.startSync.after moves).members.get? k = some p := by
      rw [members_after_taking hm fun hmem => hn (.inl hmem), members_startSync]
      exact hk
    rw [reports, reports_append, reports, reports]
    simp only [List.mem_append]
    exact .inr (.inr (.inl (reported_endSync hr timestamp hk' hn)))

end Sifting

end PresenceClient.Roster
