-- The law of a whole sync. Between its begin and its end a sync may take in any records, and may
-- be begun once more: its end drops and reports just those members of before that no record has
-- named on the way, whether the record was news or not.
import PresenceClient.Proofs.SyncSifting

namespace PresenceClient

/-! ## Tables without some keys -/

namespace Table

variable {κ α : Type} [DecidableEq κ]

theorem entries_eraseAll (t : Table κ α) (ks : List κ) :
    (ks.foldl erase t).entries = t.entries.filter fun e => decide (e.1 ∉ ks) := by
  induction ks generalizing t with
  | nil => simp
  | cons first rest ih =>
    rw [List.foldl_cons, ih]
    show (t.entries.filter _).filter _ = _
    rw [List.filter_filter]
    congr 1
    funext e
    simp [eq_comm (a := first), Bool.and_comm]

/-- Looking up some of the keys of a table in turn gives the values that stand under them. -/
theorem filterMap_get? [LT κ] [IsStrictTotalOrder κ (· < ·)] {t : Table κ α} (h : t.Ordered)
    (test : κ → Bool) :
    (t.keys.filter test).filterMap t.get? = (t.entries.filter fun e => test e.1).map (·.2) := by
  have hone : ∀ e ∈ t.entries.filter fun e => test e.1, t.get? e.1 = some e.2 := fun e he =>
    Entries.get?_of_mem h (List.mem_filter.mp he).1
  rw [keys, List.filter_map, List.filterMap_map, ← List.filterMap_eq_map]
  exact List.filterMap_congr hone

end Table

namespace Roster

/-! ## From the begin of a sync to its end -/

/-- Is the move one that is made while a sync goes on? A second begin is one. -/
def Move.isWithinSync : Move → Bool
  | .endSync _ | .reset => false
  | _ => true

section Within

variable {r : Roster} {moves : List Move}

theorem isWithinSync_iff {m : Move} :
    m.isWithinSync = true ↔ m.isTaking = true ∨ m = .startSync := by
  cases m <;> simp [Move.isWithinSync, Move.isTaking]

/-- While a sync goes on, to begin it once more makes no difference. -/
theorem after_within (hs : r.isSyncing = true) (h : ∀ m ∈ moves, m.isWithinSync = true) :
    r.after moves = r.after (moves.filter Move.isTaking) := by
  induction moves generalizing r with
  | nil => rfl
  | cons m rest ih =>
    have hrest := fun m' hm' => h m' (List.mem_cons_of_mem m hm')
    rcases isWithinSync_iff.mp (h m List.mem_cons_self) with hm | rfl
    · rw [List.filter_cons_of_pos hm, after_cons, after_cons,
        ih ((isSyncing_taking hm).trans hs) hrest]
    · have hsame : (r.move .startSync).1 = r := startSync_of_syncing hs
      rw [List.filter_cons_of_neg (by decide), after_cons, hsame, ih hs hrest]

/-- Only taking in a record names a member. -/
theorem named_filter_isTaking : named (moves.filter Move.isTaking) = named moves := by
  rw [named, List.filterMap_filter]
  refine List.filterMap_congr fun m _ => ?_
  cases m <;> rfl

variable (r moves) in
/-- The members that a sync finds and that some moves do not name, in order. -/
def unnamed : List (MemberKey × Presence) :=
  r.members.entries.filter fun e => decide (e.1 ∉ named moves)

theorem mem_unnamed {e : MemberKey × Presence} :
    e ∈ r.unnamed moves ↔ e ∈ r.members.entries ∧ e.1 ∉ named moves := by
  simp [unnamed]

theorem ascending_unnamed (h : r.Consistent) :
    ((r.unnamed moves).map (·.1)).Pairwise (· < ·) :=
  List.pairwise_map.mpr (List.Pairwise.sublist List.filter_sublist h.members_ordered)

/-- When a sync is to end, it still waits for the members that nothing has named. -/
theorem residual_within (hcalm : r.isSyncing = false)
    (h : ∀ m ∈ moves, m.isWithinSync = true) :
    (r.startSync.after moves).residual = (r.unnamed moves).map (·.1) := by
  have hs : r.startSync.isSyncing = true := by simp [isSyncing]
  rw [after_within hs h, residual_eq_after_taking hs fun m hm => (List.mem_filter.mp hm).2,
    named_filter_isTaking, startSync_of_not_syncing hcalm, unnamed]
  exact List.filter_map

/-- Until a sync ends, whoever is not named stays as they are. -/
theorem members_within (h : ∀ m ∈ moves, m.isWithinSync = true) {k : MemberKey}
    (hk : k ∉ named moves) : (r.startSync.after moves).members.get? k = r.members.get? k := by
  have hs : r.startSync.isSyncing = true := by simp [isSyncing]
  have hk' : k ∉ named (moves.filter Move.isTaking) := by rwa [named_filter_isTaking]
  rw [after_within hs h, members_after_taking (fun m hm => (List.mem_filter.mp hm).2) hk',
    members_startSync]

/-- The end of a sync reports the members that nothing has named, as they were before it. -/
theorem leaves_within (hr : r.Consistent) (hcalm : r.isSyncing = false)
    (h : ∀ m ∈ moves, m.isWithinSync = true) (timestamp : Option Int) :
    ((r.startSync.after moves).endSync timestamp).2 =
      (r.unnamed moves).map fun e => leaveOf timestamp e.2 := by
  have hkeys : (r.unnamed moves).map (·.1) =
      r.members.keys.filter fun k => decide (k ∉ named moves) := by
    rw [Table.keys, List.filter_map]
    rfl
  have hfound : ∀ k ∈ (r.unnamed moves).map (·.1),
      (r.startSync.after moves).members.get? k = r.members.get? k := by
    intro k hk
    obtain ⟨e, he, rfl⟩ := List.mem_map.mp hk
    exact members_within h (mem_unnamed.mp he).2
  have hleft : (r.startSync.after moves).residual.filterMap
      (r.startSync.after moves).members.get? = (r.unnamed moves).map (·.2) := by
    rw [residual_within hcalm h, List.filterMap_congr hfound, hkeys]
    exact Table.filterMap_get? hr.members_ordered _
  show List.map _ _ = _
  rw [hleft, List.map_map]
  rfl

end Within

/-! ## The law -/

/-- Wherever moves have brought a roster that is not in a sync: if a sync is begun then and ended
later, then its end reports the members of before that no record has named in between, each once
and in the order of their keys, as leaving with what was known of them before. It drops these
and no others, and leaves nothing of the sync behind. -/
theorem a_sync_drops_just_whom_it_has_not_named (history moves : List Move)
    (timestamp : Option Int) (hcalm : (({} : Roster).after history).isSyncing = false)
    (hmoves : ∀ m ∈ moves, m.isWithinSync = true) :
    let r := ({} : Roster).after history
    let last := r.startSync.after moves
    let ended := (last.endSync timestamp).1
    let leaves := (last.endSync timestamp).2
    let missed := r.unnamed moves
    leaves = missed.map (fun (_, p) =>
        { p with id := none, action := .leave, timestamp := timestamp <|> p.timestamp }) ∧
      leaves.map Presence.key = missed.map (·.1) ∧
      (leaves.map Presence.key).Pairwise (· < ·) ∧
      (∀ p ∈ leaves, p.key ∉ named moves) ∧
      ended.members.entries =
        last.members.entries.filter (fun e => decide (e.1 ∉ missed.map (·.1))) ∧
      ended.residual = [] ∧ ended.gone = ∅ ∧ ended.cursor = none ∧ ended.sync = .complete := by
  intro r last ended leaves missed
  have hr : r.Consistent := consistent_after consistent_fresh history
  have hleaves : leaves = missed.map fun e => leaveOf timestamp e.2 :=
    leaves_within hr hcalm hmoves timestamp
  have hkeys : leaves.map Presence.key = missed.map (·.1) := by
    rw [hleaves, List.map_map]
    refine List.map_congr_left fun e he => ?_
    have hfound := Entries.get?_of_mem hr.members_ordered (mem_unnamed.mp he).1
    exact (hr.member e.1 e.2 hfound).1
  refine ⟨hleaves, hkeys, hkeys ▸ ascending_unnamed hr, fun p hp => ?_, ?_, rfl, rfl, rfl, rfl⟩
  · have hmem : p.key ∈ missed.map (·.1) := hkeys ▸ List.mem_map_of_mem hp
    obtain ⟨e, he, hk⟩ := List.mem_map.mp hmem
    exact hk ▸ (mem_unnamed.mp he).2
  · show (last.residual.foldl Table.erase last.members).entries = _
    rw [Table.entries_eraseAll, residual_within hcalm hmoves]

/-- Of four members the sync confirms bob by an older record, and cid leaves and comes back; dan
leaves for good. Nothing is said of ann. -/
theorem a_sync_drops_ann_alone :
    let entry (clientId : String) (action : Presence.Action) (serial : String) : Presence :=
      ⟨some ("c:" ++ serial ++ ":0"), action, clientId, "c", .null, some 5⟩
    let r := after {} (["dan", "ann", "cid", "bob"].map fun id => .put (entry id .enter "3"))
    let moves : List Move := [.put (entry "bob" .present "2"), .put (entry "cid" .leave "4"),
      .startSync, .trackOwn (entry "ann" .update "9"), .put (entry "cid" .enter "5"),
      .setCursor (some "s:1"), .put (entry "dan" .leave "4")]
    let last := r.startSync.after moves
    (last.endSync none).2 = [⟨none, .leave, "ann", "c", .null, some 5⟩] ∧
      (last.endSync none).2.map Presence.key = (r.unnamed moves).map (·.1) ∧
      (last.endSync none).1.members.keys = [⟨"bob", "c"⟩, ⟨"cid", "c"⟩] := by
  intro entry r moves last
  obtain ⟨-, hkeys, -⟩ := a_sync_drops_just_whom_it_has_not_named
    (["dan", "ann", "cid", "bob"].map fun id => .put (entry id .enter "3")) moves none
    (by decide) (by decide)
  exact ⟨by decide, hkeys, by decide⟩

end Roster

end PresenceClient
