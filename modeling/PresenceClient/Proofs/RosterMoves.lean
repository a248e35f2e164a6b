-- The moves of a roster, seen for one member at a time, and what every roster keeps that has
-- come about by moves: each record stands under its own key, nobody is both here and gone,
-- and what a sync has still to hear of is among the members.
import PresenceClient.Proofs.TableOrder
import PresenceClient.Roster

namespace PresenceClient

/-- Members have one order: by client, then by connection. -/
instance : IsStrictTotalOrder MemberKey (· < ·) where
  trichotomous := by
    rintro ⟨a, b⟩ ⟨a', b'⟩ h1 h2
    obtain ⟨h1, h1'⟩ := not_or.mp h1
    obtain ⟨h2, h2'⟩ := not_or.mp h2
    have ha : a = a' := le_antisymm (not_lt.mp h2) (not_lt.mp h1)
    have hb : b = b' := le_antisymm (not_lt.mp fun h => h2' ⟨ha.symm, h⟩)
      (not_lt.mp fun h => h1' ⟨ha, h⟩)
    rw [ha, hb]
  irrefl := by
    rintro a (h | ⟨-, h⟩)
    · exact lt_irrefl _ h
    · exact lt_irrefl _ h
  trans := by
    rintro a b c (h1 | ⟨h1, h1'⟩) (h2 | ⟨h2, h2'⟩)
    · exact .inl (h1.trans h2)
    · exact .inl (h2 ▸ h1)
    · exact .inl (h1 ▸ h2)
    · exact .inr ⟨h1.trans h2, h1'.trans h2'⟩

namespace Roster

/-! ## Moves -/

/-- What can be done to a roster. -/
inductive Move where
  | put (p : Presence)
  | trackOwn (p : Presence)
  | startSync
  | endSync (timestamp : Option Int)
  | setCursor (cursor : Option String)
  | reset
deriving DecidableEq

/-- Make a move. What is to be reported of it comes along. -/
def move (r : Roster) : Move → Roster × List Presence
  | .put p => ((r.put p).1, (r.put p).2.toList)
  | .trackOwn p => (r.trackOwn p, [])
  | .startSync => (r.startSync, [])
  | .endSync timestamp => r.endSync timestamp
  | .setCursor cursor => (r.setCursor cursor, [])
  | .reset => (r.reset, [])

/-- The roster after some moves. -/
def after (r : Roster) (moves : List Move) : Roster := moves.foldl (fun r m => (r.move m).1) r

/-- What is to be reported of some moves, in order. -/
def reports (r : Roster) : List Move → List Presence
  | [] => []
  | m :: rest => (r.move m).2 ++ (r.move m).1.reports rest

variable {r : Roster} {p : Presence} {k : MemberKey}

@[simp] theorem after_nil : r.after [] = r := rfl

@[simp] theorem after_cons (m : Move) (rest : List Move) :
    r.after (m :: rest) = (r.move m).1.after rest := rfl

@[simp] theorem after_append (first later : List Move) :
    r.after (first ++ later) = (r.after first).after later := List.foldl_append

theorem reports_append (first later : List Move) :
    r.reports (first ++ later) = r.reports first ++ (r.after first).reports later := by
  induction first generalizing r with
  | nil => rfl
  | cons m rest ih => simp only [List.cons_append, reports, ih, after_cons, List.append_assoc]

/-- What each move keeps, moves in turn keep. -/
theorem after_keeps {P : Roster → Prop} (hmove : ∀ r m, P r → P (r.move m).1) (h : P r)
    (moves : List Move) : P (r.after moves) := by
  induction moves generalizing r with
  | nil => exact h
  | cons m rest ih => exact ih (hmove r m h)

/-! ## A record -/

/-- Naming a member changes nothing but whom a sync waits for. -/
theorem mark_rest : (r.mark k).members = r.members ∧ (r.mark k).gone = r.gone ∧
    (r.mark k).own = r.own ∧ (r.mark k).sync = r.sync ∧ (r.mark k).cursor = r.cursor := by
  unfold mark
  split <;> exact ⟨rfl, rfl, rfl, rfl, rfl⟩

/-- What a record makes of its own member, and that it leaves all others. -/
theorem members_put : (r.put p).1.members.get? k =
    if k = p.key ∧ r.isNews p = true then if p.action.isHere then some p.asMember else none
    else r.members.get? k := by
  have hmark : (r.mark p.key).members = r.members := mark_rest.1
  unfold put accept
  by_cases hnews : r.isNews p = true
  · by_cases hk : k = p.key
    · subst hk
      by_cases hhere : p.action.isHere = true
      · simp [hnews, hhere]
      · simp [hnews, hhere]
    · by_cases hhere : p.action.isHere = true
      · simp [hnews, hhere, hk, hmark, Table.get?_put_ne _ hk]
      · simp [hnews, hhere, hk, hmark, Table.get?_erase_ne _ hk]
  · simp [hnews, hmark]

/-- During a sync, who leaves is kept in mind. -/
theorem gone_put (hsync : r.isSyncing = true) : (r.put p).1.gone.get? k =
    if k = p.key ∧ r.isNews p = true then if p.action.isHere then none else some p
    else r.gone.get? k := by
  have hmark : (r.mark p.key).gone = r.gone := mark_rest.2.1
  have hsync' : (r.mark p.key).isSyncing = true := by rwa [isSyncing, mark_rest.2.2.2.1]
  unfold put accept
  by_cases hnews : r.isNews p = true
  · by_cases hk : k = p.key
    · subst hk
      by_cases hhere : p.action.isHere = true
      · simp [hnews, hhere]
      · simp [hnews, hhere, hsync']
    · by_cases hhere : p.action.isHere = true
      · simp [hnews, hhere, hk, hmark, Table.get?_erase_ne _ hk]
      · simp [hnews, hhere, hk, hmark, hsync', Table.get?_put_ne _ hk]
  · simp [hnews, hmark]

/-- Whether it is news or not, a record does to the rest of the roster what naming its member
does. -/
theorem put_rest : (r.put p).1.residual = (r.mark p.key).residual ∧ (r.put p).1.own = r.own ∧
    (r.put p).1.sync = r.sync ∧ (r.put p).1.cursor = r.cursor := by
  have hmark : (r.mark p.key).own = r.own ∧ (r.mark p.key).sync = r.sync ∧
      (r.mark p.key).cursor = r.cursor := mark_rest.2.2
  unfold put accept
  split
  · split <;> exact ⟨rfl, hmark⟩
  · exact ⟨rfl, hmark⟩

@[simp] theorem sync_put : (r.put p).1.sync = r.sync := put_rest.2.2.1

@[simp] theorem isSyncing_put : (r.put p).1.isSyncing = r.isSyncing := by
  simp only [isSyncing, sync_put]

theorem residual_put (hsync : r.isSyncing = true) :
    (r.put p).1.residual = r.residual.filter fun k => !decide (k = p.key) := by
  rw [put_rest.1, mark, if_pos hsync]

/-! ## A sync -/

theorem startSync_of_syncing (h : r.isSyncing = true) : r.startSync = r := if_pos h

theorem startSync_of_not_syncing (h : r.isSyncing = false) : r.startSync =
    { r with residual := r.members.keys, gone := ∅, cursor := none, sync := .inProgress } :=
  if_neg (by simp [h])

@[simp] theorem sync_startSync : r.startSync.sync = .inProgress := by
  unfold startSync
  split
  · simpa [isSyncing] using ‹r.isSyncing = true›
  · rfl

@[simp] theorem members_startSync : r.startSync.members = r.members := by
  unfold startSync
  split <;> rfl

/-- The end of a sync drops whom it has not named, and nobody else. -/
theorem members_endSync (timestamp : Option Int) : (r.endSync timestamp).1.members.get? k =
    if k ∈ r.residual then none else r.members.get? k := Table.get?_eraseAll r.members r.residual k

/-! ## Consistent rosters -/

structure Consistent (r : Roster) : Prop where
  members_ordered : r.members.Ordered
  gone_ordered : r.gone.Ordered
  own_ordered : r.own.Ordered
  member : ∀ k p, r.members.get? k = some p → p.key = k ∧ p.action = .present
  gone : ∀ k p, r.gone.get? k = some p → p.key = k ∧ p.action.isHere = false
  own : ∀ id p, r.own.get? id = some p → p.clientId = id
  apart : ∀ k p, r.members.get? k = some p → r.gone.get? k = none
  residual_ordered : r.residual.Pairwise (· < ·)
  residual : ∀ k ∈ r.residual, ∃ p, r.members.get? k = some p
  calm : r.isSyncing = false → r.gone = ∅ ∧ r.residual = []

theorem consistent_fresh : Consistent {} where
  members_ordered := Table.ordered_empty
  gone_ordered := Table.ordered_empty
  own_ordered := Table.ordered_empty
  member := nofun
  gone := nofun
  own := nofun
  apart := nofun
  residual_ordered := List.Pairwise.nil
  residual := nofun
  calm _ := ⟨rfl, rfl⟩

theorem consistent_mark (h : r.Consistent) (k : MemberKey) : (r.mark k).Consistent := by
  unfold mark
  split
  · exact { h with
      residual_ordered := h.residual_ordered.filter _
      residual := fun k hk => h.residual k (List.mem_filter.mp hk).1
      calm := fun hcalm => nomatch hcalm.symm.trans ‹r.isSyncing = true› }
  · exact h

/-- No sync waits for a record that names its member. -/
def Named (r : Roster) (k : MemberKey) : Prop := ∀ k' ∈ r.residual, k' ≠ k

theorem named_mark (h : r.Consistent) (k : MemberKey) : (r.mark k).Named k := by
  intro k' hmem he
  unfold mark at hmem
  split at hmem
  · simpa [he] using (List.mem_filter.mp hmem).2
  · rename_i hs
    rw [(h.calm (by simpa using hs)).2] at hmem
    cases hmem

/-- Somebody is here. -/
theorem consistent_here (h : r.Consistent) (hnamed : r.Named p.key) : Consistent { r with
    members := r.members.put p.key p.asMember, gone := r.gone.erase p.key } where
  members_ordered := Table.ordered_put h.members_ordered _ _
  gone_ordered := Table.ordered_erase h.gone_ordered _
  own_ordered := h.own_ordered
  member k q hq := by
    rcases Table.of_get?_put hq with ⟨rfl, rfl⟩ | ⟨-, hq⟩
    · exact ⟨rfl, rfl⟩
    · exact h.member k q hq
  gone k q hq := h.gone k q (Table.of_get?_erase hq).2
  own := h.own
  apart k q hq := by
    rcases Table.of_get?_put hq with ⟨rfl, -⟩ | ⟨hne, hq⟩
    · exact Table.get?_erase_self _ _
    · exact (Table.get?_erase_ne _ hne).trans (h.apart k q hq)
  residual_ordered := h.residual_ordered
  residual k hmem := by
    rw [Table.get?_put_ne _ (hnamed k hmem)]
    exact h.residual k hmem
  calm hs := by
    obtain ⟨hg, hr⟩ := h.calm hs
    exact ⟨by rw [hg]; rfl, hr⟩

/-- Somebody is here no more, which a sync keeps in mind. -/
theorem consistent_gone (h : r.Consistent) (hnamed : r.Named p.key)
    (hgone : p.action.isHere = false) : Consistent { r with
      members := r.members.erase p.key
      gone := if r.isSyncing then r.gone.put p.key p else r.gone } where
  members_ordered := Table.ordered_erase h.members_ordered _
  gone_ordered := by
    split
    · exact Table.ordered_put h.gone_ordered _ _
    · exact h.gone_ordered
  own_ordered := h.own_ordered
  member k q hq := h.member k q (Table.of_get?_erase hq).2
  gone k q hq := by
    split at hq
    · rcases Table.of_get?_put hq with ⟨rfl, rfl⟩ | ⟨-, hq⟩
      · exact ⟨rfl, hgone⟩
      · exact h.gone k q hq
    · exact h.gone k q hq
  own := h.own
  apart k q hq := by
    obtain ⟨hne, hq⟩ := Table.of_get?_erase hq
    split
    · exact (Table.get?_put_ne _ hne _).trans (h.apart k q hq)
    · exact h.apart k q hq
  residual_ordered := h.residual_ordered
  residual k hmem := by
    rw [Table.get?_erase_ne _ (hnamed k hmem)]
    exact h.residual k hmem
  calm hs := by
    have hs' : r.isSyncing = false := hs
    rw [if_neg (by simp [hs'])]
    exact h.calm hs

theorem consistent_put (h : r.Consistent) (p : Presence) : (r.put p).1.Consistent := by
  have hmark := consistent_mark h p.key
  have hnamed := named_mark h p.key
  unfold put accept
  split
  · split
    · exact consistent_here hmark hnamed
    · exact consistent_gone hmark hnamed (Bool.eq_false_of_not_eq_true ‹_›)
  · exact hmark

/-- What this connection entered is no part of what is known of the members. -/
theorem consistent_trackOwn (h : r.Consistent) (p : Presence) : (r.trackOwn p).Consistent := by
  unfold trackOwn
  split
  · refine { h with own_ordered := Table.ordered_put h.own_ordered _ _, own := fun id q hq => ?_ }
    rcases Table.of_get?_put hq with ⟨rfl, rfl⟩ | ⟨-, hq⟩
    · rfl
    · exact h.own id q hq
  · exact { h with
      own_ordered := Table.ordered_erase h.own_ordered _
      own := fun id q hq => h.own id q (Table.of_get?_erase hq).2 }

theorem consistent_startSync (h : r.Consistent) : r.startSync.Consistent := by
  unfold startSync
  split
  · exact h
  · exact { h with
      gone_ordered := Table.ordered_empty
      gone := nofun
      apart := fun _ _ _ => rfl
      residual_ordered := List.pairwise_map.mpr h.members_ordered
      residual := fun k hk => Table.get?_of_mem_keys h.members_ordered hk
      calm := nofun }

theorem consistent_endSync (h : r.Consistent) (timestamp : Option Int) :
    (r.endSync timestamp).1.Consistent where
  members_ordered := Table.ordered_eraseAll h.members_ordered r.residual
  gone_ordered := Table.ordered_empty
  own_ordered := h.own_ordered
  member k q hq := by
    rw [members_endSync] at hq
    split at hq
    · cases hq
    · exact h.member k q hq
  gone := nofun
  own := h.own
  apart _ _ _ := rfl
  residual_ordered := List.Pairwise.nil
  residual := nofun
  calm _ := ⟨rfl, rfl⟩

theorem consistent_move (h : r.Consistent) (m : Move) : (r.move m).1.Consistent := by
  cases m with
  | put p => exact consistent_put h p
  | trackOwn p => exact consistent_trackOwn h p
  | startSync => exact consistent_startSync h
  | endSync timestamp => exact consistent_endSync h timestamp
  | setCursor cursor => exact { h with }
  | reset => exact consistent_fresh

theorem consistent_after (h : r.Consistent) (moves : List Move) : (r.after moves).Consistent :=
  after_keeps (P := Consistent) (fun _ m h => consistent_move h m) h moves

end Roster

end PresenceClient
