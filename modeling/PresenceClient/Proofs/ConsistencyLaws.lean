-- The law of consistent rosters. What every move keeps is all that a roster has to keep: one
-- that keeps it has a history, which is a list of moves that leads to it from the fresh roster.
-- So the rosters that can come about are just the consistent ones.
import Mathlib.Data.List.Sort
import PresenceClient.Proofs.NewestLaws
import PresenceClient.Proofs.PayloadForms

namespace PresenceClient

/-- A table whose values tell their keys is put together again from its values. -/
theorem Table.putAll_values {κ α : Type} [LT κ] [DecidableLT κ] [DecidableEq κ]
    [IsStrictTotalOrder κ (· < ·)] {t : Table κ α} {key : α → κ} (h : t.Ordered)
    (hkeys : ∀ k v, t.get? k = some v → key v = k) :
    (⟨Entries.putAll (t.values.map fun v => (key v, v)) []⟩ : Table κ α) = t := by
  have hentries : (t.values.map fun v => (key v, v)) = t.entries := by
    rw [values, List.map_map]
    refine (List.map_congr_left fun e he => ?_).trans (List.map_id t.entries)
    exact Prod.ext (hkeys e.1 e.2 (Entries.get?_of_mem h he)) rfl
  have hsame : Entries.putAll t.entries [] = [] ++ t.entries := Entries.putAll_ascending h
  rw [hentries, hsame]
  rfl

/-- Who is not here has left, or is absent. -/
theorem Presence.Action.isHere_eq_false_iff {a : Action} :
    a.isHere = false ↔ a = .leave ∨ a = .absent := by
  cases a <;> decide

namespace Roster

variable {r : Roster} {p q : Presence} {k : MemberKey} {ps : List Presence}

/-! ## What this connection entered -/

/-- Only what says that its client is here is noted. -/
def NotesEntered (r : Roster) : Prop := ∀ id p, r.own.get? id = some p → p.action.isHere = true

theorem notesEntered_fresh : NotesEntered {} := nofun

theorem notesEntered_move (h : r.NotesEntered) (m : Move) : (r.move m).1.NotesEntered := by
  cases m with
  | put p =>
    intro id q hq
    exact h id q (put_rest.2.1 ▸ hq)
  | trackOwn p =>
    intro id q hq
    change (r.trackOwn p).own.get? id = some q at hq
    unfold trackOwn at hq
    split at hq
    · rcases Table.of_get?_put hq with ⟨-, rfl⟩ | ⟨-, hq⟩
      · assumption
      · exact h id q hq
    · exact h id q (Table.of_get?_erase hq).2
  | startSync =>
    intro id q hq
    change r.startSync.own.get? id = some q at hq
    unfold startSync at hq
    split at hq <;> exact h id q hq
  | endSync timestamp => exact h
  | setCursor cursor => exact h
  | reset => exact notesEntered_fresh

theorem notesEntered_after (moves : List Move) : (after {} moves).NotesEntered :=
  after_keeps (P := NotesEntered) (fun _ m h => notesEntered_move h m) notesEntered_fresh moves

/-- What this connection enters is noted, and all else stays. -/
theorem after_noted (h : ∀ p ∈ ps, p.action.isHere = true) : r.after (ps.map .trackOwn) =
    { r with own := ⟨Entries.putAll (ps.map fun p => (p.clientId, p)) r.own.entries⟩ } := by
  induction ps generalizing r with
  | nil => rfl
  | cons p rest ih =>
    have hp : (r.move (.trackOwn p)).1 = { r with own := r.own.put p.clientId p } :=
      if_pos (h p List.mem_cons_self)
    rw [List.map_cons, after_cons, hp, ih fun q hq => h q (List.mem_cons_of_mem _ hq)]
    rfl

/-! ## Records of unknown members -/

/-- A record that is news is known from then on if it says that its member is here, or if a sync
goes on, which keeps in mind who left. -/
theorem known_put_of_lasting (h : p.action.isHere = true ∨ r.isSyncing = true) :
    (r.put p).1.known? k =
      if k = p.key ∧ r.isNews p = true then some p.kept else r.known? k := by
  rcases h with hhere | hsync
  · have hmark : (r.mark p.key).gone = r.gone := mark_rest.2.1
    have hgone : (r.put p).1.gone =
        if r.isNews p = true then r.gone.erase p.key else r.gone := by
      unfold put accept
      by_cases hnews : r.isNews p = true
      · simp [hnews, hhere, hmark]
      · simp [hnews, hmark]
    unfold known?
    rw [members_put, hgone, if_pos hhere, Presence.kept, if_pos hhere]
    by_cases hnews : r.isNews p = true
    · by_cases hk : k = p.key
      · simp [hnews, hk]
      · simp [hnews, hk, Table.get?_erase_ne _ hk]
    · simp [hnews]
  · exact known_put hsync

/-- Records of members of whom nothing was known are all known in the end. -/
theorem known_putAll_of_unknown (hps : ∀ p ∈ ps, p.action.isHere = true ∨ r.isSyncing = true)
    (hnone : ∀ p ∈ ps, r.known? p.key = none) (hapart : ps.Pairwise fun p q => p.key ≠ q.key) :
    (r.putAll ps).known? k = some q ↔
      (∃ p ∈ ps, p.key = k ∧ p.kept = q) ∨ r.known? k = some q := by
  induction ps generalizing r with
  | nil => simp [putAll]
  | cons p rest ih =>
    obtain ⟨hhead, htail⟩ := List.pairwise_cons.mp hapart
    have hp := hnone p List.mem_cons_self
    have hnews : r.isNews p = true := by rw [isNews, hp, Option.all_none]
    have hput : ∀ k, (r.put p).1.known? k = if k = p.key then some p.kept else r.known? k := by
      intro k
      rw [known_put_of_lasting (hps p List.mem_cons_self)]
      simp only [hnews, and_true]
    rw [putAll_cons, ih]
    · rw [hput]
      by_cases hk : k = p.key
      · -- Nothing was known of this member, so what is known is what the record says.
        subst hk
        simp [hp, or_comm]
      · simp [hk, Ne.symm hk]
    · exact fun q hq => (hps q (List.mem_cons_of_mem _ hq)).imp_right isSyncing_put.trans
    · intro q hq
      rw [hput, if_neg (hhead q hq).symm]
      exact hnone q (List.mem_cons_of_mem _ hq)
    · exact htail

/-! ## A history -/

/-- The records of those who are here and of those who have left. -/
def records (r : Roster) : List Presence := r.members.values ++ r.gone.values

/-- The records of those whom a sync waits for. They were here before it. -/
def awaited (r : Roster) : List Presence := r.records.filter fun p => decide (p.key ∈ r.residual)

/-- All other records. -/
def settled (r : Roster) : List Presence := r.records.filter fun p => decide (p.key ∉ r.residual)

/-- Moves from the fresh roster to a sync as it stands. -/
def Sync.moves : Sync → List Move
  | .notStarted => []
  | .inProgress => [.startSync]
  | .complete => [.startSync, .endSync none]

/-- Moves that lead to a roster: whom its sync waits for comes before the sync, all others come
after that. -/
def history (r : Roster) : List Move :=
  r.awaited.map .put ++ r.sync.moves ++ r.settled.map .put ++ r.own.values.map .trackOwn ++
    [.setCursor r.cursor]

/-- The roster just before its sync. -/
def beforeSync (r : Roster) : Roster := putAll {} r.awaited

/-- The roster when its sync has begun. -/
def begun (r : Roster) : Roster := { r.beforeSync with residual := r.residual, sync := r.sync }

theorem consistent_beforeSync (r : Roster) : r.beforeSync.Consistent :=
  consistent_after consistent_fresh _

theorem beforeSync_rest : r.beforeSync.own = ∅ ∧ r.beforeSync.sync = .notStarted ∧
    r.beforeSync.cursor = none := putAll_rest

theorem calm_beforeSync : r.beforeSync.isSyncing = false := by
  rw [isSyncing, beforeSync_rest.2.1]
  rfl

theorem known_begun : r.begun.known? k = r.beforeSync.known? k := rfl

theorem isSyncing_begun : r.begun.isSyncing = r.isSyncing := rfl

section History

variable (h : r.Consistent)
include h

/-- Outside a sync only those who are here are known. -/
theorem Consistent.known_of_calm (hs : r.isSyncing = false) : r.known? k = r.members.get? k := by
  rw [known?, (h.calm hs).1, Table.get?_empty]
  cases r.members.get? k <;> rfl

theorem Consistent.mem_records : p ∈ r.records ↔ r.known? p.key = some p := by
  rw [records, List.mem_append, Table.mem_values h.members_ordered fun k p hp => (h.member k p hp).1,
    Table.mem_values h.gone_ordered fun k p hp => (h.gone k p hp).1]
  constructor
  · rintro (hm | hg)
    · rw [known?, hm]
      rfl
    · cases hm : r.members.get? p.key with
      | some q => cases (h.apart _ q hm).symm.trans hg
      | none =>
        rw [known?, hm, hg]
        rfl
  · intro hk
    obtain ⟨-, -, hm, hg⟩ := h.known hk
    by_cases hhere : p.action.isHere = true
    · exact .inl (hm.trans (if_pos hhere))
    · exact .inr (hg.trans (if_neg hhere))

/-- What is known of a member is one of the records, and is kept as it is. -/
theorem Consistent.known_iff :
    r.known? k = some q ↔ ∃ p ∈ r.records, p.key = k ∧ p.kept = q := by
  constructor
  · intro hk
    obtain ⟨rfl, hkept, -⟩ := h.known hk
    exact ⟨q, h.mem_records.mpr hk, rfl, hkept⟩
  · rintro ⟨p, hp, rfl, rfl⟩
    have hk := h.mem_records.mp hp
    rwa [(h.known hk).2.1]

/-- There is one record of each member. -/
theorem Consistent.records_apart : r.records.Pairwise fun p q => p.key ≠ q.key := by
  have hne : ∀ {p q : Presence}, p.key < q.key → p.key ≠ q.key := fun hlt he =>
    irrefl_of (· < ·) _ (he ▸ hlt)
  have hmember : ∀ k p, r.members.get? k = some p → p.key = k := fun k p hp => (h.member k p hp).1
  have hgone : ∀ k p, r.gone.get? k = some p → p.key = k := fun k p hp => (h.gone k p hp).1
  refine List.pairwise_append.mpr ⟨?_, ?_, fun p hp q hq he => ?_⟩
  · exact (Table.values_ascending h.members_ordered hmember).imp hne
  · exact (Table.values_ascending h.gone_ordered hgone).imp hne
  · have hm := (Table.mem_values h.members_ordered hmember).mp hp
    have hg := (Table.mem_values h.gone_ordered hgone).mp hq
    cases (h.apart _ p hm).symm.trans (he ▸ hg)

theorem Consistent.isHere_awaited (hp : p ∈ r.awaited) : p.action.isHere = true := by
  obtain ⟨hrecord, hwaits⟩ := List.mem_filter.mp hp
  obtain ⟨q, hq⟩ := h.residual p.key (by simpa using hwaits)
  obtain ⟨-, -, hm, -⟩ := h.known (h.mem_records.mp hrecord)
  by_contra hnot
  rw [if_neg hnot, hq] at hm
  cases hm

theorem Consistent.isHere_of_calm (hs : r.isSyncing = false) (hp : p ∈ r.records) :
    p.action.isHere = true := by
  have hk := h.mem_records.mp hp
  rw [h.known_of_calm hs] at hk
  rw [(h.member p.key p hk).2]
  rfl

theorem Consistent.known_beforeSync : r.beforeSync.known? k = some q ↔
    ∃ p ∈ r.awaited, p.key = k ∧ p.kept = q := by
  rw [beforeSync, known_putAll_of_unknown (fun p hp => .inl (h.isHere_awaited hp))
    (fun _ _ => rfl) (h.records_apart.filter _)]
  exact or_iff_left nofun

/-- Just those whom the sync waits for were here before it. -/
theorem Consistent.keys_beforeSync : r.beforeSync.members.keys = r.residual := by
  have hs := consistent_beforeSync r
  refine List.Pairwise.eq_of_mem_iff (List.pairwise_map.mpr hs.members_ordered)
    h.residual_ordered fun k => ?_
  constructor
  · intro hk
    obtain ⟨q, hq⟩ := Table.get?_of_mem_keys hs.members_ordered hk
    rw [← hs.known_of_calm calm_beforeSync] at hq
    obtain ⟨p, hp, rfl, -⟩ := h.known_beforeSync.mp hq
    simpa using (List.mem_filter.mp hp).2
  · intro hk
    obtain ⟨p, hp⟩ := h.residual k hk
    obtain ⟨rfl, -⟩ := h.member k p hp
    have hrecord : p ∈ r.records := h.mem_records.mpr (by rw [known?, hp]; rfl)
    have hawaited : p ∈ r.awaited := List.mem_filter.mpr ⟨hrecord, by simpa using hk⟩
    have hknown := h.known_beforeSync.mpr ⟨p, hawaited, rfl, rfl⟩
    rw [hs.known_of_calm calm_beforeSync] at hknown
    exact Table.mem_keys_of_get? hknown

/-- The moves of the sync lead to where it has begun. -/
theorem Consistent.after_sync_moves : r.beforeSync.after r.sync.moves = r.begun := by
  -- Where no sync goes on, nobody is waited for, so nobody has to be here before it.
  have hnobody : r.isSyncing = false → r.residual = [] ∧ r.beforeSync = {} := by
    intro hcalm
    have hempty := (h.calm hcalm).2
    exact ⟨hempty, by simp [beforeSync, awaited, hempty, putAll]⟩
  unfold begun
  cases hsync : r.sync with
  | notStarted =>
    obtain ⟨hempty, hfresh⟩ := hnobody (by rw [isSyncing, hsync]; rfl)
    rw [hempty, hfresh]
    rfl
  | inProgress =>
    have hgone := ((consistent_beforeSync r).calm calm_beforeSync).1
    show r.beforeSync.startSync = _
    rw [startSync_of_not_syncing calm_beforeSync, h.keys_beforeSync]
    simp [hgone, beforeSync_rest]
  | complete =>
    obtain ⟨hempty, hfresh⟩ := hnobody (by rw [isSyncing, hsync]; rfl)
    rw [hempty, hfresh]
    rfl

/-- With the other records, all is known. -/
theorem Consistent.known_settled : (r.begun.putAll r.settled).known? k = r.known? k := by
  refine Option.ext fun q => ?_
  rw [known_putAll_of_unknown, h.known_iff, known_begun, h.known_beforeSync]
  · simp only [awaited, settled, List.mem_filter, decide_eq_true_eq]
    constructor
    · rintro (⟨p, ⟨hp, -⟩, hkey⟩ | ⟨p, ⟨hp, -⟩, hkey⟩) <;> exact ⟨p, hp, hkey⟩
    · rintro ⟨p, hp, hkey⟩
      by_cases hwaits : p.key ∈ r.residual
      · exact .inr ⟨p, ⟨hp, hwaits⟩, hkey⟩
      · exact .inl ⟨p, ⟨hp, hwaits⟩, hkey⟩
  · intro p hp
    rw [isSyncing_begun]
    cases hs : r.isSyncing with
    | true => exact .inr rfl
    | false => exact .inl (h.isHere_of_calm hs (List.mem_filter.mp hp).1)
  · -- Of those who are not waited for, nothing is known before the sync.
    intro p hp
    refine Option.eq_none_iff_forall_not_mem.mpr fun q hq => ?_
    obtain ⟨p', hp', hkey, -⟩ := h.known_beforeSync.mp hq
    have hwaits : p'.key ∈ r.residual := by simpa using (List.mem_filter.mp hp').2
    have hnot : p.key ∉ r.residual := by simpa using (List.mem_filter.mp hp).2
    exact hnot (hkey ▸ hwaits)
  · exact h.records_apart.filter _

/-- None of them was waited for. -/
theorem Consistent.residual_settled : (r.begun.putAll r.settled).residual = r.residual := by
  cases hs : r.isSyncing with
  | true =>
    rw [residual_putAll (r := r.begun) hs]
    refine List.filter_eq_self.mpr fun k hk => ?_
    have hnot : k ∉ r.settled.map Presence.key := by
      intro hmem
      obtain ⟨p, hp, rfl⟩ := List.mem_map.mp hmem
      have hnot : p.key ∉ r.residual := by simpa using (List.mem_filter.mp hp).2
      exact hnot hk
    simpa using hnot
  | false =>
    have hbegun : r.begun.Consistent :=
      h.after_sync_moves ▸ consistent_after (consistent_beforeSync r) r.sync.moves
    have hsettled : (r.begun.putAll r.settled).Consistent := consistent_after hbegun _
    rw [(h.calm hs).2, (hsettled.calm _).2]
    rwa [isSyncing, putAll_rest.2.1]

/-- A consistent roster that notes only what was entered comes about by its history. -/
theorem Consistent.after_history (hnotes : r.NotesEntered) : after {} r.history = r := by
  have hentered : ∀ p ∈ r.own.values, p.action.isHere = true := fun p hp =>
    hnotes _ p ((Table.mem_values h.own_ordered h.own).mp hp)
  obtain ⟨hown, hsync, -⟩ := @putAll_rest r.begun r.settled
  have hnone : (r.begun.putAll r.settled).own.entries = [] :=
    congrArg Table.entries (hown.trans beforeSync_rest.1)
  have hputs : after {} (r.awaited.map .put ++ r.sync.moves ++ r.settled.map .put) =
      r.begun.putAll r.settled := by
    rw [after_append, after_append, ← h.after_sync_moves]
    rfl
  have hfinal : after {} r.history =
      { r.begun.putAll r.settled with own := r.own, cursor := r.cursor } := by
    rw [history, after_append, after_append, hputs, after_noted hentered, hnone,
      Table.putAll_values h.own_ordered h.own]
    rfl
  rw [hfinal]
  refine eq_of_known ?_ h (fun k => h.known_settled) h.residual_settled rfl hsync rfl
  exact hfinal ▸ consistent_after consistent_fresh _

end History

/-! ## The law -/

/-- A roster can come about by moves if and only if it is in order. Each member stands under its
own key, as present, and whoever is gone stands under their own key, as one who left or is
absent. Nobody is both here and gone. Where no sync goes on, nobody is gone and nobody is waited
for; where one does, it waits for members only. What this connection entered stands under its
client. And all of this is listed in the order of the keys, each key once. -/
theorem a_roster_can_come_about_just_if_it_is_in_order (r : Roster) :
    (∃ moves, after {} moves = r) ↔
      (∀ e ∈ r.members.entries, e.2.key = e.1 ∧ e.2.action = .present) ∧
      (∀ e ∈ r.gone.entries, e.2.key = e.1 ∧ (e.2.action = .leave ∨ e.2.action = .absent)) ∧
      (∀ k ∈ r.members.keys, k ∉ r.gone.keys) ∧
      (r.sync ≠ .inProgress → r.gone = ∅ ∧ r.residual = []) ∧
      (∀ k ∈ r.residual, k ∈ r.members.keys) ∧
      (∀ e ∈ r.own.entries, e.2.clientId = e.1 ∧ e.2.action.isHere = true) ∧
      r.members.Ordered ∧ r.gone.Ordered ∧ r.own.Ordered ∧ r.residual.Pairwise (· < ·) := by
  constructor
  · rintro ⟨moves, rfl⟩
    have h : (after {} moves).Consistent := consistent_after consistent_fresh moves
    refine ⟨fun e he => ?_, fun e he => ?_, fun k hk hg => ?_, fun hs => ?_, fun k hk => ?_,
      fun e he => ?_, h.members_ordered, h.gone_ordered, h.own_ordered, h.residual_ordered⟩
    · exact h.member e.1 e.2 (Entries.get?_of_mem h.members_ordered he)
    · exact (h.gone e.1 e.2 (Entries.get?_of_mem h.gone_ordered he)).imp_right
        Presence.Action.isHere_eq_false_iff.mp
    · obtain ⟨p, hp⟩ := Table.get?_of_mem_keys h.members_ordered hk
      obtain ⟨q, hq⟩ := Table.get?_of_mem_keys h.gone_ordered hg
      cases (h.apart k p hp).symm.trans hq
    · exact h.calm (by simp [isSyncing, hs])
    · obtain ⟨p, hp⟩ := h.residual k hk
      exact Table.mem_keys_of_get? hp
    · have hget := Entries.get?_of_mem h.own_ordered he
      exact ⟨h.own e.1 e.2 hget, notesEntered_after moves e.1 e.2 hget⟩
  · rintro ⟨hmember, hgone, hapart, hcalm, hresidual, hown, hmembers, hgones, howns, hwaits⟩
    have h : r.Consistent :=
      { members_ordered := hmembers
        gone_ordered := hgones
        own_ordered := howns
        member := fun k p hp => hmember _ (Entries.mem_of_get? hp)
        gone := fun k p hp => (hgone _ (Entries.mem_of_get? hp)).imp_right
          Presence.Action.isHere_eq_false_iff.mpr
        own := fun id p hp => (hown _ (Entries.mem_of_get? hp)).1
        apart := fun k p hp => Option.eq_none_iff_forall_not_mem.mpr fun q hq =>
          hapart k (Table.mem_keys_of_get? hp) (Table.mem_keys_of_get? hq)
        residual_ordered := hwaits
        residual := fun k hk => Table.get?_of_mem_keys hmembers (hresidual k hk)
        calm := fun hs => hcalm (by simpa [isSyncing] using hs) }
    exact ⟨r.history, h.after_history fun id p hp => (hown _ (Entries.mem_of_get? hp)).2⟩

/-- Ann was here before a sync. It has named bob since, and cid, who left. -/
example :
    let record (id : String) (action : Presence.Action) : Presence :=
      ⟨none, action, id, "c", .null, none⟩
    let r := after {} [.put (record "ann" .enter), .startSync, .put (record "cid" .leave),
      .setCursor (some "s:1"), .put (record "bob" .update)]
    r.history = [.put (record "ann" .present), .startSync, .put (record "bob" .present),
      .put (record "cid" .leave), .setCursor (some "s:1")] := by
  decide

end Roster

end PresenceClient
