-- The law of replays. A record that comes again right behind itself leaves the roster as it was,
-- also where it is taken in once more: to name its member and to take it in are each the same
-- twice as once, and it makes no difference which of them comes first.
import Mathlib.Data.List.Destutter
import PresenceClient.Proofs.ConsistencyLaws
import PresenceClient.Proofs.NewnessLaws

namespace PresenceClient

@[simp] theorem Table.erase_erase {κ α : Type} [DecidableEq κ] (t : Table κ α) (k : κ) :
    (t.erase k).erase k = t.erase k := by
  simp [erase, Entries.erase]

/-- A record is news against itself unless it goes by its serial: equal times win, equal serials
do not. -/
theorem Presence.isNewerThan_self {p : Presence} : p.isNewerThan p = true ↔ ¬p.IsNumbered := by
  by_cases hn : p.IsNumbered
  · simp [isNewerThan_iff hn hn, not_isLater_self, hn]
  · simp [isNewerThan_time fun h : p.IsNumbered ∧ p.IsNumbered => hn h.1, hn]

namespace Roster

variable {r : Roster} {p : Presence} {k : MemberKey}

/-! ## The same record twice -/

@[simp] theorem mark_mark : (r.mark k).mark k = r.mark k := by
  unfold mark
  split
  · simp_all [isSyncing]
  · simp_all

@[simp] theorem accept_accept : (r.accept p).accept p = r.accept p := by
  unfold accept
  split
  · simp
  · by_cases hs : r.isSyncing = true
    · simp_all [isSyncing]
    · simp_all [isSyncing]

theorem accept_mark : (r.mark k).accept p = (r.accept p).mark k := by
  unfold accept mark
  by_cases hs : r.isSyncing = true
  · by_cases hhere : p.action.isHere = true <;> simp_all [isSyncing]
  · by_cases hhere : p.action.isHere = true <;> simp_all [isSyncing]

theorem isNews_mark : (r.mark k).isNews p = r.isNews p := by
  rw [isNews, known?, mark_rest.1, mark_rest.2.1]
  rfl

/-- What a record makes of any roster, consistent or not, it makes of it once. -/
theorem put_put : ((r.put p).1.put p).1 = (r.put p).1 := by
  -- Whether the second one is news or not, what it does has been done by the first one.
  by_cases hnews : r.isNews p = true
  · have honce : (r.put p).1 = (r.accept p).mark p.key := by
      rw [put, if_pos hnews, accept_mark]
    have hagain : ((r.accept p).mark p.key).mark p.key = (r.accept p).mark p.key := mark_mark
    rw [honce, put]
    split
    · rw [hagain, accept_mark, accept_accept]
    · exact hagain
  · have honce : (r.put p).1 = r.mark p.key := by rw [put, if_neg hnews]
    rw [honce, put, isNews_mark, if_neg hnews, mark_mark]

/-- The roster does not tell how often each record of a list came before the next one did. -/
theorem putAll_destutter (ps : List Presence) :
    r.putAll (ps.destutter (· ≠ ·)) = r.putAll ps := by
  cases ps with
  | nil => rfl
  | cons p rest =>
    rw [List.destutter_cons']
    induction rest generalizing r p with
    | nil => rfl
    | cons q rest ih =>
      by_cases hpq : p ≠ q
      · rw [List.destutter'_cons_pos (h := hpq), putAll_cons, ih, ← putAll_cons]
      · obtain rfl := not_not.mp hpq
        rw [List.destutter'_cons_neg (h := hpq), ih, putAll_cons, putAll_cons, putAll_cons, put_put]

/-- A record that was news is news once more if it goes by its time, for it is as late as what is
known then, or if nothing is known of its member then. -/
theorem isNews_put (h : r.Consistent) : (r.put p).1.isNews p = true ↔ r.isNews p = true ∧
    (p.IsNumbered → p.action.isHere = false ∧ r.isSyncing = false) := by
  by_cases hnews : r.isNews p = true
  · by_cases hlasts : p.action.isHere = true ∨ r.isSyncing = true
    · rw [isNews, known_put_of_lasting hlasts, if_pos ⟨rfl, hnews⟩, Option.all_some,
        Presence.isNewerThan_kept, Presence.isNewerThan_self]
      rcases hlasts with hhere | hsync
      · simp [hnews, hhere]
      · simp [hnews, hsync]
    · -- A leave outside a sync: its member is here no more, and it is not kept in mind either.
      obtain ⟨hhere, hsync⟩ : p.action.isHere = false ∧ r.isSyncing = false := by
        simpa using hlasts
      have hnone : (r.put p).1.known? p.key = none := by
        rw [(consistent_put h p).known_of_calm (isSyncing_put.trans hsync), members_put,
          if_pos ⟨rfl, hnews⟩, if_neg (by simp [hhere])]
      have hagain : (r.put p).1.isNews p = true := by rw [isNews, hnone, Option.all_none]
      exact ⟨fun _ => ⟨hnews, fun _ => ⟨hhere, hsync⟩⟩, fun _ => hagain⟩
  · rw [put, if_neg hnews, isNews_mark]
    simp [hnews]

/-! ## The law -/

/-- Wherever moves have brought a roster, during a sync or not: a record that comes again right
behind itself changes nothing, whoever made it and whatever it says. If it was told the first
time then it is told again, unless it goes by a serial; a leave outside a sync is told again in
any case, since nothing is kept of it. So a list of records leads to the same roster as the
list in which each comes once before the next one does. -/
theorem a_record_that_comes_again_changes_nothing (moves : List Move) (p : Presence) :
    let r := after {} moves
    let once := (r.put p).1
    once.put p = (once, if r.isNews p = true ∧
        (p.IsNumbered → p.action.isHere = false ∧ r.isSyncing = false) then some p else none) ∧
      ∀ ps, r.putAll (ps.destutter (· ≠ ·)) = r.putAll ps := by
  intro r once
  have hr : r.Consistent := consistent_after consistent_fresh moves
  have htold : (once.put p).2 = if once.isNews p = true then some p else none := by
    unfold put
    split <;> rfl
  simp only [isNews_put hr, once] at htold
  exact ⟨Prod.ext put_put htold, putAll_destutter⟩

/-- Of two equal updates during a sync, one by its time and one by its serial, the first is told
twice and the second once. -/
example :
    let r := after {} [.startSync]
    let byTime : Presence := ⟨none, .update, "ann", "c", .null, some 5⟩
    let bySerial : Presence := ⟨some "c:1:0", .update, "ann", "c", .null, some 5⟩
    r.reports [.put byTime, .put byTime] = [byTime, byTime] ∧
      r.reports [.put bySerial, .put bySerial] = [bySerial] := by
  decide

end Roster

end PresenceClient
