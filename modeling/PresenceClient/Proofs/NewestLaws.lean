-- The newest record counts. While a sync goes on, records that clients published are told
-- apart by their serials, so that neither the order in which they come nor how often they
-- come makes a difference to the roster.
import PresenceClient.Proofs.RosterMoves

namespace PresenceClient

/-! ## Published records -/

namespace Presence

/-- A client published the record, under a serial and an index that can be read. -/
def IsNumbered (p : Presence) : Prop := p.isSynthesized = false ∧ p.order?.isSome = true

instance (p : Presence) : Decidable p.IsNumbered :=
  inferInstanceAs (Decidable (p.isSynthesized = false ∧ p.order?.isSome = true))

/-- The serial and the index of a record. -/
def order (p : Presence) : Int × Int := p.order?.getD (0, 0)

/-- The record is the later one of the two, by its serial and then by its index. -/
def IsLater (p q : Presence) : Prop := orderAfter p.order q.order = true

variable {p q w : Presence}

theorem isLater_iff : p.IsLater q ↔
    q.order.1 < p.order.1 ∨ p.order.1 = q.order.1 ∧ q.order.2 < p.order.2 := by
  simp [IsLater, orderAfter]

theorem isLater_trans (h1 : p.IsLater q) (h2 : q.IsLater w) : p.IsLater w := by
  rw [isLater_iff] at *
  omega

/-- What is not later than a record is not later than any record after it. -/
theorem not_isLater_trans (h1 : ¬p.IsLater q) (h2 : w.IsLater q) : ¬p.IsLater w := by
  rw [isLater_iff] at *
  omega

theorem not_isLater_self (p : Presence) : ¬p.IsLater p := by
  rw [isLater_iff]
  omega

theorem order_eq_of_not_isLater (h1 : ¬p.IsLater q) (h2 : ¬q.IsLater p) : p.order = q.order := by
  rw [isLater_iff] at *
  exact Prod.ext (by omega) (by omega)

theorem order?_of_isNumbered (h : p.IsNumbered) : p.order? = some p.order := by
  obtain ⟨o, ho⟩ := Option.isSome_iff_exists.mp h.2
  rw [order, ho]
  rfl

/-- Published records go by their serials. -/
theorem isNewerThan_iff (hp : p.IsNumbered) (hq : q.IsNumbered) :
    p.isNewerThan q = true ↔ p.IsLater q := by
  simp [isNewerThan, hp.1, hq.1, order?_of_isNumbered hp, order?_of_isNumbered hq, IsLater]

/-- The record as the roster keeps it, among the members or among those who have left. -/
def kept (p : Presence) : Presence := if p.action.isHere then p.asMember else p

@[simp] theorem order_kept : p.kept.order = p.order := by
  unfold kept
  split <;> rfl

theorem isHere_kept : p.kept.action.isHere = p.action.isHere := by
  unfold kept
  split
  · exact Eq.symm ‹p.action.isHere = true›
  · rfl

theorem isNumbered_kept (h : p.IsNumbered) : p.kept.IsNumbered := by
  unfold kept
  split <;> exact h

@[simp] theorem kept_kept : p.kept.kept = p.kept := by
  unfold kept
  split <;> rfl

end Presence

namespace Roster

variable {r s : Roster} {p q w : Presence} {k : MemberKey} {ps qs : List Presence}

/-! ## What is known of a member -/

/-- A record that is news is what is known of its member from then on. -/
theorem known_put (hsync : r.isSyncing = true) : (r.put p).1.known? k =
    if k = p.key ∧ r.isNews p = true then some p.kept else r.known? k := by
  unfold known?
  rw [members_put, gone_put hsync, Presence.kept]
  split
  · split <;> rfl
  · rfl

/-- A member is here, and who is here no more is kept apart. -/
theorem Consistent.known (h : r.Consistent) (hk : r.known? k = some p) : p.key = k ∧
    p.kept = p ∧ r.members.get? k = (if p.action.isHere then some p else none) ∧
      r.gone.get? k = if p.action.isHere then none else some p := by
  unfold known? at hk
  cases hm : r.members.get? k with
  | some q =>
    rw [hm] at hk
    cases hk
    obtain ⟨hkey, hpresent⟩ := h.member k p hm
    have hhere : p.action.isHere = true := by rw [hpresent]; rfl
    have hkept : p.asMember = p := by rw [Presence.asMember, ← hpresent]
    exact ⟨hkey, by rw [Presence.kept, if_pos hhere, hkept], by rw [if_pos hhere],
      by rw [if_pos hhere, h.apart k p hm]⟩
  | none =>
    rw [hm] at hk
    obtain ⟨hkey, hgone⟩ := h.gone k p hk
    have hnot : ¬p.action.isHere = true := by simp [hgone]
    exact ⟨hkey, by rw [Presence.kept, if_neg hnot], by rw [if_neg hnot],
      by rw [if_neg hnot]; exact hk⟩

theorem of_known_none (hk : r.known? k = none) :
    r.members.get? k = none ∧ r.gone.get? k = none := by
  unfold known? at hk
  cases hm : r.members.get? k with
  | some q => simp [hm] at hk
  | none => exact ⟨rfl, by simpa [hm] using hk⟩

/-- Consistent rosters are told apart by what they know, by whom their sync waits for, and by
what stands beside the members. -/
theorem eq_of_known (hr : r.Consistent) (hs : s.Consistent)
    (hknown : ∀ k, r.known? k = s.known? k) (hresidual : r.residual = s.residual)
    (hown : r.own = s.own) (hsync : r.sync = s.sync) (hcursor : r.cursor = s.cursor) : r = s := by
  have hboth : ∀ k, r.members.get? k = s.members.get? k ∧ r.gone.get? k = s.gone.get? k := by
    intro k
    cases hk : r.known? k with
    | none =>
      obtain ⟨hm, hg⟩ := of_known_none hk
      obtain ⟨hm', hg'⟩ := of_known_none ((hknown k).symm.trans hk)
      exact ⟨hm.trans hm'.symm, hg.trans hg'.symm⟩
    | some p =>
      obtain ⟨-, -, hm, hg⟩ := hr.known hk
      obtain ⟨-, -, hm', hg'⟩ := hs.known ((hknown k).symm.trans hk)
      exact ⟨hm.trans hm'.symm, hg.trans hg'.symm⟩
  have hmembers := Table.eq_of_get? hr.members_ordered hs.members_ordered fun k => (hboth k).1
  have hgone := Table.eq_of_get? hr.gone_ordered hs.gone_ordered fun k => (hboth k).2
  cases r
  cases s
  simp_all

/-! ## Records in turn -/

/-- Take in some records. -/
def putAll (r : Roster) (ps : List Presence) : Roster := r.after (ps.map .put)

theorem putAll_cons : r.putAll (p :: ps) = (r.put p).1.putAll ps := rfl

theorem putAll_rest : (r.putAll ps).own = r.own ∧ (r.putAll ps).sync = r.sync ∧
    (r.putAll ps).cursor = r.cursor := by
  induction ps generalizing r with
  | nil => exact ⟨rfl, rfl, rfl⟩
  | cons p rest ih =>
    obtain ⟨-, hown, hsync, hcursor⟩ := @put_rest r p
    obtain ⟨ihown, ihsync, ihcursor⟩ := @ih (r.put p).1
    exact ⟨ihown.trans hown, ihsync.trans hsync, ihcursor.trans hcursor⟩

/-- A sync does not wait for those whom the records name. -/
theorem residual_putAll (hsync : r.isSyncing = true) : (r.putAll ps).residual =
    r.residual.filter fun k => !decide (k ∈ ps.map Presence.key) := by
  induction ps generalizing r with
  | nil => simp [putAll]
  | cons p rest ih =>
    rw [putAll_cons, ih (isSyncing_put.trans hsync), residual_put hsync, List.filter_filter]
    congr 1
    funext k
    by_cases hk : k = p.key <;> simp [hk]

/-- The record that counts for a member, given what is known and what comes: none that comes
is later, and it is known already, or it comes and is later than what is known. -/
structure Decides (r : Roster) (ps : List Presence) (k : MemberKey) (w : Presence) : Prop where
  candidate : r.known? k = some w ∨
    w ∈ ps ∧ w.key = k ∧ ∀ q, r.known? k = some q → w.IsLater q
  greatest : ∀ p ∈ ps, p.key = k → ¬p.IsLater w

/-- All that is known was published under readable serials. -/
def Numbered (r : Roster) : Prop := ∀ k p, r.known? k = some p → p.IsNumbered

theorem numbered_put (hsync : r.isSyncing = true) (h : r.Numbered) (hp : p.IsNumbered) :
    (r.put p).1.Numbered := by
  intro k q hq
  rw [known_put hsync] at hq
  split at hq
  · cases hq
    exact Presence.isNumbered_kept hp
  · exact h k q hq

theorem isNews_iff (h : r.Numbered) (hp : p.IsNumbered) :
    r.isNews p = true ↔ ∀ q, r.known? p.key = some q → p.IsLater q := by
  unfold isNews
  cases hk : r.known? p.key with
  | none => simp
  | some q => simp [Presence.isNewerThan_iff hp (h p.key q hk)]

/-- What is known of a member after some records is the record that counts for it. -/
theorem decides_of_known (h : r.Consistent) (hsync : r.isSyncing = true) (hr : r.Numbered)
    (hps : ∀ p ∈ ps, p.IsNumbered) (hk : (r.putAll ps).known? k = some q) :
    ∃ w, r.Decides ps k w ∧ w.kept = q := by
  induction ps generalizing r with
  | nil => exact ⟨q, ⟨.inl hk, nofun⟩, (h.known hk).2.1⟩
  | cons p rest ih =>
    have hp : p.IsNumbered := hps p List.mem_cons_self
    obtain ⟨w, ⟨hcandidate, hgreatest⟩, hkept⟩ := ih (consistent_put h p)
      (isSyncing_put.trans hsync) (numbered_put hsync hr hp)
      (fun p hp => hps p (List.mem_cons_of_mem _ hp)) hk
    rw [known_put hsync] at hcandidate
    by_cases hmine : k = p.key ∧ r.isNews p = true
    · obtain ⟨rfl, hnews⟩ := hmine
      have hlater := (isNews_iff hr hp).mp hnews
      rw [if_pos ⟨rfl, hnews⟩] at hcandidate
      rcases hcandidate with he | ⟨hmem, hkey, hw⟩
      · -- The first record is the one that counts.
        cases he
        refine ⟨p, ⟨.inr ⟨List.mem_cons_self, rfl, hlater⟩, fun p' hp' hk' => ?_⟩, ?_⟩
        · rcases List.mem_cons.mp hp' with rfl | hp'
          · exact Presence.not_isLater_self _
          · have hnot := hgreatest p' hp' hk'
            rwa [Presence.IsLater, Presence.order_kept] at hnot
        · rw [← hkept, Presence.kept_kept]
      · have hw' : w.IsLater p := by
          have hlast := hw _ rfl
          rwa [Presence.IsLater, Presence.order_kept] at hlast
        refine ⟨w, ⟨.inr ⟨List.mem_cons_of_mem _ hmem, hkey,
          fun q hq => Presence.isLater_trans hw' (hlater q hq)⟩, fun p' hp' hk' => ?_⟩, hkept⟩
        rcases List.mem_cons.mp hp' with rfl | hp'
        · exact Presence.not_isLater_trans (Presence.not_isLater_self _) hw'
        · exact hgreatest p' hp' hk'
    · rw [if_neg hmine] at hcandidate
      refine ⟨w, ⟨hcandidate.imp_right fun ⟨hmem, hw⟩ => ⟨List.mem_cons_of_mem _ hmem, hw⟩,
        fun p' hp' hk' => ?_⟩, hkept⟩
      rcases List.mem_cons.mp hp' with rfl | hp'
      · -- The first record is no news, so it is not later than what counts.
        subst hk'
        rw [isNews_iff hr hp] at hmine
        simp only [true_and, not_forall] at hmine
        obtain ⟨q', hq', hnot⟩ := hmine
        rcases hcandidate with he | ⟨-, -, hw⟩
        · cases he.symm.trans hq'
          exact hnot
        · exact Presence.not_isLater_trans hnot (hw q' hq')
      · exact hgreatest p' hp' hk'

/-- Nothing is known of a member that was not known and that no record names. -/
theorem unknown_of_putAll (hsync : r.isSyncing = true) (hk : (r.putAll ps).known? k = none) :
    r.known? k = none ∧ ∀ p ∈ ps, p.key ≠ k := by
  induction ps generalizing r with
  | nil => exact ⟨hk, nofun⟩
  | cons p rest ih =>
    obtain ⟨hnone, hrest⟩ := ih (isSyncing_put.trans hsync) hk
    rw [known_put hsync] at hnone
    split at hnone
    · cases hnone
    · rename_i hmine
      refine ⟨hnone, fun p' hp' => ?_⟩
      rcases List.mem_cons.mp hp' with rfl | hp'
      · rintro rfl
        exact hmine ⟨rfl, by simp [isNews, hnone]⟩
      · exact hrest p' hp'

/-- Which record counts depends on the records alone, and not on how they come. -/
theorem Decides.same (hsame : ∀ p, p ∈ qs ↔ p ∈ ps) (h : r.Decides qs k w) : r.Decides ps k w :=
  ⟨h.candidate.imp_right fun ⟨hmem, hw⟩ => ⟨(hsame w).mp hmem, hw⟩,
    fun p hp => h.greatest p ((hsame p).mpr hp)⟩

/-- One record counts for a member. -/
theorem Decides.unique {v : Presence}
    (hone : ∀ p ∈ ps, ∀ q ∈ ps, p.key = q.key → p.order = q.order → p = q)
    (hv : r.Decides ps k v) (hw : r.Decides ps k w) : v = w := by
  rcases hv.candidate with hv' | ⟨hvmem, hvkey, hvlater⟩
  · rcases hw.candidate with hw' | ⟨hwmem, hwkey, hwlater⟩
    · exact Option.some.inj (hv'.symm.trans hw')
    · exact absurd (hwlater v hv') (hv.greatest w hwmem hwkey)
  · rcases hw.candidate with hw' | ⟨hwmem, hwkey, hwlater⟩
    · exact absurd (hvlater w hw') (hw.greatest v hvmem hvkey)
    · exact hone v hvmem w hwmem (hvkey.trans hwkey.symm)
        (Presence.order_eq_of_not_isLater (hw.greatest v hvmem hvkey) (hv.greatest w hwmem hwkey))

/-- What is known after some records is known after them in any order. -/
theorem known_same (h : r.Consistent) (hsync : r.isSyncing = true) (hr : r.Numbered)
    (hps : ∀ p ∈ ps, p.IsNumbered)
    (hone : ∀ p ∈ ps, ∀ q ∈ ps, p.key = q.key → p.order = q.order → p = q)
    (hsame : ∀ p, p ∈ qs ↔ p ∈ ps) (hq : (r.putAll qs).known? k = some q) :
    (r.putAll ps).known? k = some q := by
  obtain ⟨w, hw, rfl⟩ := decides_of_known h hsync hr (fun p hp => hps p ((hsame p).mp hp)) hq
  replace hw := hw.same hsame
  cases hp : (r.putAll ps).known? k with
  | none =>
    obtain ⟨hnone, hno⟩ := unknown_of_putAll hsync hp
    rcases hw.candidate with hw' | ⟨hmem, hkey, -⟩
    · cases hnone.symm.trans hw'
    · exact absurd hkey (hno w hmem)
  | some q' =>
    obtain ⟨v, hv, rfl⟩ := decides_of_known h hsync hr hps hp
    rw [hv.unique hone hw]

/-- Rosters that took in the same records are told apart by what they know. -/
theorem putAll_eq_of_known (h : r.Consistent) (hsync : r.isSyncing = true)
    (hsame : ∀ p, p ∈ qs ↔ p ∈ ps) (hknown : ∀ k, (r.putAll qs).known? k = (r.putAll ps).known? k) :
    r.putAll qs = r.putAll ps := by
  obtain ⟨hown, hsync1, hcursor⟩ := @putAll_rest r qs
  obtain ⟨hown', hsync2, hcursor'⟩ := @putAll_rest r ps
  have hresidual : (r.putAll qs).residual = (r.putAll ps).residual := by
    have hnames : ∀ k, k ∈ qs.map Presence.key ↔ k ∈ ps.map Presence.key := fun k => by
      simp only [List.mem_map, hsame]
    rw [residual_putAll hsync, residual_putAll hsync]
    simp only [hnames]
  exact eq_of_known (consistent_after h _) (consistent_after h _) hknown hresidual
    (hown.trans hown'.symm) (hsync1.trans hsync2.symm) (hcursor.trans hcursor'.symm)

/-- Records in any order, with any repetitions, give one roster. -/
theorem putAll_same (h : r.Consistent) (hsync : r.isSyncing = true) (hr : r.Numbered)
    (hps : ∀ p ∈ ps, p.IsNumbered)
    (hone : ∀ p ∈ ps, ∀ q ∈ ps, p.key = q.key → p.order = q.order → p = q)
    (hsame : ∀ p, p ∈ qs ↔ p ∈ ps) : r.putAll qs = r.putAll ps := by
  refine putAll_eq_of_known h hsync hsame fun k => Option.ext fun q => ?_
  refine ⟨known_same h hsync hr hps hone hsame, ?_⟩
  refine known_same h hsync hr (fun p hp => hps p ((hsame p).mp hp)) ?_ fun p => (hsame p).symm
  exact fun p hp q hq => hone p ((hsame p).mp hp) q ((hsame q).mp hq)

/-- The record that counts puts its member here, or makes it gone. -/
theorem Consistent.of_known_kept (h : r.Consistent) (hk : r.known? k = some w.kept) :
    r.members.get? k = (if w.action.isHere then some w.asMember else none) ∧
      r.gone.get? k = if w.action.isHere then none else some w := by
  obtain ⟨-, -, hm, hg⟩ := h.known hk
  rw [Presence.isHere_kept] at hm hg
  rw [hm, hg, Presence.kept]
  split <;> exact ⟨rfl, rfl⟩

/-- Records that bring no news to a roster that does not wait for them change nothing. -/
theorem putAll_stale (h : ∀ p ∈ ps, r.put p = (r, none)) :
    r.putAll ps = r ∧ r.reports (ps.map .put) = [] := by
  induction ps with
  | nil => exact ⟨rfl, rfl⟩
  | cons p rest ih =>
    obtain ⟨h1, h2⟩ := ih fun p hp => h p (List.mem_cons_of_mem _ hp)
    have hp := h p List.mem_cons_self
    rw [putAll_cons, List.map_cons, reports, move, hp]
    exact ⟨h1, h2⟩

/-- A record that was taken in brings no news, and no sync waits for its member. -/
theorem put_stale (h : r.Consistent) (hsync : r.isSyncing = true) (hr : r.Numbered)
    (hps : ∀ p ∈ ps, p.IsNumbered) (hp : p ∈ ps) : (r.putAll ps).put p = (r.putAll ps, none) := by
  have hsync' : (r.putAll ps).isSyncing = true := by
    rwa [isSyncing, putAll_rest.2.1]
  have hstale : ¬(r.putAll ps).isNews p = true := by
    intro hnews
    cases hk : (r.putAll ps).known? p.key with
    | none => exact (unknown_of_putAll hsync hk).2 p hp rfl
    | some q =>
      obtain ⟨w, hw, rfl⟩ := decides_of_known h hsync hr hps hk
      have hwnum : w.IsNumbered := hw.candidate.elim (hr _ w) fun hmem => hps w hmem.1
      apply hw.greatest p hp rfl
      rw [isNews, hk, Option.all_some,
        Presence.isNewerThan_iff (hps p hp) (Presence.isNumbered_kept hwnum)] at hnews
      rwa [Presence.IsLater, Presence.order_kept] at hnews
  have hmark : (r.putAll ps).mark p.key = r.putAll ps := by
    rw [mark, if_pos hsync']
    have hfilter : ((r.putAll ps).residual.filter fun k => !decide (k = p.key)) =
        (r.putAll ps).residual := by
      rw [residual_putAll hsync, List.filter_eq_self]
      intro k hk
      have hne := (List.mem_filter.mp hk).2
      simp only [Bool.not_eq_eq_eq_not, Bool.not_true, decide_eq_false_iff_not] at hne ⊢
      rintro rfl
      exact hne (List.mem_map_of_mem hp)
    rw [hfilter]
  rw [put, if_neg hstale, hmark]

/-! ## The law -/

/-- Whatever has come about so far, records that clients published give one roster while a sync
goes on: in any order, with any repetitions. For each member the greatest serial and index
counts, of what was known and of what comes: it puts the member here or makes it gone. The
sync waits for nobody that was named, and the same records once more bring no news and change
nothing. -/
theorem the_newest_record_counts_in_any_order (moves : List Move) (ps qs : List Presence)
    (hsync : (after {} moves).isSyncing = true)
    (hknown : ∀ k p, (after {} moves).members.get? k = some p ∨
      (after {} moves).gone.get? k = some p → p.IsNumbered)
    (hps : ∀ p ∈ ps, p.IsNumbered)
    (hone : ∀ p ∈ ps, ∀ q ∈ ps, p.key = q.key → p.order? = q.order? → p = q)
    (hsame : ∀ p, p ∈ qs ↔ p ∈ ps) :
    let r := after {} moves
    let r' := r.putAll ps
    r.putAll qs = r' ∧
      (∀ k, (∃ w, r.Decides ps k w ∧
          r'.members.get? k = (if w.action.isHere then some w.asMember else none) ∧
          r'.gone.get? k = if w.action.isHere then none else some w) ∨
        (r.known? k = none ∧ (∀ p ∈ ps, p.key ≠ k) ∧
          r'.members.get? k = none ∧ r'.gone.get? k = none)) ∧
      r'.residual = (r.residual.filter fun k => !decide (k ∈ ps.map Presence.key)) ∧
      r'.putAll qs = r' ∧ r'.reports (qs.map .put) = [] := by
  intro r r'
  have hr : r.Consistent := consistent_after consistent_fresh moves
  have hnumbered : r.Numbered := by
    intro k p hp
    obtain ⟨-, -, hm, hg⟩ := hr.known hp
    apply hknown k p
    split at hm
    · exact .inl hm
    · exact .inr (hg.trans (if_neg ‹_›))
  have hone' : ∀ p ∈ ps, ∀ q ∈ ps, p.key = q.key → p.order = q.order → p = q := by
    intro p hp q hq hkey horder
    apply hone p hp q hq hkey
    rw [Presence.order?_of_isNumbered (hps p hp), Presence.order?_of_isNumbered (hps q hq), horder]
  refine ⟨putAll_same hr hsync hnumbered hps hone' hsame, fun k => ?_, residual_putAll hsync,
    putAll_stale fun p hp => put_stale hr hsync hnumbered hps ((hsame p).mp hp)⟩
  have hr' : r'.Consistent := consistent_after hr _
  cases hk : r'.known? k with
  | none =>
    obtain ⟨hnone, hno⟩ := unknown_of_putAll hsync hk
    exact .inr ⟨hnone, hno, of_known_none hk⟩
  | some q =>
    obtain ⟨w, hw, rfl⟩ := decides_of_known hr hsync hnumbered hps hk
    exact .inl ⟨w, hw, hr'.of_known_kept hk⟩

/-- Ann was here before the sync, and the sync brings three records of her, one of them twice.
The greatest serial and index is the one of her leave. -/
theorem the_last_leave_counts_in_any_order :
    let entered : Presence := ⟨some "c:1:0", .enter, "ann", "c", .null, none⟩
    let updated : Presence := ⟨some "c:2:9", .update, "ann", "c", .null, none⟩
    let left : Presence := ⟨some "c:10:0", .leave, "ann", "c", .null, none⟩
    let r := after {} [.put entered, .startSync]
    r.putAll [left, entered, updated, left] = r.putAll [entered, updated, left] ∧
      (r.putAll [entered, updated, left]).members.get? left.key = none ∧
      (r.putAll [entered, updated, left]).gone.get? left.key = some left := by
  intro entered updated left r
  have hknown : ∀ k p, r.members.get? k = some p ∨ r.gone.get? k = some p → p.IsNumbered := by
    rintro k p (h | h)
    · have hmem : (k, p) ∈ [(entered.key, entered.asMember)] := Entries.mem_of_get? h
      obtain ⟨-, rfl⟩ := Prod.mk.inj (List.mem_singleton.mp hmem)
      decide
    · cases h
  have hlaw := the_newest_record_counts_in_any_order [.put entered, .startSync]
    [entered, updated, left] [left, entered, updated, left] (by decide) hknown (by decide)
    (by decide) (by simp)
  exact ⟨hlaw.1, by decide, by decide⟩

end Roster

end PresenceClient
