-- When newness goes round in a circle. Two published records go by their serials and all else
-- goes by time, so three records are each newer than the next exactly where the time of one
-- lies between the times of two whose serials say the opposite.
import Mathlib.Data.List.Pairwise
import Mathlib.Data.List.Perm.Subperm
import PresenceClient.Proofs.NewestLaws

namespace PresenceClient

/-! ## Serials and times -/

namespace Presence

/-- The time by which a record is compared. A record without one counts as the oldest. -/
def time (p : Presence) : Int := p.timestamp.getD 0

/-- Neither the times of two records nor their serials are alike. -/
def Distinct (p q : Presence) : Prop :=
  p.time ≠ q.time ∧ (p.IsNumbered ∧ q.IsNumbered → p.order ≠ q.order)

instance (p q : Presence) : Decidable (p.Distinct q) :=
  inferInstanceAs (Decidable (p.time ≠ q.time ∧ (p.IsNumbered ∧ q.IsNumbered → p.order ≠ q.order)))

/-- By their serials the first record is later than the second. By time it is not, and a record
that has no serial to go by lies between them. -/
def Clash (p q w : Presence) : Prop :=
  (p.IsNumbered ∧ q.IsNumbered ∧ p.IsLater q) ∧
    ¬w.IsNumbered ∧ p.time ≤ w.time ∧ w.time ≤ q.time

instance (p q w : Presence) : Decidable (p.Clash q w) :=
  have : Decidable (p.IsLater q) := inferInstanceAs (Decidable (_ = true))
  inferInstanceAs (Decidable ((p.IsNumbered ∧ q.IsNumbered ∧ p.IsLater q) ∧
    ¬w.IsNumbered ∧ p.time ≤ w.time ∧ w.time ≤ q.time))

/-- Three of the records clash. -/
def Clashing (ps : List Presence) : Prop := ∃ p ∈ ps, ∃ q ∈ ps, ∃ w ∈ ps, p.Clash q w

instance (ps : List Presence) : Decidable (Clashing ps) :=
  inferInstanceAs (Decidable (∃ p ∈ ps, ∃ q ∈ ps, ∃ w ∈ ps, p.Clash q w))

variable {p q w a b c : Presence} {ps : List Presence}

instance : Std.Symm Distinct where
  symm _ _ h := ⟨h.1.symm, fun hn => (h.2 hn.symm).symm⟩

/-- Where a serial is missing, the later or equal time wins. -/
theorem isNewerThan_time (h : ¬(p.IsNumbered ∧ q.IsNumbered)) :
    p.isNewerThan q = true ↔ q.time ≤ p.time := by
  unfold isNewerThan
  split
  · exact decide_eq_true_iff
  · rename_i hmade
    obtain ⟨hp, hq⟩ : p.isSynthesized = false ∧ q.isSynthesized = false := by
      simpa using hmade
    split
    · rename_i o o' ho ho'
      exact absurd ⟨⟨hp, by simp [ho]⟩, ⟨hq, by simp [ho']⟩⟩ h
    · exact decide_eq_true_iff

/-- A record is newer than another by its serial, or else by its time. -/
theorem isNewerThan_cases (h : p.isNewerThan q = true) :
    (p.IsNumbered ∧ q.IsNumbered ∧ p.IsLater q) ∨
      ¬(p.IsNumbered ∧ q.IsNumbered) ∧ q.time ≤ p.time := by
  by_cases hn : p.IsNumbered ∧ q.IsNumbered
  · exact .inl ⟨hn.1, hn.2, (isNewerThan_iff hn.1 hn.2).mp h⟩
  · exact .inr ⟨hn, (isNewerThan_time hn).mp h⟩

/-- Of two distinct records one is the newer. -/
theorem Distinct.isNewerThan_iff_not (h : p.Distinct q) :
    p.isNewerThan q = true ↔ ¬q.isNewerThan p = true := by
  by_cases hn : p.IsNumbered ∧ q.IsNumbered
  · rw [isNewerThan_iff hn.1 hn.2, isNewerThan_iff hn.2 hn.1]
    refine ⟨fun h1 h2 => not_isLater_self p (isLater_trans h1 h2), fun h1 => ?_⟩
    by_contra h2
    exact h.2 hn (order_eq_of_not_isLater h2 h1)
  · rw [isNewerThan_time hn, isNewerThan_time fun hn' => hn hn'.symm]
    have hne := h.1
    omega

/-- How a record is kept makes no difference to how new it is. -/
@[simp] theorem isNewerThan_kept : p.isNewerThan q.kept = p.isNewerThan q := by
  unfold kept
  split <;> rfl

@[simp] theorem time_kept : p.kept.time = p.time := by
  unfold kept
  split <;> rfl

/-- Three timestamps, one of which may be missing, are not all one time. -/
theorem not_of_one_time (h : [a, b, c].Pairwise fun p q => p.timestamp ≠ q.timestamp) :
    ¬(a.time = b.time ∧ b.time = c.time) := by
  have hcases : ∀ p : Presence, p.timestamp = none ∨ p.timestamp = some p.time := by
    intro p
    rw [time]
    cases p.timestamp <;> simp
  rintro ⟨hab, hbc⟩
  simp only [List.pairwise_cons, List.mem_cons, List.not_mem_nil, or_false] at h
  grind

/-! ## Circles -/

/-- Records that clash are each newer than the next. -/
theorem Clash.goes_round (h : p.Clash q w) :
    p.isNewerThan q = true ∧ q.isNewerThan w = true ∧ w.isNewerThan p = true := by
  obtain ⟨⟨hp, hq, hlater⟩, hw, hafter, hbefore⟩ := h
  exact ⟨(isNewerThan_iff hp hq).mpr hlater, (isNewerThan_time fun hn => hw hn.2).mpr hbefore,
    (isNewerThan_time fun hn => hw hn.1).mpr hafter⟩

/-- Records that are each newer than the next, and not all of one time, clash. -/
theorem clash_of_goes_round (htimes : ¬(a.time = b.time ∧ b.time = c.time))
    (hab : a.isNewerThan b = true) (hbc : b.isNewerThan c = true) (hca : c.isNewerThan a = true) :
    a.Clash b c ∨ b.Clash c a ∨ c.Clash a b := by
  -- One step by serials makes the two others go by time. More of them make the third go by
  -- serials too, and serials do not go round.
  rcases isNewerThan_cases hab with ⟨ha, hb, hab⟩ | ⟨nab, hab⟩
  · rcases isNewerThan_cases hbc with ⟨-, hc, hbc⟩ | ⟨nbc, hbc⟩
    · have hca := (isNewerThan_iff hc ha).mp hca
      exact absurd (isLater_trans (isLater_trans hab hbc) hca) (not_isLater_self a)
    · have nc : ¬c.IsNumbered := fun hc => nbc ⟨hb, hc⟩
      exact .inl ⟨⟨ha, hb, hab⟩, nc, (isNewerThan_time fun hn => nc hn.1).mp hca, hbc⟩
  · rcases isNewerThan_cases hbc with ⟨hb, hc, hbc⟩ | ⟨nbc, hbc⟩
    · have na : ¬a.IsNumbered := fun ha => nab ⟨ha, hb⟩
      exact .inr (.inl ⟨⟨hb, hc, hbc⟩, na, hab, (isNewerThan_time fun hn => na hn.2).mp hca⟩)
    · rcases isNewerThan_cases hca with ⟨hc, ha, hca⟩ | ⟨-, hca⟩
      · exact .inr (.inr ⟨⟨hc, ha, hca⟩, fun hb => nab ⟨ha, hb⟩, hbc, hab⟩)
      · omega

theorem Clash.ne (h : p.Clash q w) : p ≠ q ∧ q ≠ w ∧ w ≠ p := by
  obtain ⟨⟨hp, hq, hlater⟩, hw, -⟩ := h
  refine ⟨?_, ?_, ?_⟩
  · rintro rfl
    exact not_isLater_self p hlater
  · rintro rfl
    exact hw hq
  · rintro rfl
    exact hw hp

/-- Records that clash go round one way only, unless they are of one time. -/
theorem Clash.one_way (h : p.Clash q w) : ¬q.isNewerThan p = true ∧
    (p.isNewerThan w = true → w.isNewerThan q = true → p.time = w.time ∧ w.time = q.time) := by
  obtain ⟨⟨hp, hq, hlater⟩, hw, hafter, hbefore⟩ := h
  constructor
  · rw [isNewerThan_iff hq hp]
    exact fun hback => not_isLater_self p (isLater_trans hlater hback)
  · rw [isNewerThan_time fun hn => hw hn.2, isNewerThan_time fun hn => hw hn.1]
    intro hpw hwq
    omega

/-- Three different ones of three are all three, one way round or the other. -/
theorem one_way_or_other (hp : p ∈ [a, b, c]) (hq : q ∈ [a, b, c]) (hw : w ∈ [a, b, c])
    (hpq : p ≠ q) (hqw : q ≠ w) (hwp : w ≠ p) :
    ((p = a ∧ q = b ∧ w = c) ∨ (p = b ∧ q = c ∧ w = a) ∨ (p = c ∧ q = a ∧ w = b)) ∨
      (p = a ∧ q = c ∧ w = b) ∨ (p = b ∧ q = a ∧ w = c) ∨ (p = c ∧ q = b ∧ w = a) := by
  simp only [List.mem_cons, List.not_mem_nil, or_false] at hp hq hw
  grind

/-- Three records go round in a circle exactly where they clash. -/
theorem goes_round_iff (htimes : ¬(a.time = b.time ∧ b.time = c.time))
    (hab : a.isNewerThan b = true) (hbc : b.isNewerThan c = true) :
    c.isNewerThan a = true ↔ Clashing [a, b, c] := by
  constructor
  · intro hca
    rcases clash_of_goes_round htimes hab hbc hca with h | h | h
    · exact ⟨a, by simp, b, by simp, c, by simp, h⟩
    · exact ⟨b, by simp, c, by simp, a, by simp, h⟩
    · exact ⟨c, by simp, a, by simp, b, by simp, h⟩
  · rintro ⟨p, hp, q, hq, w, hw, h⟩
    obtain ⟨hpq, hqw, hwp⟩ := h.ne
    rcases one_way_or_other hp hq hw hpq hqw hwp with hsame | hother
    · obtain ⟨h1, h2, h3⟩ := h.goes_round
      rcases hsame with ⟨rfl, rfl, rfl⟩ | ⟨rfl, rfl, rfl⟩ | ⟨rfl, rfl, rfl⟩
      · exact h3
      · exact h2
      · exact h1
    · -- The other way round, one of the two steps that are given goes against the clash.
      obtain ⟨hback, hall⟩ := h.one_way
      rcases hother with ⟨rfl, rfl, rfl⟩ | ⟨rfl, rfl, rfl⟩ | ⟨rfl, rfl, rfl⟩
      · exact absurd (hall hab hbc) htimes
      · exact absurd hab hback
      · exact absurd hbc hback

/-! ## The newest of all -/

/-- A record is newer than all others of a list, and none of them is newer than it. -/
structure Prevails (w : Presence) (ps : List Presence) : Prop where
  mem : w ∈ ps
  newest : ∀ p ∈ ps, p = w ∨ w.isNewerThan p = true ∧ ¬p.isNewerThan w = true

theorem Clashing.mono {qs : List Presence} (hsub : ps ⊆ qs) (h : Clashing ps) : Clashing qs := by
  obtain ⟨p, hp, q, hq, w, hw, h⟩ := h
  exact ⟨p, hsub hp, q, hsub hq, w, hsub hw, h⟩

/-- Distinct records that do not clash have a newest one. -/
theorem exists_prevails (hne : ps ≠ []) (hdistinct : ps.Pairwise Distinct)
    (hclash : ¬Clashing ps) : ∃ w, Prevails w ps := by
  induction ps with
  | nil => exact absurd rfl hne
  | cons p rest ih =>
    obtain ⟨hhead, hrest⟩ := List.pairwise_cons.mp hdistinct
    by_cases hempty : rest = []
    · exact ⟨p, List.mem_cons_self, by simp [hempty]⟩
    obtain ⟨w, hw⟩ := ih hempty hrest fun h => hclash (h.mono (List.subset_cons_self p rest))
    have hpw := hhead w hw.mem
    by_cases hnew : p.isNewerThan w = true
    · have hall : ∀ q ∈ rest, p.isNewerThan q = true := by
        intro q hq
        by_contra hnot
        -- What is newer than the newest is newer than all, or it would go round.
        rcases hw.newest q hq with rfl | ⟨hwq, -⟩
        · exact hnot hnew
        have hqp := (symm (hhead q hq)).isNewerThan_iff_not.mpr hnot
        have hround := (goes_round_iff (fun htimes => hpw.1 htimes.1) hnew hwq).mp hqp
        refine hclash (hround.mono ?_)
        simp [hw.mem, hq]
      refine ⟨p, List.mem_cons_self, fun q hq => (List.mem_cons.mp hq).imp_right fun hq => ?_⟩
      exact ⟨hall q hq, (hhead q hq).isNewerThan_iff_not.mp (hall q hq)⟩
    · refine ⟨w, List.mem_cons_of_mem _ hw.mem, fun q hq => ?_⟩
      rcases List.mem_cons.mp hq with rfl | hq
      · exact .inr ⟨(symm hpw).isNewerThan_iff_not.mpr hnew, hnew⟩
      · exact hw.newest q hq

end Presence

/-! ## Records in turn -/

namespace Roster

variable {r : Roster} {p q w a b c : Presence} {k : MemberKey} {ps qs : List Presence}

/-- What is known of a member stays, as long as nothing newer comes. -/
theorem known_stays (hsync : r.isSyncing = true) (hk : r.known? k = some w.kept)
    (hps : ∀ p ∈ ps, p.key = k → p = w ∨ ¬p.isNewerThan w = true) :
    (r.putAll ps).known? k = some w.kept := by
  induction ps generalizing r with
  | nil => exact hk
  | cons p rest ih =>
    rw [putAll_cons]
    refine ih (isSyncing_put.trans hsync) ?_ fun q hq => hps q (List.mem_cons_of_mem _ hq)
    rw [known_put hsync]
    split
    · obtain ⟨rfl, hnews⟩ := ‹k = p.key ∧ r.isNews p = true›
      rcases hps p List.mem_cons_self rfl with rfl | hnot
      · rfl
      · rw [isNews, hk, Option.all_some, Presence.isNewerThan_kept] at hnews
        exact absurd hnews hnot
    · exact hk

/-- A record that is newer than what is known and than all that comes is known in the end. -/
theorem known_wins (hsync : r.isSyncing = true) (hw : w ∈ ps) (hkey : w.key = k)
    (hk : ∀ p, r.known? k = some p → w.isNewerThan p = true)
    (hps : ∀ p ∈ ps, p.key = k → p = w ∨ w.isNewerThan p = true ∧ ¬p.isNewerThan w = true) :
    (r.putAll ps).known? k = some w.kept := by
  induction ps generalizing r with
  | nil => cases hw
  | cons p rest ih =>
    have hrest := fun q hq => hps q (List.mem_cons_of_mem p hq)
    rw [putAll_cons]
    by_cases hp : p = w
    · subst hp
      refine known_stays (isSyncing_put.trans hsync) ?_ fun q hq hqk =>
        (hrest q hq hqk).imp_right And.right
      rw [known_put hsync, if_pos]
      refine ⟨hkey.symm, ?_⟩
      rw [isNews, hkey, Option.all_eq_true]
      exact hk
    · have hmem : w ∈ rest := (List.mem_cons.mp hw).resolve_left fun h => hp h.symm
      refine ih (isSyncing_put.trans hsync) hmem (fun q hq => ?_) hrest
      rw [known_put hsync] at hq
      split at hq
      · obtain ⟨rfl, -⟩ := ‹k = p.key ∧ r.isNews p = true›
        cases hq
        rw [Presence.isNewerThan_kept]
        exact ((hps p List.mem_cons_self rfl).resolve_left hp).1
      · exact hk q hq

/-- What no record names is known as before. -/
theorem known_of_unnamed (hsync : r.isSyncing = true) (hps : ∀ p ∈ ps, p.key ≠ k) :
    (r.putAll ps).known? k = r.known? k := by
  induction ps generalizing r with
  | nil => rfl
  | cons p rest ih =>
    rw [putAll_cons, ih (isSyncing_put.trans hsync) fun q hq => hps q (List.mem_cons_of_mem _ hq),
      known_put hsync, if_neg]
    exact fun h => hps p List.mem_cons_self h.1.symm

/-- The records that are compared for a member: what is known of it, if that is not among what
comes, and what comes. -/
def inPlay (r : Roster) (k : MemberKey) (ps : List Presence) : List Presence :=
  ((r.known? k).toList.filter fun p => !decide (p ∈ ps.map Presence.kept)) ++ ps

/-- The newest record of those in play is known in the end. -/
theorem known_of_prevails (h : r.Consistent) (hsync : r.isSyncing = true)
    (hw : w.Prevails (r.inPlay k ps)) (hkeys : ∀ p ∈ ps, p.key = k)
    (hsame : ∀ p, p ∈ qs ↔ p ∈ ps) : (r.putAll qs).known? k = some w.kept := by
  have hqs : ∀ p ∈ qs, p.key = k → p = w ∨ w.isNewerThan p = true ∧ ¬p.isNewerThan w = true :=
    fun p hp _ => hw.newest p (List.mem_append_right _ ((hsame p).mp hp))
  by_cases hk : r.known? k = some w.kept
  · exact known_stays hsync hk fun p hp hpk => (hqs p hp hpk).imp_right And.right
  have hmem : w ∈ ps := by
    refine (List.mem_append.mp hw.mem).resolve_left fun hmem => hk ?_
    have hw' := Option.mem_toList.mp (List.mem_of_mem_filter hmem)
    rw [hw', (h.known hw').2.1]
  refine known_wins hsync ((hsame w).mpr hmem) (hkeys w hmem) (fun p hp => ?_) hqs
  by_cases hcomes : p ∈ ps.map Presence.kept
  · obtain ⟨q, hq, rfl⟩ := List.mem_map.mp hcomes
    rw [Presence.isNewerThan_kept]
    rcases hw.newest q (List.mem_append_right _ hq) with rfl | hnew
    · exact absurd hp hk
    · exact hnew.1
  · have hplay : p ∈ r.inPlay k ps :=
      List.mem_append_left _ (List.mem_filter.mpr ⟨Option.mem_toList.mpr hp, by simpa using hcomes⟩)
    rcases hw.newest p hplay with rfl | hnew
    · exact absurd (by rw [hp, (h.known hp).2.1]) hk
    · exact hnew.1

/-- Of three records of a member of whom nothing was known, the last one counts if it is newer
than the first and the second one is not. -/
theorem known_of_three (hsync : r.isSyncing = true) (hk : r.known? k = none) (hp : p.key = k)
    (hw : w.key = k) (hqp : ¬q.isNewerThan p = true) (hwp : w.isNewerThan p = true) :
    (r.putAll [p, q, w]).known? k = some w.kept := by
  have hfirst : (r.put p).1.known? k = some p.kept := by
    rw [known_put hsync, if_pos]
    exact ⟨hp.symm, by simp [isNews, hp, hk]⟩
  have hsync1 : (r.put p).1.isSyncing = true := isSyncing_put.trans hsync
  have hsecond : ((r.put p).1.putAll [q]).known? k = some p.kept :=
    known_stays hsync1 hfirst (by simp [hqp])
  change (((r.put p).1.putAll [q]).putAll [w]).known? k = some w.kept
  refine known_wins (isSyncing_put.trans hsync1) (by simp) hw (fun x hx => ?_) (by simp)
  cases hsecond.symm.trans hx
  rwa [Presence.isNewerThan_kept]

/-- Distinct records of one member that do not clash come to the same in any order: the newest of
those in play is known in the end. -/
theorem known_in_any_order (h : r.Consistent) (hsync : r.isSyncing = true) (hne : ps ≠ [])
    (hkeys : ∀ p ∈ ps, p.key = k) (hdistinct : (r.inPlay k ps).Pairwise Presence.Distinct)
    (hclash : ¬Presence.Clashing (r.inPlay k ps)) : ∃ w, Presence.Prevails w (r.inPlay k ps) ∧
      ∀ qs, qs.Perm ps → (r.putAll qs).known? k = some w.kept ∧ r.putAll qs = r.putAll ps := by
  have hplay : r.inPlay k ps ≠ [] := by simp [inPlay, hne]
  obtain ⟨w, hw⟩ := Presence.exists_prevails hplay hdistinct hclash
  have hknown : ∀ qs, (∀ p, p ∈ qs ↔ p ∈ ps) → (r.putAll qs).known? k = some w.kept :=
    fun qs hsame => known_of_prevails h hsync hw hkeys hsame
  refine ⟨w, hw, fun qs hperm => ?_⟩
  have hsame : ∀ p, p ∈ qs ↔ p ∈ ps := fun p => hperm.mem_iff
  refine ⟨hknown qs hsame, putAll_eq_of_known h hsync hsame fun k' => ?_⟩
  by_cases hk : k' = k
  · rw [hk, hknown qs hsame, hknown ps fun p => Iff.rfl]
  · have hother : ∀ p ∈ ps, p.key ≠ k' := fun p hp he => hk (he.symm.trans (hkeys p hp))
    rw [known_of_unnamed hsync hother,
      known_of_unnamed hsync fun p hp => hother p ((hsame p).mp hp)]

/-- What three records that clash come to depends on their order, if nothing was known of the
member. -/
theorem order_counts_of_clashing (hsync : r.isSyncing = true) (hk : r.known? k = none)
    (hkeys : ∀ p ∈ [a, b, c], p.key = k) (hdistinct : [a, b, c].Pairwise Presence.Distinct)
    (hclash : Presence.Clashing [a, b, c]) : ∃ ps qs, ps.Perm [a, b, c] ∧ qs.Perm [a, b, c] ∧
      (r.putAll ps).known? k ≠ (r.putAll qs).known? k := by
  obtain ⟨p, hp, q, hq, w, hw, hclash⟩ := hclash
  obtain ⟨hpq, hqw, hwp⟩ := hclash.ne
  have hapart := hdistinct.forall
  obtain ⟨hnext, hnew, hlast⟩ := hclash.goes_round
  have hperm : [p, q, w].Perm [a, b, c] :=
    (List.Nodup.subperm (by simp [hpq, hqw, hwp.symm]) (by simp_all)).perm_of_length_le le_rfl
  refine ⟨[p, q, w], [q, w, p], hperm, (@List.perm_append_comm _ [q, w] [p]).trans hperm, ?_⟩
  rw [known_of_three hsync hk (hkeys p hp) (hkeys w hw) hclash.one_way.1 hlast,
    known_of_three hsync hk (hkeys q hq) (hkeys p hp)
      ((hapart hq hw hqw).isNewerThan_iff_not.mp hnew) hnext]
  intro he
  apply (hapart hw hp hwp).1
  rw [← Presence.time_kept (p := w), Option.some.inj he, Presence.time_kept]

/-! ## The law -/

/-- Take three records of one member, no two of them with one timestamp. Where the first is newer
than the second and the second newer than the third, the third is newer than the first exactly
if the three clash: two of them go by their serials, which put one after the other, and the third
does not and lies between them in time, which puts the other after the one. While a sync goes
on, whatever has come about before, the three come to the same in any order if the records in
play are distinct and do not clash: the newest of them counts. If they clash, and nothing was
known of the member, what counts depends on their order. -/
theorem newness_goes_round_only_where_serials_and_times_clash (a b c : Presence) (k : MemberKey)
    (ha : a.key = k) (hb : b.key = k) (hc : c.key = k)
    (htimes : [a, b, c].Pairwise fun p q => p.timestamp ≠ q.timestamp) :
    (a.isNewerThan b = true → b.isNewerThan c = true →
      (c.isNewerThan a = true ↔ Presence.Clashing [a, b, c])) ∧
    ∀ moves, (after {} moves).isSyncing = true →
      let r := after {} moves
      ((r.inPlay k [a, b, c]).Pairwise Presence.Distinct →
        ¬Presence.Clashing (r.inPlay k [a, b, c]) →
        ∃ w, Presence.Prevails w (r.inPlay k [a, b, c]) ∧
          ∀ ps, ps.Perm [a, b, c] → (r.putAll ps).known? k = some w.kept ∧
            r.putAll ps = r.putAll [a, b, c]) ∧
      (r.known? k = none → [a, b, c].Pairwise Presence.Distinct →
        Presence.Clashing [a, b, c] →
        ∃ ps qs, ps.Perm [a, b, c] ∧ qs.Perm [a, b, c] ∧
          (r.putAll ps).known? k ≠ (r.putAll qs).known? k) := by
  have hkeys : ∀ p ∈ [a, b, c], p.key = k := by simp [ha, hb, hc]
  refine ⟨Presence.goes_round_iff (Presence.not_of_one_time htimes), fun moves hsync => ?_⟩
  have hr : (after {} moves).Consistent := consistent_after consistent_fresh moves
  refine ⟨fun hdistinct hclash => ?_, fun hk hdistinct hclash => ?_⟩
  · exact known_in_any_order hr hsync (by simp) hkeys hdistinct hclash
  · exact order_counts_of_clashing hsync hk hkeys hdistinct hclash

/-- Ann's records, two of which she published and one of which the server made, do not clash: the
last of her serials has the last of her times. In any order they leave her gone. -/
theorem the_last_update_counts_in_any_order :
    let entered : Presence := ⟨some "c:1:0", .enter, "ann", "c", .null, some 100⟩
    let dropped : Presence := ⟨some "server:1", .leave, "ann", "c", .null, some 200⟩
    let updated : Presence := ⟨some "c:2:0", .update, "ann", "c", .null, some 300⟩
    let r := after {} [.startSync]
    ∀ ps, ps.Perm [updated, dropped, entered] →
      (r.putAll ps).known? updated.key = some updated.kept := by
  intro entered dropped updated r ps hperm
  obtain ⟨-, hlaw⟩ := newness_goes_round_only_where_serials_and_times_clash updated dropped entered
    updated.key rfl rfl rfl (by decide)
  obtain ⟨w, -, hall⟩ := (hlaw [.startSync] rfl).1 (by decide) (by decide)
  rw [(hall ps hperm).2]
  decide

/-- Ann entered and then updated, but her times say the opposite, and the server's record of her
leave lies between them. Each of the three is newer than the next, and during a sync each of
them counts if the records come in the right order. -/
theorem newness_can_go_round :
    let updated : Presence := ⟨some "c:2:0", .update, "ann", "c", .null, some 100⟩
    let entered : Presence := ⟨some "c:1:0", .enter, "ann", "c", .null, some 300⟩
    let dropped : Presence := ⟨some "server:1", .leave, "ann", "c", .null, some 200⟩
    let r := after {} [.startSync]
    [updated, entered, dropped].Pairwise (fun p q =>
        p.key = q.key ∧ p.timestamp ≠ q.timestamp ∧ p.order? ≠ q.order?) ∧
      updated.isNewerThan entered = true ∧ entered.isNewerThan dropped = true ∧
      dropped.isNewerThan updated = true ∧ r.isSyncing = true ∧
      (r.putAll [updated, entered, dropped]).known? updated.key = some dropped ∧
      (r.putAll [entered, dropped, updated]).known? updated.key = some updated.kept ∧
      (r.putAll [dropped, updated, entered]).known? updated.key = some entered.kept := by
  decide

end Roster

end PresenceClient
