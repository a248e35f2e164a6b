-- The laws of ordered tables. The keys of a table ascend, and storing and dropping keep
-- that. So each key stands once, and a change of one value changes the weight of the
-- whole table by the weight of that value.
import Mathlib.Data.String.Basic
import PresenceClient.Table

namespace PresenceClient

/-! ## Entry lists -/

namespace Entries

variable {κ α : Type}

theorem mem_of_get? [DecidableEq κ] {k : κ} {v : α} {es : List (κ × α)} (h : get? k es = some v) :
    (k, v) ∈ es := by
  induction es with
  | nil => simp [get?] at h
  | cons e rest ih =>
    unfold get? at h
    split at h
    · rename_i hk
      cases h
      subst hk
      exact List.mem_cons_self
    · exact List.mem_cons_of_mem _ (ih h)

/-- Changing all values in place keeps them under their keys. -/
theorem get?_map {β : Type} [DecidableEq κ] (k : κ) (f : α → β) (es : List (κ × α)) :
    get? k (es.map fun e => (e.1, f e.2)) = (get? k es).map f := by
  induction es with
  | nil => rfl
  | cons e rest ih =>
    by_cases h : k = e.1
    · simp [get?, h]
    · simpa [get?, h] using ih

/-- The values of the entries weighed together. -/
def weight (w : α → Nat) : List (κ × α) → Nat
  | [] => 0
  | e :: rest => w e.2 + weight w rest

/-- The weight of the value under `k`, or 0. -/
def weightAt [DecidableEq κ] (w : α → Nat) (k : κ) (es : List (κ × α)) : Nat :=
  ((get? k es).map w).getD 0

/-- Counting in the lists of all values is weighing the values by the count in each. -/
theorem count_flatMap {β : Type} [BEq β] (f : α → List β) (x : β) (es : List (κ × α)) :
    ((es.map (·.2)).flatMap f).count x = weight (fun v => (f v).count x) es := by
  induction es with
  | nil => rfl
  | cons e rest ih => simp only [List.map_cons, List.flatMap_cons, List.count_append, ih, weight]

theorem weight_map {β : Type} (w : β → Nat) (f : α → β) (es : List (κ × α)) :
    weight w (es.map fun e => (e.1, f e.2)) = weight (fun v => w (f v)) es := by
  induction es with
  | nil => rfl
  | cons e rest ih => exact congrArg (w (f e.2) + ·) ih

variable [LT κ]

/-- The keys ascend. -/
def Ascending (es : List (κ × α)) : Prop := es.Pairwise fun a b => a.1 < b.1

section Put

variable [DecidableLT κ] [DecidableEq κ]

theorem mem_put {k : κ} {v : α} {es : List (κ × α)} {x : κ × α} (h : x ∈ put k v es) :
    x = (k, v) ∨ x ∈ es := by
  induction es with
  | nil => exact Or.inl (by simpa [put] using h)
  | cons e rest ih =>
    unfold put at h
    split at h
    · simp only [List.mem_cons] at h ⊢
      rcases h with h | h
      · exact Or.inl h
      · exact Or.inr (Or.inr h)
    · split at h
      · simpa using h
      · simp only [List.mem_cons] at h ⊢
        rcases h with h | h
        · exact Or.inr (Or.inl h)
        · rcases ih h with h | h
          · exact Or.inl h
          · exact Or.inr (Or.inr h)

/-- Of two values that are stored under one key, the second one stays. -/
theorem put_put (k : κ) (v w : α) (es : List (κ × α)) : put k w (put k v es) = put k w es := by
  induction es with
  | nil => simp [put]
  | cons e rest ih =>
    by_cases hk : k = e.1
    · simp [put, hk]
    · by_cases hlt : k < e.1
      · simp [put, hk, hlt]
      · simp only [put, hk, hlt, if_false, ih]

variable [IsStrictTotalOrder κ (· < ·)]

theorem ascending_put (k : κ) (v : α) {es : List (κ × α)} (h : Ascending es) :
    Ascending (put k v es) := by
  induction es with
  | nil => exact List.pairwise_singleton _ _
  | cons e rest ih =>
    obtain ⟨hhead, htail⟩ := List.pairwise_cons.mp h
    unfold put
    split
    · rename_i hk
      exact List.pairwise_cons.mpr ⟨fun x hx => hk ▸ hhead x hx, htail⟩
    · rename_i hk
      split
      · rename_i hlt
        refine List.pairwise_cons.mpr ⟨fun x hx => ?_, h⟩
        rcases List.mem_cons.mp hx with rfl | hx
        · exact hlt
        · exact trans_of (· < ·) hlt (hhead x hx)
      · rename_i hnlt
        refine List.pairwise_cons.mpr ⟨fun x hx => ?_, ih htail⟩
        rcases mem_put hx with rfl | hx
        · rcases trichotomous_of (· < ·) k e.1 with h1 | h1 | h1
          · exact absurd h1 hnlt
          · exact absurd h1 hk
          · exact h1
        · exact hhead x hx

end Put

theorem ascending_erase [DecidableEq κ] (k : κ) {es : List (κ × α)} (h : Ascending es) :
    Ascending (erase k es) := List.Pairwise.filter _ h

theorem ascending_map {β : Type} (f : α → β) {es : List (κ × α)} (h : Ascending es) :
    Ascending (es.map fun e => (e.1, f e.2)) := List.pairwise_map.mpr h

section Read

variable [IsStrictTotalOrder κ (· < ·)]

theorem keys_nodup {es : List (κ × α)} (h : Ascending es) : (es.map (·.1)).Nodup := by
  apply (List.pairwise_map.mpr h).imp
  intro a b hab he
  subst he
  exact irrefl_of (· < ·) a hab

variable [DecidableEq κ]

/-- A key below all others has no value. -/
theorem get?_of_below {k : κ} {es : List (κ × α)} (h : ∀ e ∈ es, k < e.1) :
    get? k es = none := by
  induction es with
  | nil => rfl
  | cons e rest ih =>
    have hne : k ≠ e.1 := fun he => irrefl_of (· < ·) k (by simpa [← he] using h e (by simp))
    simp only [get?, hne, if_false]
    exact ih fun x hx => h x (List.mem_cons_of_mem _ hx)

theorem get?_of_mem {k : κ} {v : α} {es : List (κ × α)} (h : Ascending es)
    (hm : (k, v) ∈ es) : get? k es = some v := by
  induction es with
  | nil => simp at hm
  | cons e rest ih =>
    obtain ⟨hhead, htail⟩ := List.pairwise_cons.mp h
    rcases List.mem_cons.mp hm with rfl | hm
    · simp [get?]
    · have hne : k ≠ e.1 := fun he => irrefl_of (· < ·) k (by simpa [← he] using hhead _ hm)
      simp only [get?, hne, if_false]
      exact ih htail hm

/-- Ascending entries are told apart by their look-ups. -/
theorem eq_of_get? {as bs : List (κ × α)} (ha : Ascending as) (hb : Ascending bs)
    (h : ∀ k, get? k as = get? k bs) : as = bs := by
  refine List.Perm.eq_of_pairwise ?_ ha hb ?_
  · intro a b _ _ hab hba
    exact absurd hba (asymm_of (· < ·) hab)
  · have hmem : ∀ e, e ∈ as ↔ e ∈ bs := fun ⟨k, v⟩ =>
      ⟨fun he => mem_of_get? ((h k).symm.trans (get?_of_mem ha he)),
        fun he => mem_of_get? ((h k).trans (get?_of_mem hb he))⟩
    have hnodup : ∀ {es : List (κ × α)}, Ascending es → es.Nodup := fun hes => by
      apply hes.imp
      rintro a _ hab rfl
      exact irrefl_of (· < ·) a.1 hab
    exact (List.perm_ext_iff_of_nodup (hnodup ha) (hnodup hb)).mpr hmem

theorem weight_put [DecidableLT κ] (w : α → Nat) (k : κ) (v : α) {es : List (κ × α)}
    (h : Ascending es) : weight w (put k v es) + weightAt w k es = weight w es + w v := by
  induction es with
  | nil => simp [put, weight, weightAt, get?]
  | cons e rest ih =>
    obtain ⟨hhead, htail⟩ := List.pairwise_cons.mp h
    by_cases hk : k = e.1
    · simp only [put, weight, weightAt, get?, hk, if_true, Option.map_some,
        Option.getD_some]
      omega
    · by_cases hlt : k < e.1
      · have hnone : get? k rest = none :=
          get?_of_below fun x hx => trans_of (· < ·) hlt (hhead x hx)
        simp only [put, weight, weightAt, get?, hk, hlt, hnone, if_true, if_false,
          Option.map_none, Option.getD_none]
        omega
      · have ih := ih htail
        simp only [weightAt] at ih
        simp only [put, weight, weightAt, get?, hk, hlt, if_false]
        omega

theorem weight_erase (w : α → Nat) (k : κ) {es : List (κ × α)} (h : Ascending es) :
    weight w (erase k es) + weightAt w k es = weight w es := by
  induction es with
  | nil => simp [erase, weight, weightAt, get?]
  | cons e rest ih =>
    obtain ⟨hhead, htail⟩ := List.pairwise_cons.mp h
    have ih := ih htail
    by_cases hk : k = e.1
    · have hnone : get? k rest = none := get?_of_below fun x hx => hk ▸ hhead x hx
      simp only [weightAt, hnone, Option.map_none, Option.getD_none] at ih
      simp only [erase, weight, weightAt, get?, hk, List.filter_cons, decide_true, Bool.not_true,
        Bool.false_eq_true, if_true, if_false, Option.map_some, Option.getD_some] at ih ⊢
      omega
    · simp only [erase, weightAt] at ih
      simp only [erase, weight, weightAt, get?, hk, List.filter_cons, decide_false, Bool.not_false,
        if_true, if_false]
      omega

end Read

end Entries

/-! ## Tables -/

namespace Table

variable {κ α : Type}

theorem mem_keys_of_get? [DecidableEq κ] {t : Table κ α} {k : κ} {v : α}
    (h : t.get? k = some v) : k ∈ t.keys := List.mem_map.mpr ⟨(k, v), Entries.mem_of_get? h, rfl⟩

theorem of_get?_put [LT κ] [DecidableLT κ] [DecidableEq κ] {t : Table κ α} {k k' : κ} {v w : α}
    (h : (t.put k v).get? k' = some w) : k' = k ∧ w = v ∨ k' ≠ k ∧ t.get? k' = some w := by
  by_cases he : k' = k
  · rw [he, get?_put_self] at h
    exact .inl ⟨he, (Option.some.inj h).symm⟩
  · rw [get?_put_ne t he] at h
    exact .inr ⟨he, h⟩

theorem of_get?_erase [DecidableEq κ] {t : Table κ α} {k k' : κ} {w : α}
    (h : (t.erase k).get? k' = some w) : k' ≠ k ∧ t.get? k' = some w := by
  by_cases he : k' = k
  · rw [he, get?_erase_self] at h
    cases h
  · exact ⟨he, get?_erase_ne t he ▸ h⟩

/-- After some keys are dropped, each of them has no value, and all others have theirs. -/
theorem get?_eraseAll [DecidableEq κ] (t : Table κ α) (ks : List κ) (k : κ) :
    (ks.foldl erase t).get? k = if k ∈ ks then none else t.get? k := by
  induction ks generalizing t with
  | nil => simp
  | cons first rest ih =>
    rw [List.foldl_cons, ih]
    by_cases hrest : k ∈ rest
    · simp [hrest]
    · by_cases he : k = first
      · simp [he]
      · simp [hrest, he, get?_erase_ne t he]

variable [LT κ]

/-- The keys of the table ascend. -/
def Ordered (t : Table κ α) : Prop := Entries.Ascending t.entries

/-- The values of the table weighed together. -/
def weight (w : α → Nat) (t : Table κ α) : Nat := Entries.weight w t.entries

theorem ordered_empty : (∅ : Table κ α).Ordered := List.Pairwise.nil

theorem keys_nodup [IsStrictTotalOrder κ (· < ·)] {t : Table κ α} (h : t.Ordered) :
    t.keys.Nodup := Entries.keys_nodup h

variable [DecidableEq κ]

@[simp] theorem put_put [DecidableLT κ] (t : Table κ α) (k : κ) (v w : α) :
    (t.put k v).put k w = t.put k w := congrArg Table.mk (Entries.put_put k v w t.entries)

theorem ordered_erase {t : Table κ α} (h : t.Ordered) (k : κ) : (t.erase k).Ordered :=
  Entries.ascending_erase k h

theorem ordered_eraseAll {t : Table κ α} (h : t.Ordered) (ks : List κ) :
    (ks.foldl erase t).Ordered := by
  induction ks generalizing t with
  | nil => exact h
  | cons first rest ih => exact ih (ordered_erase h first)

variable [IsStrictTotalOrder κ (· < ·)]

theorem get?_of_mem_keys {t : Table κ α} (h : t.Ordered) {k : κ} (hk : k ∈ t.keys) :
    ∃ v, t.get? k = some v := by
  obtain ⟨⟨k', v⟩, he, rfl⟩ := List.mem_map.mp hk
  exact ⟨v, Entries.get?_of_mem h he⟩

/-- Values that tell their keys are listed in the order of these. -/
theorem values_ascending {t : Table κ α} {key : α → κ} (h : t.Ordered)
    (hkeys : ∀ k v, t.get? k = some v → key v = k) :
    t.values.Pairwise fun v w => key v < key w := by
  have hentries : ∀ e ∈ t.entries, key e.2 = e.1 := fun e he =>
    hkeys e.1 e.2 (Entries.get?_of_mem h he)
  refine List.pairwise_map.mpr (List.Pairwise.imp_of_mem (fun {a b} ha hb hlt => ?_) h)
  rwa [hentries a ha, hentries b hb]

theorem mem_values {t : Table κ α} {key : α → κ} (h : t.Ordered)
    (hkeys : ∀ k v, t.get? k = some v → key v = k) {v : α} :
    v ∈ t.values ↔ t.get? (key v) = some v := by
  constructor
  · intro hv
    obtain ⟨e, he, rfl⟩ := List.mem_map.mp hv
    have hget : t.get? e.1 = some e.2 := Entries.get?_of_mem h he
    rwa [hkeys e.1 e.2 hget]
  · exact fun hv => List.mem_map_of_mem (Entries.mem_of_get? hv)

/-- Ordered tables are told apart by their look-ups. -/
theorem eq_of_get? {s t : Table κ α} (hs : s.Ordered) (ht : t.Ordered)
    (h : ∀ k, s.get? k = t.get? k) : s = t := by
  cases s
  cases t
  exact congrArg Table.mk (Entries.eq_of_get? hs ht h)

theorem ordered_put [DecidableLT κ] {t : Table κ α} (h : t.Ordered) (k : κ) (v : α) :
    (t.put k v).Ordered := Entries.ascending_put k v h

/-- Storing what is there already changes nothing. -/
theorem put_of_get? [DecidableLT κ] {t : Table κ α} (h : t.Ordered) {k : κ} {v : α}
    (hv : t.get? k = some v) : t.put k v = t := by
  refine eq_of_get? (ordered_put h k v) h fun k' => ?_
  by_cases he : k' = k
  · rw [he, get?_put_self, hv]
  · exact get?_put_ne t he v

/-- Nor does dropping what is not there. -/
theorem erase_of_get? {t : Table κ α} (h : t.Ordered) {k : κ} (hk : t.get? k = none) :
    t.erase k = t := by
  refine eq_of_get? (ordered_erase h k) h fun k' => ?_
  by_cases he : k' = k
  · rw [he, get?_erase_self, hk]
  · exact get?_erase_ne t he

theorem weight_put [DecidableLT κ] {t : Table κ α} (h : t.Ordered) (w : α → Nat) (k : κ) (v : α) :
    (t.put k v).weight w + ((t.get? k).map w).getD 0 = t.weight w + w v :=
  Entries.weight_put w k v h

theorem weight_erase {t : Table κ α} (h : t.Ordered) (w : α → Nat) (k : κ) :
    (t.erase k).weight w + ((t.get? k).map w).getD 0 = t.weight w := Entries.weight_erase w k h

end Table

end PresenceClient
