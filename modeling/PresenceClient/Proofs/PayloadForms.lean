-- Payloads as there can be: whole numbers of 64 bits, and records with their fields in order. A
-- record that is put together again from its fields, one by one, is the same.
import Mathlib.Algebra.Group.Int.Defs
import PresenceClient.Payload
import PresenceClient.Proofs.TableOrder

namespace PresenceClient

/-! ## Entries put one by one -/

namespace Entries

variable {κ α β : Type} [LT κ] [DecidableLT κ] [DecidableEq κ]

/-- Some entries are put, in order. -/
def putAll (new es : List (κ × α)) : List (κ × α) := new.foldl (fun es e => put e.1 e.2 es) es

theorem get?_putAll {new : List (κ × α)} (h : (new.map (·.1)).Nodup) (es : List (κ × α)) (k : κ) :
    get? k (putAll new es) = (get? k new).or (get? k es) := by
  induction new generalizing es with
  | nil => rfl
  | cons e rest ih =>
    obtain ⟨hnew, hrest⟩ := List.nodup_cons.mp h
    have hnone : get? e.1 rest = none := by
      cases hg : get? e.1 rest with
      | none => rfl
      | some v => exact absurd (List.mem_map_of_mem (mem_of_get? hg)) hnew
    show get? k (putAll rest (put e.1 e.2 es)) = _
    rw [ih hrest]
    by_cases hk : k = e.1
    · subst hk
      simp [get?, hnone, get?_put_self]
    · simp [get?, hk, get?_put_ne hk]

theorem put_map (k : κ) (v : α) (f : α → β) (es : List (κ × α)) :
    put k (f v) (es.map fun e => (e.1, f e.2)) = (put k v es).map fun e => (e.1, f e.2) := by
  induction es with
  | nil => rfl
  | cons e rest ih =>
    by_cases hk : k = e.1
    · simp [put, hk]
    · by_cases hlt : k < e.1
      · simp [put, hk, hlt]
      · simp [put, hk, hlt, ih]

theorem putAll_map (f : α → β) (new es : List (κ × α)) :
    putAll (new.map fun e => (e.1, f e.2)) (es.map fun e => (e.1, f e.2)) =
      (putAll new es).map fun e => (e.1, f e.2) := by
  induction new generalizing es with
  | nil => rfl
  | cons e rest ih =>
    show putAll (rest.map _) (put e.1 (f e.2) (es.map _)) = _
    rw [put_map]
    exact ih (put e.1 e.2 es)

variable [IsStrictTotalOrder κ (· < ·)]

/-- A key above all others comes last. -/
theorem put_last {k : κ} {es : List (κ × α)} (h : ∀ e ∈ es, e.1 < k) (v : α) :
    put k v es = es ++ [(k, v)] := by
  induction es with
  | nil => rfl
  | cons e rest ih =>
    have hlt : e.1 < k := h e List.mem_cons_self
    have hne : k ≠ e.1 := fun he => irrefl_of (· < ·) k (by simpa [← he] using hlt)
    have hnot : ¬k < e.1 := asymm_of (· < ·) hlt
    rw [put, if_neg hne, if_neg hnot, ih fun x hx => h x (List.mem_cons_of_mem _ hx)]
    rfl

theorem putAll_ascending {new es : List (κ × α)} (h : Ascending (es ++ new)) :
    putAll new es = es ++ new := by
  induction new generalizing es with
  | nil => exact (List.append_nil es).symm
  | cons e rest ih =>
    have habove : ∀ x ∈ es, x.1 < e.1 := fun x hx =>
      (List.pairwise_append.mp h).2.2 x hx e List.mem_cons_self
    show putAll rest (put e.1 e.2 es) = _
    rw [put_last habove, ih (by simpa using h)]
    simp

end Entries

/-! ## Payloads in good form -/

namespace Payload

mutual

/-- Whole numbers have at most 64 bits, with a sign or without one, and the fields of a record
stand in the order of their names, each name once. -/
def WellFormed : Payload → Prop
  | .int n => -2 ^ 63 ≤ n ∧ n < 2 ^ 64
  | .list items => WellFormedItems items
  | .record fields => Entries.Ascending fields ∧ WellFormedFields fields
  | .null | .bool _ | .float _ | .text _ => True

def WellFormedItems : List Payload → Prop
  | [] => True
  | p :: rest => p.WellFormed ∧ WellFormedItems rest

def WellFormedFields : List (String × Payload) → Prop
  | [] => True
  | (_, p) :: rest => p.WellFormed ∧ WellFormedFields rest

end

/-- A record is what its fields make. -/
theorem ofFields_ascending {fields : List (String × Payload)} (h : Entries.Ascending fields) :
    ofFields fields = .record fields := by
  have hput : Entries.putAll fields [] = [] ++ fields := Entries.putAll_ascending h
  exact congrArg Payload.record hput

end Payload

end PresenceClient
