-- Tables: finite maps kept as entry lists in ascending key order. Reading back
-- what was put, and leaving every other key alone, hold without any assumption
-- on the order; the order only fixes how a table is listed.

namespace PresenceClient

/-! ## Entry lists -/

namespace Entries

variable {κ α β : Type}

/-- The value stored under `k`. -/
def get? [DecidableEq κ] (k : κ) : List (κ × α) → Option α
  | [] => none
  | e :: rest => if k = e.1 then some e.2 else get? k rest

/-- Store `v` under `k`, in front of the first greater key. -/
def put [LT κ] [DecidableLT κ] [DecidableEq κ] (k : κ) (v : α) : List (κ × α) → List (κ × α)
  | [] => [(k, v)]
  | e :: rest =>
    if k = e.1 then (k, v) :: rest
    else if k < e.1 then (k, v) :: e :: rest
    else e :: put k v rest

/-- Drop the entry of `k`. -/
def erase [DecidableEq κ] (k : κ) (es : List (κ × α)) : List (κ × α) :=
  es.filter fun e => !decide (k = e.1)

theorem get?_put_self [LT κ] [DecidableLT κ] [DecidableEq κ] (k : κ) (v : α)
    (es : List (κ × α)) : get? k (put k v es) = some v := by
  induction es with
  | nil => simp [put, get?]
  | cons e rest ih =>
    unfold put
    split
    · simp [get?]
    · rename_i h
      split
      · simp [get?]
      · simp [get?, h, ih]

theorem get?_put_ne [LT κ] [DecidableLT κ] [DecidableEq κ] {k k' : κ} (h : k' ≠ k) (v : α)
    (es : List (κ × α)) : get? k' (put k v es) = get? k' es := by
  induction es with
  | nil => simp [put, get?, h]
  | cons e rest ih =>
    unfold put
    split
    · rename_i hk
      subst hk
      simp [get?, h]
    · split
      · simp [get?, h]
      · simp only [get?, ih]

theorem get?_erase_self [DecidableEq κ] (k : κ) (es : List (κ × α)) :
    get? k (erase k es) = none := by
  induction es with
  | nil => rfl
  | cons e rest ih =>
    by_cases h : k = e.1
    · simpa [erase, List.filter, h] using ih
    · simpa [erase, List.filter, h, get?] using ih

theorem get?_erase_ne [DecidableEq κ] {k k' : κ} (h : k' ≠ k) (es : List (κ × α)) :
    get? k' (erase k es) = get? k' es := by
  induction es with
  | nil => rfl
  | cons e rest ih =>
    by_cases hk : k = e.1
    · subst hk
      simpa [erase, List.filter, get?, h] using ih
    · by_cases hk' : k' = e.1
      · simp [erase, List.filter, hk, get?, hk']
      · simpa [erase, List.filter, hk, get?, hk'] using ih

end Entries

/-! ## Tables -/

/-- A finite map, listed in ascending key order. -/
structure Table (κ α : Type) where
  entries : List (κ × α)
deriving DecidableEq, Repr

namespace Table

variable {κ α : Type}

instance : EmptyCollection (Table κ α) := ⟨⟨[]⟩⟩

instance : Inhabited (Table κ α) := ⟨∅⟩

def get? [DecidableEq κ] (t : Table κ α) (k : κ) : Option α := Entries.get? k t.entries

def put [LT κ] [DecidableLT κ] [DecidableEq κ] (t : Table κ α) (k : κ) (v : α) : Table κ α :=
  ⟨Entries.put k v t.entries⟩

def erase [DecidableEq κ] (t : Table κ α) (k : κ) : Table κ α := ⟨Entries.erase k t.entries⟩

def keys (t : Table κ α) : List κ := t.entries.map (·.1)

def values (t : Table κ α) : List α := t.entries.map (·.2)

def size (t : Table κ α) : Nat := t.entries.length

def contains [DecidableEq κ] (t : Table κ α) (k : κ) : Bool := (t.get? k).isSome

variable [DecidableEq κ]

@[simp] theorem get?_empty (k : κ) : (∅ : Table κ α).get? k = none := rfl

@[simp] theorem get?_put_self [LT κ] [DecidableLT κ] (t : Table κ α) (k : κ) (v : α) :
    (t.put k v).get? k = some v := Entries.get?_put_self k v t.entries

theorem get?_put_ne [LT κ] [DecidableLT κ] (t : Table κ α) {k k' : κ} (h : k' ≠ k) (v : α) :
    (t.put k v).get? k' = t.get? k' := Entries.get?_put_ne h v t.entries

@[simp] theorem get?_erase_self (t : Table κ α) (k : κ) : (t.erase k).get? k = none :=
  Entries.get?_erase_self k t.entries

theorem get?_erase_ne (t : Table κ α) {k k' : κ} (h : k' ≠ k) :
    (t.erase k).get? k' = t.get? k' := Entries.get?_erase_ne h t.entries

end Table

end PresenceClient
