-- Registries: who is to hear of an event. A registration may ask for one kind of event
-- only. Its receiver may go away at any time; the next event clears it out.

namespace PresenceClient

/-- Names a registration, among all registries of a client. -/
abbrev ListenerId := Nat

namespace Listener

/-- One registration. Without a filter it is for every kind of event. -/
structure Registration (κ : Type) where
  id : ListenerId
  filter : Option κ
  isOpen : Bool := true
deriving DecidableEq, Repr

/-- Does the registration ask for events of a kind? -/
def Registration.wants {κ : Type} [DecidableEq κ] (e : Registration κ) (kind : κ) : Bool :=
  e.filter.all fun f => decide (f = kind)

/-- The registrations, oldest first. -/
structure Registry (κ : Type) where
  entries : List (Registration κ) := []
deriving DecidableEq, Repr, Inhabited

namespace Registry

variable {κ : Type} [DecidableEq κ]

/-! ## Coming and going -/

def on (r : Registry κ) (id : ListenerId) (filter : Option κ) : Registry κ :=
  ⟨r.entries ++ [{ id := id, filter := filter }]⟩

/-- Remove a registration, whatever it asks for. -/
def off (r : Registry κ) (id : ListenerId) : Registry κ :=
  ⟨r.entries.filter fun e => !decide (e.id = id)⟩

/-- Remove a registration, if it was made with just this filter. -/
def offFiltered (r : Registry κ) (filter : Option κ) (id : ListenerId) : Registry κ :=
  ⟨r.entries.filter fun e => !decide (e.id = id ∧ e.filter = filter)⟩

def offAll (_ : Registry κ) : Registry κ := ⟨[]⟩

/-- The receiver of a registration goes away. -/
def drop (r : Registry κ) (id : ListenerId) : Registry κ :=
  ⟨r.entries.map fun e => if e.id = id then { e with isOpen := false } else e⟩

/-! ## Events -/

/-- Who hears of an event, oldest first. -/
def recipients (r : Registry κ) (kind : κ) : List ListenerId :=
  (r.entries.filter fun e => e.wants kind && e.isOpen).map (·.id)

/-- What an event leaves: the registrations whose receiver is still there. -/
def prune (r : Registry κ) : Registry κ := ⟨r.entries.filter (·.isOpen)⟩

/-! ## Views -/

def contains (r : Registry κ) (id : ListenerId) : Bool := r.entries.any fun e => decide (e.id = id)

def containsFiltered (r : Registry κ) (filter : Option κ) (id : ListenerId) : Bool :=
  r.entries.any fun e => decide (e.id = id ∧ e.filter = filter)

/-- How many receivers there are for just this filter. -/
def count (r : Registry κ) (filter : Option κ) : Nat :=
  (r.entries.filter fun e => decide (e.filter = filter) && e.isOpen).length

/-- Nobody hears an event of a kind that nobody asks for. -/
theorem mem_recipients (r : Registry κ) (kind : κ) (id : ListenerId) :
    id ∈ r.recipients kind ↔
      ∃ e ∈ r.entries, e.wants kind = true ∧ e.isOpen = true ∧ e.id = id := by
  simp [recipients, and_assoc]

end Registry

/-! ## Those who are there -/

namespace Registry

variable {κ : Type} (r : Registry κ)

/-- The registrations whose receiver is there. Nothing else matters to an event. -/
def live : List (Registration κ) := r.entries.filter (·.isOpen)

theorem live_on (id : ListenerId) (filter : Option κ) :
    (r.on id filter).live = r.live ++ [{ id := id, filter := filter }] := by
  simp [live, on]

theorem live_filter (p : Registration κ → Bool) :
    Registry.live ⟨r.entries.filter p⟩ = r.live.filter p := by
  simp only [live, List.filter_filter, Bool.and_comm]

theorem live_prune : r.prune.live = r.live := by
  simp [live, prune]

theorem live_drop (id : ListenerId) :
    (r.drop id).live = r.live.filter fun e => !decide (e.id = id) := by
  unfold live drop
  dsimp only
  induction r.entries with
  | nil => rfl
  | cons e rest ih =>
    by_cases hid : e.id = id <;> by_cases hopen : e.isOpen = true <;> simp [hid, hopen, ih]

variable [DecidableEq κ]

theorem recipients_eq (kind : κ) :
    r.recipients kind = (r.live.filter fun e => e.wants kind).map (·.id) := by
  rw [recipients, live, List.filter_filter]

theorem count_eq (filter : Option κ) :
    r.count filter = (r.live.filter fun e => decide (e.filter = filter)).length := by
  rw [count, live, List.filter_filter]

end Registry

end Listener

end PresenceClient
