-- The history of the link: which links a client opens and which it gives up, in order. A link is
-- opened only in place of the one before it, under the next generation. So a link is the one
-- that the connection is at exactly as long as nothing comes after it in the history.
import PresenceClient.Proofs.ConnectionFrames

namespace PresenceClient

/-! ## The history in a log -/

/-- What an effect does to the link: some link is opened, or there is none any more. -/
def Effect.relinks : Effect → List (Option Nat)
  | .openLink generation _ => [some generation]
  | .closeLink => [none]
  | _ => []

/-- What some effects do to the link, in order. -/
def relinked (log : List Effect) : List (Option Nat) := log.flatMap Effect.relinks

@[simp] theorem relinked_nil : relinked [] = [] := rfl

@[simp] theorem relinked_append (a b : List Effect) :
    relinked (a ++ b) = relinked a ++ relinked b := List.flatMap_append

/-- A link is in the history if it was opened. -/
theorem mem_relinked {log : List Effect} {link : Nat} :
    some link ∈ relinked log ↔ link ∈ opened log := by
  have hone : ∀ e : Effect, some link ∈ e.relinks ↔ link ∈ e.opens := by
    intro e
    cases e <;> simp [Effect.relinks, Effect.opens]
  simp only [relinked, opened, List.mem_flatMap, hone]

/-! ## Histories that fit a connection -/

/-- From the generation `n` to the generation `m`: each link that is given up brings the next
generation, and only then may a link be opened under it. -/
inductive Relinks : Nat → List (Option Nat) → Nat → Prop
  | rest {n : Nat} : Relinks n [] n
  | dropped {n m : Nat} {acts : List (Option Nat)} (h : Relinks (n + 1) acts m) :
      Relinks n (none :: acts) m
  | opened {n m : Nat} {acts : List (Option Nat)} (h : Relinks (n + 1) acts m) :
      Relinks n (none :: some (n + 1) :: acts) m

section Relinks

variable {n m k link : Nat} {a b acts : List (Option Nat)}

theorem relinks_append (ha : Relinks n a m) (hb : Relinks m b k) : Relinks n (a ++ b) k := by
  induction ha with
  | rest => exact hb
  | dropped _ ih => exact .dropped (ih hb)
  | opened _ ih => exact .opened (ih hb)

theorem Relinks.le (h : Relinks n acts m) : n ≤ m := by
  induction h with
  | rest => exact Nat.le_refl _
  | dropped _ ih => exact Nat.le_of_succ_le ih
  | opened _ ih => exact Nat.le_of_succ_le ih

/-- Whatever is done to the link brings a new generation. -/
theorem Relinks.lt (h : Relinks n acts m) (hne : acts ≠ []) : n < m := by
  cases h with
  | rest => exact absurd rfl hne
  | dropped h => exact h.le
  | opened h => exact h.le

/-- What comes after a link in the history starts from its generation. -/
theorem Relinks.after_link (h : Relinks n (a ++ some link :: b) m) :
    n < link ∧ Relinks link b m := by
  generalize hacts : a ++ some link :: b = acts at h
  induction h generalizing a with
  | rest => exact absurd hacts (by simp)
  | dropped h ih =>
    cases a with
    | nil => simp at hacts
    | cons first rest =>
      obtain ⟨hlt, hb⟩ := ih (List.cons.inj hacts).2
      exact ⟨Nat.lt_of_succ_lt hlt, hb⟩
  | opened h ih =>
    rcases a with _ | ⟨first, _ | ⟨second, rest⟩⟩
    · simp at hacts
    · obtain ⟨-, hlink, rfl⟩ : first = none ∧ link = _ ∧ b = _ := by simpa using hacts
      subst hlink
      exact ⟨Nat.lt_succ_self _, h⟩
    · obtain ⟨hlt, hb⟩ := ih (List.cons.inj (List.cons.inj hacts).2).2
      exact ⟨Nat.lt_of_succ_lt hlt, hb⟩

/-- A link that was given up is older than the generation that is reached. -/
theorem Relinks.outdated (h : Relinks n (a ++ some link :: b) m) (hb : b ≠ []) : link < m :=
  h.after_link.2.lt hb

/-- One generation more is a link given up, with or without another one in its place. -/
theorem Relinks.once (h : Relinks n acts (n + 1)) :
    acts = [none] ∨ acts = [none, some (n + 1)] := by
  have hend : ∀ {acts}, Relinks (n + 1) acts (n + 1) → acts = [] := fun h =>
    by_contra fun hne => Nat.lt_irrefl _ (h.lt hne)
  generalize hm : n + 1 = m at h
  cases h with
  | rest => exact absurd hm (Nat.succ_ne_self n)
  | dropped h =>
    rw [← hm] at h
    exact .inl (by rw [hend h])
  | opened h =>
    rw [← hm] at h
    exact .inr (by rw [hend h, hm])

end Relinks

end PresenceClient
