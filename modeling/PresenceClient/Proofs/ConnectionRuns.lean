-- The runs of a client that hears own links only: wherever one has brought the connection, the
-- timer that runs is that of its state, and what it counts and keeps is right for the state.
import Mathlib.Data.List.Induction
import PresenceClient.Proofs.StepOutcomes
import PresenceClient.Proofs.WaitingLaws

namespace PresenceClient.Client

/-! ## Runs -/

theorem opened_run_snoc (c : Client) (first : List Input) (i : Input) :
    opened (c.run (first ++ [i])).log =
      opened (c.run first).log ++ opened ((c.run first).value.step i).log := by
  rw [run_snoc, Logged.log_bind, opened_append]

/-- The options of a client never change, and the timer that runs is that of the state. -/
theorem timed_run (options : Options) (words : List UInt64) (inputs : List Input) :
    let c := ((fresh options words).run inputs).value
    c.options = options ∧ c.connection.Timed := by
  refine run_keeps (P := fun c => c.options = options ∧ c.connection.Timed) ?_
    (c := fresh options words) ⟨rfl, rfl⟩ inputs
  intro c i ⟨ho, htimed⟩
  obtain ⟨ho', hturn⟩ := step_turn htimed i
  have hafter : (c.step i).value.session.Timed :=
    Connection.timed_turn hturn (show c.session.Timed from htimed)
  exact ⟨ho'.trans ho, hafter⟩

/-- In a run, nothing comes from a link that the client has not opened before. -/
def HearsOwnLinks (options : Options) (words : List UInt64) (inputs : List Input) : Prop :=
  ∀ first generation event, first ++ [.link generation event] <+: inputs →
    generation ∈ opened ((fresh options words).run first).log

section Runs

variable {options : Options} {words : List UInt64} {inputs first : List Input} {i : Input}

theorem HearsOwnLinks.before {later : List Input}
    (h : HearsOwnLinks options words (first ++ later)) :
    HearsOwnLinks options words first := fun p generation event hp =>
  h p generation event (hp.trans (List.prefix_append first later))

theorem hearsOwnLinks_snoc (h : HearsOwnLinks options words first)
    (hi : ∀ generation event, i = .link generation event →
      generation ∈ opened ((fresh options words).run first).log) :
    HearsOwnLinks options words (first ++ [i]) := by
  intro p generation event hp
  rcases List.prefix_concat_iff.mp hp with he | hp
  · obtain ⟨rfl, hlast⟩ := List.append_inj' he rfl
    exact hi generation event (List.cons.inj hlast).1.symm
  · exact h p generation event hp

/-- A run may go on with what links report that were opened on the way. -/
theorem hearsOwnLinks_append {later : List Input} (h : HearsOwnLinks options words first)
    (hlater : ∀ generation event, .link generation event ∈ later →
      generation ∈ opened ((fresh options words).run first).log) :
    HearsOwnLinks options words (first ++ later) := by
  induction later using List.reverseRecOn with
  | nil => rwa [List.append_nil]
  | append_singleton rest i ih =>
    rw [← List.append_assoc]
    refine hearsOwnLinks_snoc (ih fun generation event hmem =>
      hlater generation event (List.mem_append_left _ hmem)) fun generation event hi => ?_
    rw [run_append, Logged.log_bind, opened_append]
    exact List.mem_append_left _ (hlater generation event (by simp [hi]))

/-- In every run, a link that was opened and is still listened to is one that the connection has
use for. -/
theorem linked_run (options : Options) (words : List UInt64) (inputs : List Input) :
    let r := (fresh options words).run inputs
    r.value.session.Linked (opened r.log) := by
  induction inputs using List.reverseRecOn with
  | nil => exact Connection.linked_nil _
  | append_singleton first i ih =>
    intro r
    have hlog : opened r.log = _ := opened_run_snoc (fresh options words) first i
    have hvalue : r.value = (((fresh options words).run first).value.step i).value := by
      simp only [r, run_snoc, Logged.value_bind]
    rw [hlog, hvalue]
    exact Connection.linked_turn (step_turn (timed_run options words first).2 i).2 ih

/-- In a run that hears own links only, what is heard comes while the connection is live. -/
theorem settled_run (h : HearsOwnLinks options words inputs) :
    ((fresh options words).run inputs).value.session.Settled options.timing.maxAttempts := by
  induction inputs using List.reverseRecOn with
  | nil => exact ⟨rfl, nofun, nofun, nofun, fun _ => ⟨rfl, rfl, rfl⟩⟩
  | append_singleton first i ih =>
    have hsettled := ih h.before
    have hlinked := linked_run options words first
    obtain ⟨ho, htimed⟩ := timed_run options words first
    have hown : ∀ generation event, i = .link generation event →
        generation ∈ opened ((fresh options words).run first).log := fun generation event hi =>
      h first generation event (hi ▸ List.prefix_refl _)
    rw [run_snoc, Logged.value_bind]
    generalize (fresh options words).run first = before at hsettled hlinked ho htimed hown
    obtain ⟨-, hturn⟩ := step_turn htimed i
    rw [ho] at hturn
    -- What comes from an older link is dropped, so only the live link is heard.
    by_cases hold : ∃ generation event, i = .link generation event ∧
        generation ≠ before.value.connection.generation
    · obtain ⟨generation, event, rfl, hne⟩ := hold
      rw [step_of_older_link hne]
      exact hsettled
    · refine Connection.settled_turn hturn hsettled fun hcue => ?_
      cases i with
      | link generation event =>
        refine (hlinked generation (hown generation event rfl)).2 ?_
        exact by_contra fun hne => hold ⟨generation, event, rfl, hne⟩
      | _ => cases hcue

end Runs

/-! ## Runs that go on from a greeting -/

def keyOptions : Options := { key := some "app.key:secret" }

/-- The client has connected, and the server has greeted. -/
def greeting : List Input :=
  [.command 0 .connect] ++ [.link 1 (.message { action := Message.Action.connected.code })]

/-- After the greeting, the one link that was opened may report what it will. -/
theorem hearsOwnLinks_greeting {later : List Input}
    (h : ∀ generation event, .link generation event ∈ later → generation = 1) :
    HearsOwnLinks keyOptions [] (greeting ++ later) := by
  have hnone : HearsOwnLinks keyOptions [] [] := fun first _ _ hp => by simp at hp
  have hasked : HearsOwnLinks keyOptions [] ([] ++ [.command 0 .connect]) :=
    hearsOwnLinks_snoc hnone fun _ _ he => nomatch he
  have hopened : opened ((fresh keyOptions []).run [.command 0 .connect]).log = [1] := rfl
  have hgreeting : HearsOwnLinks keyOptions [] greeting := by
    refine hearsOwnLinks_snoc hasked fun _ _ he => ?_
    cases he
    exact hopened ▸ List.mem_singleton.mpr rfl
  have hstill : opened ((fresh keyOptions []).run greeting).log = [1] := rfl
  refine hearsOwnLinks_append hgreeting fun generation event hmem => ?_
  rw [hstill, h generation event hmem]
  exact List.mem_singleton.mpr rfl

end PresenceClient.Client
