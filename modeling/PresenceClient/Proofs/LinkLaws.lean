-- The law of old links. A link that is given up is never heard again, whatever still comes from
-- it and when: each link that is given up brings a new generation, and generations only grow.
import PresenceClient.Proofs.ConnectionRuns
import PresenceClient.Proofs.StepReach

namespace PresenceClient

open Connection (Cue Turn)

/-! ## Generations only grow -/

namespace Connection

variable {timing : Timing} {now : Instant} {cue : Cue} {k k' : Connection} {opens : List Nat}

theorem generation_turn (h : Turn timing now cue k opens k') : k.generation ≤ k'.generation := by
  obtain ⟨-, -, -, -, -, hstirred⟩ := stirred_fields k timing now
  cases h with
  | rest => exact Nat.le_refl _
  | stirred => exact Nat.le_of_eq hstirred.symm
  | greeted m hs =>
    have h : (k.greeted timing now m).generation = _ := (stirred_fields _ timing now).2.2.2.2.2
    exact Nat.le_of_eq h.symm
  | closing hs => exact Nat.le_refl _
  | closeRefused hs => exact Nat.le_succ_of_le (Nat.le_of_eq hstirred.symm)
  | _ => exact Nat.le_succ _

end Connection

/-- Does an input come from a link? -/
def Input.isFrom (link : Nat) : Input → Bool
  | .link generation _ => generation == link
  | _ => false

namespace Client

variable {c : Client} {i : Input} {link : Nat}

theorem timed_step (h : c.connection.Timed) (i : Input) : (c.step i).value.connection.Timed := by
  have hafter : (c.step i).value.session.Timed :=
    Connection.timed_turn (step_turn h i).2 (show c.session.Timed from h)
  exact hafter

theorem generation_step (h : c.connection.Timed) (i : Input) :
    c.connection.generation ≤ (c.step i).value.connection.generation := by
  have hgrown : c.session.generation ≤ (c.step i).value.session.generation :=
    Connection.generation_turn (step_turn h i).2
  exact hgrown

theorem generation_run (h : c.connection.Timed) (inputs : List Input) :
    c.connection.generation ≤ (c.run inputs).value.connection.generation := by
  have hkept := run_keeps (P := fun d => d.connection.Timed ∧
    c.connection.generation ≤ d.connection.generation) (fun d i hd =>
      ⟨timed_step hd.1 i, hd.2.trans (generation_step hd.1 i)⟩) ⟨h, Nat.le_refl _⟩ inputs
  exact hkept.2

/-! ## Links that are given up -/

/-- A link is heard no more: at any later time, what it reports changes nothing and has no
effects. So it makes no difference whether and when any of that comes. -/
structure Inert (c : Client) (link : Nat) : Prop where
  still : ∀ later event, (c.run later).value.step (.link link event) = pure (c.run later).value
  unheard : ∀ later, c.run later = c.run (later.filter fun i => !i.isFrom link)

/-- A step that does nothing may be left out. -/
theorem run_cons_of_pure (h : c.step i = pure c) (rest : List Input) :
    c.run (i :: rest) = c.run rest := by
  rw [run_cons, h, pure_bind]

/-- What comes from a link of an older generation is dropped, now and ever after. -/
theorem inert_of_older (ht : c.connection.Timed) (h : link < c.connection.generation) :
    Inert c link := by
  constructor
  · intro later event
    have hgrown := generation_run ht later
    exact step_of_older_link (by omega) event
  · intro later
    induction later generalizing c with
    | nil => rfl
    | cons i rest ih =>
      have hnext : link < (c.step i).value.connection.generation :=
        Nat.lt_of_lt_of_le h (generation_step ht i)
      cases hi : i.isFrom link with
      | true =>
        have hpure : c.step i = pure c := by
          unfold Input.isFrom at hi
          split at hi
          · exact step_of_older_link (by rw [beq_iff_eq.mp hi]; omega) _
          · cases hi
        rw [run_cons_of_pure hpure, List.filter_cons_of_neg (by simp [hi])]
        exact ih ht h
      | false =>
        rw [List.filter_cons_of_pos (by simp [hi]), run_cons, run_cons]
        have hrest := ih (timed_step ht i) hnext
        ext <;> simp only [Logged.value_bind, Logged.log_bind, hrest]

/-- In every run, a link that was given up is never heard again, whatever has come in its place
since. Only the end of the client is left out: it gives up the link as well, but then nobody is
there to hear of it. And while the connection is not live, all links there ever were are unheard. -/
theorem a_link_given_up_is_never_heard_again (options : Options) (words : List UInt64)
    (inputs : List Input) :
    let r := (fresh options words).run inputs
    (.shutdown ∉ inputs → ∀ link before after, relinked r.log = before ++ some link :: after →
        after ≠ [] → Inert r.value link) ∧
      (r.value.connection.state.isLive = false → ∀ link, some link ∈ relinked r.log →
        Inert r.value link) := by
  intro r
  have htimed : r.value.connection.Timed := (timed_run options words inputs).2
  constructor
  · intro hend link before after hlog hafter
    have hlinks : Relinks 0 (relinked r.log) r.value.connection.generation :=
      relinks_run (fresh options words) hend
    rw [hlog] at hlinks
    exact inert_of_older htimed (hlinks.outdated hafter)
  · intro hdown link hmem
    obtain ⟨hle, hlive⟩ := linked_run options words inputs link (mem_relinked.mp hmem)
    refine inert_of_older htimed (Nat.lt_of_le_of_ne hle fun he => ?_)
    have hstill : r.value.connection.state.isLive = true := hlive he
    exact Bool.false_ne_true (hdown.symm.trans hstill)

/-- The first link is lost and the second one is up, when the first one reports once more. -/
theorem a_lost_link_is_not_heard_on_the_next :
    let inputs := greeting ++ [.link 1 (.ended none), .command 2 .connect,
      .link 3 (.message { action := Message.Action.connected.code })]
    let r := (fresh keyOptions []).run inputs
    relinked r.log = [none] ++ some 1 :: [none, none, some 3] ∧
      r.value.connection.state = .connected ∧
      r.value.step (.link 1 (.message { action := Message.Action.closed.code })) =
        pure r.value := by
  intro inputs r
  have hlog : relinked r.log = [none] ++ some 1 :: [none, none, some 3] := by decide +kernel
  have hlaw := a_link_given_up_is_never_heard_again keyOptions [] inputs
  have hinert := hlaw.1 (by decide) 1 _ _ hlog (by simp)
  exact ⟨hlog, rfl, hinert.still [] _⟩

end Client

end PresenceClient
