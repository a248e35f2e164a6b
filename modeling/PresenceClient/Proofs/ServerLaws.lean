-- The word of the server. A channel is attached because the server has attached it since the
-- channel was last out of use, and so a sync has begun there: a run keeps both until it gives
-- up a detach of a channel that the server has never attached.
import Mathlib.Data.List.Induction
import PresenceClient.Proofs.OrderLaws

namespace PresenceClient.Client

open Channel (Core Cue)

/-! ## The server's word -/

/-- In a run, the server has attached the channel, and the channel was never initialized,
detached or failed after that. -/
inductive AttachedSince (options : Options) (words : List UInt64) (name : String) :
    List Input → Prop
  | now {first : List Input} {i : Input}
      (h : ((fresh options words).run first).value.hearsAttached name i = true) :
      AttachedSince options words name (first ++ [i])
  | still {first : List Input} {i : Input} (h : AttachedSince options words name first)
      (hs : (((fresh options words).run (first ++ [i])).value.core name).state.isResting = false) :
      AttachedSince options words name (first ++ [i])

section Runs

variable {options : Options} {words : List UInt64} {name : String} {first inputs : List Input}
  {i : Input}

theorem attachedSince_snoc (h : AttachedSince options words name (first ++ [i])) :
    ((fresh options words).run first).value.hearsAttached name i = true ∨
      AttachedSince options words name first ∧
        (((fresh options words).run (first ++ [i])).value.core name).state.isResting = false := by
  generalize hall : first ++ [i] = all at h
  cases h with
  | now h =>
    obtain ⟨rfl, hi⟩ := List.append_inj' hall rfl
    cases hi
    exact .inl h
  | still h hs =>
    obtain ⟨rfl, hi⟩ := List.append_inj' hall rfl
    cases hi
    exact .inr ⟨h, hs⟩

theorem not_attachedSince_nil : ¬AttachedSince options words name [] := by
  intro h
  generalize hall : [] = all at h
  cases h with
  | now h => simp at hall
  | still h hs => simp at hall

/-- The word of the server is among the inputs. -/
theorem attachedSince_told (h : AttachedSince options words name inputs) :
    ∃ generation m, .link generation (.message m) ∈ inputs ∧
      Message.Action.ofCode? m.action = some .attached ∧ m.channel = some name := by
  induction h with
  | @now first i h =>
    unfold hearsAttached at h
    split at h
    · rename_i generation m
      simp only [takesAttached, Bool.and_eq_true, beq_iff_eq] at h
      exact ⟨generation, m, by simp, h.2.1⟩
    · cases h
  | still _ _ ih =>
    obtain ⟨generation, m, hmem, hm⟩ := ih
    exact ⟨generation, m, List.mem_append_left _ hmem, hm⟩

/-! ## One step -/

/-- After a step, a sync has begun if the server attaches the channel now, or it had begun
before and the channel is still in use. -/
theorem sync_step {c : Client} (h : Sound c) (hk : (c.core name).Synced) (i : Input)
    (hg : c.undetaches name i = true → (c.core name).sync ≠ .notStarted) :
    let k := (c.step i).value.core name
    k.Synced ∧ (k.sync ≠ .notStarted ↔ c.hearsAttached name i = true ∨
      (c.core name).sync ≠ .notStarted ∧ k.state.isResting = false) := by
  intro k
  obtain ⟨hearly, later, -, hlate⟩ := step_turns h name i
  have hs1 := Channel.synced_turn hearly hk fun he => absurd he (cue_ne_giveUp c name i)
  have hcue := lateCue_cases (c.early i).value c.clock name i
  have hrest : k.state.isResting = ((c.early i).value.core name).state.isResting :=
    Channel.timer_rests hlate hcue
  have hs2 : k.Synced := by
    apply Channel.synced_turn hlate hs1
    intro he
    rw [he] at hlate
    apply Channel.sync_stays hearly (hg (lateCue_eq_giveUp.mp he))
    rw [(Channel.giveUp_undetaches hlate).1]
    rfl
  refine ⟨hs2, fun hsync => ?_, ?_⟩
  · rcases Channel.sync_begins hlate hs1 hsync with he | h1
    · rcases hcue with hc | hc <;> cases hc.symm.trans he
    rcases Channel.sync_begins hearly hk h1 with he | h0
    · exact .inl (cue_eq_attached.mp he)
    · exact .inr ⟨h0, Bool.eq_false_of_not_eq_true fun hr => hsync (hs2.resting hr)⟩
  · rintro (hears | ⟨h0, hr⟩)
    · rw [cue_eq_attached.mpr hears] at hearly
      have h1 := Channel.served_syncs hearly
      have hr1 := Bool.eq_false_of_not_eq_true fun hr => h1 (hs1.resting hr)
      exact Channel.sync_stays hlate h1 (hrest.trans hr1)
    · exact Channel.sync_stays hlate (Channel.sync_stays hearly h0 (hrest.symm.trans hr)) hr

/-! ## Runs -/

/-- Detaches of the channel are given up only where the server has attached it. -/
def GivesUpAttached (options : Options) (words : List UInt64) (name : String)
    (inputs : List Input) : Prop :=
  ∀ first i, first ++ [i] <+: inputs →
    ((fresh options words).run first).value.undetaches name i = true →
      AttachedSince options words name first

/-- A sync has begun on the channel exactly if the server has attached it. -/
theorem sync_run (h : GivesUpAttached options words name inputs) :
    let k := ((fresh options words).run inputs).value.core name
    k.Synced ∧ (k.sync ≠ .notStarted ↔ AttachedSince options words name inputs) := by
  induction inputs using List.reverseRecOn with
  | nil =>
    have hcore : ((fresh options words).run []).value.core name = {} :=
      core_fresh options words name
    rw [hcore]
    exact ⟨Channel.synced_fresh, fun hs => absurd rfl hs, fun ha => absurd ha not_attachedSince_nil⟩
  | append_singleton first i ih =>
    obtain ⟨hsynced, hsince⟩ := ih fun p j hp => h p j (hp.trans (List.prefix_append first [i]))
    obtain ⟨hsynced', hstep⟩ := sync_step (sound_run (sound_fresh options words) first) hsynced i
      fun hg => hsince.mpr (h first i (List.prefix_refl _) hg)
    intro k
    have hk : (((fresh options words).run first).value.step i).value.core name = k := by
      simp only [k, run_snoc, Logged.value_bind]
    rw [hk] at hsynced' hstep
    refine ⟨hsynced', fun hs => ?_, fun ha => ?_⟩
    · rcases hstep.mp hs with hears | ⟨h0, hr⟩
      · exact .now hears
      · exact .still (hsince.mp h0) hr
    · rcases attachedSince_snoc ha with hears | ⟨h0, hr⟩
      · exact hstep.mpr (.inl hears)
      · exact hstep.mpr (.inr ⟨hsince.mpr h0, hr⟩)

end Runs

/-! ## The law -/

/-- In a run, a channel is at all times attached only because the server has attached it, with
a sync that has begun, if and only if no detach of a channel is given up that the server has
never attached. Giving it up calls the channel attached all the same. -/
theorem a_channel_is_attached_by_the_server_unless_a_detach_is_given_up (options : Options)
    (words : List UInt64) (name : String) (inputs : List Input) :
    (∀ first, first <+: inputs →
      let ch := ((fresh options words).run first).value.channelOrNew name
      ch.state = .attached →
        AttachedSince options words name first ∧ ch.roster.sync ≠ .notStarted) ↔
      GivesUpAttached options words name inputs := by
  constructor
  · intro h first i hp hg
    have hsound := sound_run (sound_fresh options words) first
    obtain ⟨hup, hcore⟩ := undetached_step hsound hg
    have hlaw := h (first ++ [i]) hp
    rw [run_snoc] at hlaw
    rcases attachedSince_snoc (hlaw (congrArg Core.state hcore)).1 with hears | ⟨hsince, -⟩
    · -- Timers fire on their own, not with the word of the server.
      cases i with
      | timers => cases hears
      | _ => cases hg
    · exact hsince
  · intro h first hp ch hs
    obtain ⟨hsynced, hsince⟩ := sync_run fun p i hpi => h p i (hpi.trans hp)
    have hsync := hsynced.attached hs
    exact ⟨hsince.mp hsync, hsync⟩

/-- The server has not answered at all, and the channel is attached. -/
theorem a_channel_is_attached_without_the_server :
    let options : Options := { key := some "app.key:secret", clientId := some "ann" }
    let ch := ((fresh options []).run unansweredDetach).value.channelOrNew "room"
    ch.state = .attached ∧ ch.roster.sync = .notStarted ∧
      ¬AttachedSince options [] "room" unansweredDetach := by
  refine ⟨rfl, rfl, fun h => ?_⟩
  obtain ⟨generation, m, hmem, haction, -⟩ := attachedSince_told h
  simp only [unansweredDetach, List.mem_cons, Input.link.injEq, LinkEvent.message.injEq,
    reduceCtorEq, false_or, or_false, List.not_mem_nil] at hmem
  rw [hmem.2] at haction
  cases haction

end PresenceClient.Client
