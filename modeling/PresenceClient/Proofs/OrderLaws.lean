-- The order of the operations on a channel. What is sent and what is still queued comes in
-- the order in which it was submitted, and nothing is queued on an attached channel of a live
-- link: a run keeps both until it gives up a detach while something is queued.
import Mathlib.Data.List.Induction
import PresenceClient.Proofs.WaitingLaws

namespace PresenceClient

/-- The tickets of the operations that an input submits to a channel. -/
def Input.submits (name : String) : Input → List Ticket
  | .command ticket (.channel other (.publish _ _ _)) => if other = name then [ticket] else []
  | _ => []

/-- The tickets of the operations that some inputs submit to a channel, in their order. -/
def submitted (name : String) (inputs : List Input) : List Ticket :=
  inputs.flatMap (Input.submits name)

theorem submitted_snoc (name : String) (inputs : List Input) (i : Input) :
    submitted name (inputs ++ [i]) = submitted name inputs ++ i.submits name := by
  simp [submitted]

namespace Client

open Channel (Core Cue)

variable {c : Client} {name : String}

/-! ## One step -/

theorem submitted_cue (c : Client) (name : String) (i : Input) :
    (c.cue name i).submitted = i.submits name := by
  unfold cue Input.submits
  split
  · split <;> simp_all [Cue.submitted]
  · split <;> simp [Cue.submitted]
  · simp [Cue.submitted]

/-- A step keeps the order: what was queued and what comes now is sent or queued after it,
and an attached channel of a live link stays drained. -/
theorem order_step (h : Sound c) (hk : (c.core name).Drained c.isConnected) (i : Input)
    (hg : c.undetaches name i = true → ((c.early i).value.core name).queue = []) :
    (firstSent name (c.step i).log ++ queueTickets ((c.step i).value.core name).queue).Sublist
        (queueTickets (c.core name).queue ++ i.submits name) ∧
      ((c.step i).value.core name).Drained (c.step i).value.isConnected := by
  obtain ⟨hearly, later, hlog, hlate⟩ := step_turns h name i
  have hdrained := Channel.drained_turn hearly hk fun he => absurd he (cue_ne_giveUp c name i)
  have h1 := Channel.order_turn hearly hk
  have h2 := Channel.order_turn hlate hdrained
  have hnone : ((c.early i).value.lateCue c.clock name i).submitted = [] := by
    rcases lateCue_cases (c.early i).value c.clock name i with hc | hc <;> rw [hc] <;> rfl
  rw [submitted_cue] at h1
  rw [hnone, List.append_nil] at h2
  refine ⟨?_, Channel.drained_turn hlate hdrained fun he => hg (lateCue_eq_giveUp.mp he)⟩
  rw [hlog, List.append_assoc]
  exact (h2.append_left _).trans h1

/-- A detach that is given up while something is queued leaves it behind on an attached
channel. -/
theorem undetached_step (h : Sound c) {i : Input} (hg : c.undetaches name i = true) :
    (c.step i).value.isConnected = true ∧
      (c.step i).value.core name = ((c.early i).value.core name).undetached := by
  obtain ⟨-, later, -, hlate⟩ := step_turns h name i
  rw [lateCue_eq_giveUp.mpr hg] at hlate
  obtain ⟨-, hup, -, hcore⟩ := Channel.giveUp_undetaches hlate
  exact ⟨hup, hcore⟩

/-! ## Runs -/

section Runs

variable {options : Options} {words : List UInt64} {inputs : List Input}

/-- Detaches of the channel are given up only while nothing is queued there. -/
def GivesUpDrained (options : Options) (words : List UInt64) (name : String)
    (inputs : List Input) : Prop :=
  ∀ first i, first ++ [i] <+: inputs →
    let c := ((fresh options words).run first).value
    c.undetaches name i = true → ((c.early i).value.core name).queue = []

/-- What was sent and what is still queued was submitted in that order. -/
theorem order_run (h : GivesUpDrained options words name inputs) :
    let r := (fresh options words).run inputs
    (firstSent name r.log ++ queueTickets (r.value.core name).queue).Sublist
        (submitted name inputs) ∧ (r.value.core name).Drained r.value.isConnected := by
  induction inputs using List.reverseRecOn with
  | nil => exact ⟨List.Sublist.refl [], fun hup => nomatch hup⟩
  | append_singleton first i ih =>
    obtain ⟨hsent, hdrained⟩ := ih fun p j hp => h p j (hp.trans (List.prefix_append first [i]))
    obtain ⟨hstep, hdrained'⟩ := order_step (sound_run (sound_fresh options words) first) hdrained i
      (h first i (List.prefix_refl _))
    simp only [run_snoc, Logged.value_bind, Logged.log_bind, firstSent_append, submitted_snoc]
    refine ⟨?_, hdrained'⟩
    rw [List.append_assoc]
    apply (hstep.append_left _).trans
    rw [← List.append_assoc]
    exact hsent.append_right _

end Runs

/-! ## The law -/

/-- What was sent on the channel was sent in the order in which it was submitted, and
nothing is queued while the channel is attached on a live link. -/
structure InOrder (name : String) (inputs : List Input) (r : Logged Client) : Prop where
  sent : (firstSent name r.log).Sublist (submitted name inputs)
  drained : r.value.isConnected = true → (r.value.channelOrNew name).state = .attached →
    (r.value.channelOrNew name).queue.entries = []

/-- A run is in order at all times if, and only if, no detach is given up while something is
queued. A channel that is then attached again, without a word of the server, keeps its queue,
and what is published next overtakes it. -/
theorem operations_keep_their_order_unless_a_detach_is_given_up_over_them (options : Options)
    (words : List UInt64) (name : String) (inputs : List Input) :
    (∀ first, first <+: inputs → InOrder name first ((fresh options words).run first)) ↔
      GivesUpDrained options words name inputs := by
  constructor
  · intro h first i hp c hg
    have hsound := sound_run (sound_fresh options words) first
    obtain ⟨hup, hcore⟩ := undetached_step hsound hg
    have hdrained := (h (first ++ [i]) hp).drained
    rw [run_snoc] at hdrained
    have hattached := congrArg Core.state hcore
    exact (congrArg Core.queue hcore).symm.trans (hdrained hup hattached)
  · intro h first hp
    obtain ⟨hsent, hdrained⟩ := order_run fun p i hpi => h p i (hpi.trans hp)
    exact ⟨(List.sublist_append_left _ _).trans hsent, hdrained⟩

/-- A caller enters a channel and leaves it before the server has attached it. The server
does not answer the detach either. -/
def unansweredDetach : List Input :=
  [.command 0 .connect, .link 1 (.message { action := Message.Action.connected.code }),
    .command 1 (.channel "room" (.publish .enter none .null)),
    .command 2 (.channel "room" .detach), .clock (Duration.ofSeconds 10), .timers]

/-- The next operation overtakes the one that the detach has left in the queue, which goes
out when the server attaches the channel after all. -/
theorem an_operation_overtakes_one_left_by_a_detach :
    let run := (fresh { key := some "app.key:secret", clientId := some "ann" } []).run
    let late := unansweredDetach ++ [.command 3 (.channel "room" (.publish .update none .null)),
      .link 1 (.message { action := Message.Action.attached.code, channel := some "room" })]
    ¬InOrder "room" unansweredDetach (run unansweredDetach) ∧ ¬InOrder "room" late (run late) ∧
      submitted "room" late = [1, 3] ∧ firstSent "room" (run late).log = [3, 1] := by
  refine ⟨fun h => ?_, fun h => ?_, rfl, rfl⟩
  · have hdrained := h.drained rfl rfl
    cases hdrained
  · have hsent : [3, 1].Sublist [1, 3] := h.sent
    revert hsent
    decide

end Client

end PresenceClient
