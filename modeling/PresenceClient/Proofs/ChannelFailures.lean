-- The law of failing channels: an error that is fatal to a channel reaches all who wait for
-- something there, and nobody else. Nothing is filed for a channel that has failed or is gone.
import PresenceClient.Proofs.FailingSteps
import PresenceClient.Proofs.LiveLinkLaws
import PresenceClient.Proofs.SerialLaws

namespace PresenceClient.Client

open Unacked (under mem_resent)

/-! ## A channel fails -/

/-- The channel of a name has failed with an error, and with it all that waited there. -/
structure FailsChannel (error : ErrorInfo) (name : String) (c : Client) (r : Logged Client) :
    Prop where
  channel : ∃ ch, r.value.channel? name = some ch ∧ ch.state = .failed ∧
    ch.errorReason = some error ∧ ch.roster = {} ∧ ch.core.Idle
  /-- Each operation that waits on the channel or is filed for it is answered once, and no
  other. -/
  answered : answered r.log = (c.core name).parked ++
    pendingTickets ⟨c.pending.picked (Pending.onChannel name)⟩
  blamed : Blames error r.log
  /-- What is filed for other channels stays, in its order. -/
  pending : r.value.pending.entries =
    c.pending.entries.filter fun u => !Pending.onChannel name u
  others : ∀ other, other ≠ name → r.value.channel? other = c.channel? other

section Failing

variable {c d : Client} {m : Message} {error : ErrorInfo} {name : String} {ch : Channel}
  {r : Logged Client}

theorem FailsChannel.of_same (h : FailsChannel error name d r) (hc : d.channels = c.channels)
    (hp : d.pending = c.pending) : FailsChannel error name c r := by
  obtain ⟨hchannel, hanswered, hblamed, hpending, hothers⟩ := h
  rw [core_of_channels hc, hp] at hanswered
  rw [hp] at hpending
  exact ⟨hchannel, hanswered, hblamed, hpending, fun other hne =>
    (hothers other hne).trans (channel?_of_channels hc other)⟩

theorem failsChannel_failChannel (hch : c.channel? name = some ch) (hs : ch.state ≠ .failed)
    (error : ErrorInfo) : FailsChannel error name c (c.failChannel name error) := by
  have hcan : { ch with timer := none, serial := none }.state.canBecome .failed = true := by
    simpa [Channel.State.canBecome] using hs
  have hblamed : Blames error (c.failChannel name error).log := blames_failChannel
  revert hblamed
  refine failChannel_cases (fun hidle => absurd (hidle ch hch) hs) fun ch' hch' _ hblamed => ?_
  cases hch.symm.trans hch'
  refine ⟨⟨_, channel?_setChannel_self c name _, ?_⟩, ?_, hblamed, rfl, fun other hne =>
    channel?_setChannel_ne c name _ hne⟩
  · unfold toFailed
    rw [Logged.value_bind, Channel.become_of_canBecome _ hcan]
    exact ⟨rfl, rfl, rfl, rfl, rfl, rfl, rfl⟩
  · have hfiled : ∀ d : Client, answered (d.failPendingOf name error).log =
        pendingTickets ⟨d.pending.picked (Pending.onChannel name)⟩ := fun d => by
      simp [failPendingOf, Pending.failChannel, Pending.settle, pendingTickets,
        answered_resolveEach]
    rw [Logged.log_bind, answered_append, (ch.toFailed_spec error).2.1, hfiled,
      core_of_some hch]
    rfl

/-- A message that is fatal to a channel fails it. -/
theorem onMessage_of_channelFatal (hm : m.channel = some name) (he : ch.fatalError m = some error)
    (hch : c.channel? name = some ch) :
    c.onMessage m = c.resetIdleTimer.failChannel name error ∧ ch.state ≠ .failed := by
  have hch' : c.resetIdleTimer.channel? name = some ch :=
    (channel?_of_channels (resetIdleTimer_same c).1 name).trans hch
  have hdetached : Message.Action.ofCode? m.action = some .detached →
      ch.state = .attaching ∨ ch.state = .attached →
        (m.error.filter fun error => !error.isRetriable) = some error →
          c.onMessage m = c.resetIdleTimer.failChannel name error := fun ha hs he => by
    obtain ⟨he, hfatal⟩ := Option.filter_eq_some_iff.mp he
    rw [onMessage_of_detached ha]
    exact onDetached_of_fatal hm hch' hs he (by simpa using hfatal)
  unfold Channel.fatalError at he
  split at he
  · cases he
  · rename_i ha hs
    cases he
    rw [onMessage_of_error ha]
    refine ⟨onError_cases (fun name' hm' => ?_) fun hnone => ?_, hs⟩
    · cases hm.symm.trans hm'
      rfl
    · exact absurd (hm.symm.trans hnone) nofun
  · rename_i ha hs
    exact ⟨hdetached ha (.inr hs) he, by simp [hs]⟩
  · rename_i ha hs
    exact ⟨hdetached ha (.inl hs) he, by simp [hs]⟩
  · cases he

/-- So does an input that brings it. -/
theorem failsChannel_step {i : Input} (he : c.fatalErrorOf name i = some error) :
    FailsChannel error name c (c.step i) := by
  unfold fatalErrorOf at he
  split at he
  · rename_i generation m
    split at he
    · rename_i hinUse
      obtain ⟨ch, hch, he⟩ := Option.bind_eq_some_iff.mp he
      obtain ⟨hstep, hs⟩ := onMessage_of_channelFatal hinUse.2 he hch
      obtain ⟨hchannels, hpending, -⟩ := resetIdleTimer_same c
      rw [hinUse.1, step_of_link, hstep]
      refine FailsChannel.of_same (failsChannel_failChannel ?_ hs error) hchannels hpending
      exact (channel?_of_channels hchannels name).trans hch
    · cases he
  · cases he

end Failing

/-! ## What is filed -/

/-- Nothing is filed for a channel that has failed. -/
def Unfailed (c : Client) : Prop :=
  ∀ u ∈ c.pending.entries, ∀ name, u.message.channel = some name → (c.core name).state ≠ .failed

/-- What is filed is sent, for the first time or again. -/
theorem sent_of_mem_filed {log : List Effect} {u : Unacked} (h : u ∈ filed log) :
    .send u.message (.first u.responder) ∈ log ∨ u.again ∈ log := by
  obtain ⟨effect, hmem, hu⟩ := List.mem_flatMap.mp h
  unfold Effect.filed at hu
  split at hu
  · obtain ⟨serial, -, rfl⟩ := List.mem_map.mp hu
    exact .inl hmem
  · obtain ⟨serial, -, rfl⟩ := List.mem_map.mp hu
    exact .inr hmem
  · exact absurd hu List.not_mem_nil

section Filed

variable {asked : String → PendingGet → Prop} {may : Effect → Prop} {c d : Client} {i : Input}
  {m : Message} {error : ErrorInfo} {name : String} {r : Logged Client}

theorem Unfailed.of_same (h : Unfailed c) (hc : d.channels = c.channels)
    (hp : d.pending = c.pending) : Unfailed d := by
  intro u hmem name hm
  rw [hp] at hmem
  rw [core_of_channels hc]
  exact h u hmem name hm

/-- Where no channel fails, what is filed for none that has failed stays so, and what is filed
now is filed for a channel that is attached. -/
theorem unfailed_posts (hu : Unfailed c) (hnone : FailsNone c r) (h : Posts asked may c r)
    (hagain : ∀ effect, may effect → ∀ u : Unacked, effect ≠ u.again)
    (hfirst : ∀ m responder, may (.send m (.first responder)) →
      ∃ name, Speaks asked name r.value (.send m (.first responder))) : Unfailed r.value := by
  intro u hmem name hm hfailed
  rcases List.mem_append.mp (h.pending.subset hmem) with hold | hnew
  · exact hu u hold name hm (hnone name hfailed)
  · rcases sent_of_mem_filed hnew with hsent | hsent
    · rcases h.within _ hsent with hplain | hsaid
      · exact hplain
      · obtain ⟨home, hspeaks⟩ := hfirst _ _ hsaid
        obtain ⟨hs, hhome⟩ := hspeaks.attached_of_first
        cases hm.symm.trans hhome
        exact nomatch hs.symm.trans hfailed
    · exact h.again_not_mem hagain u hsent

theorem Uttered.speaks_first {responder : Responder}
    (h : Uttered asked c i d (.send m (.first responder))) :
    ∃ name, Speaks asked name d (.send m (.first responder)) := by
  cases h with
  | news hnews => exact hnews.elim
  | speaks hs => exact ⟨_, hs⟩

/-- What is sent again on a new link is filed for the channel that it was filed for. -/
theorem unfailed_greeted {news : List Effect} {up : Client} {visits : Logged Client}
    (hu : Unfailed c) (hnone : FailsNone c r) (h : Greeted asked c m r news up visits) :
    Unfailed r.value := by
  have hup : Unfailed up := by
    intro u hmem name hm
    rw [h.pending] at hmem
    obtain ⟨old, hold, serial, rfl⟩ := mem_resent hmem
    rw [core_of_channels h.channels]
    exact hu old hold name hm
  unfold FailsNone at hnone
  rw [h.value] at hnone ⊢
  refine unfailed_posts hup (failsNone_from h.channels.symm hnone) h.visits ?_ ?_
  · exact fun effect ⟨name, hs⟩ u => hs.ne_again u
  · exact fun _ _ hs => hs

theorem unfailed_failsChannel (hu : Unfailed c) (h : FailsChannel error name c r) :
    Unfailed r.value := by
  intro u hmem home hm
  rw [h.pending] at hmem
  obtain ⟨hold, haway⟩ := List.mem_filter.mp hmem
  have hne : home ≠ name := by
    rintro rfl
    simp [Pending.onChannel, hm] at haway
  rw [core_congr (h.others home hne)]
  exact hu u hold home hm

/-- A connection that fails leaves nothing filed. -/
theorem unfailed_failConnection (ho : c.channels.Ordered) (hu : Unfailed c) (e : ErrorInfo) :
    Unfailed (c.failConnection e).value := by
  cases hs : c.connection.state.canBecome .failed with
  | true =>
    intro u hmem
    rw [(failConnection_down ho hs).1] at hmem
    exact absurd hmem List.not_mem_nil
  | false =>
    exact failConnection_cases (fun hcan => absurd (hs.symm.trans hcan) nofun) fun _ => hu

theorem unfailed_step (hs : Sound c) {inputs : List Input} (hk : c.Kept (Asked inputs))
    (hu : Unfailed c) (i : Input) : Unfailed (c.step i).value := by
  cases hconnection : c.fatalError i with
  | some error =>
    unfold fatalError at hconnection
    split at hconnection
    · rename_i generation m
      split at hconnection
      · rename_i hinUse
        obtain ⟨hchannels, hpending, -⟩ := resetIdleTimer_same c
        rw [hinUse, step_of_link, onMessage_of_fatalError hconnection]
        exact unfailed_failConnection (hchannels ▸ hs.ordered) (hu.of_same hchannels hpending)
          error
      · cases hconnection
    · cases hconnection
  | none =>
    by_cases hchannel : ∃ name error, c.fatalErrorOf name i = some error
    · obtain ⟨name, error, he⟩ := hchannel
      exact unfailed_failsChannel hu (failsChannel_step he)
    · have hnone : FailsNone c (c.step i) := failsNone_step hs hconnection fun name =>
        Option.eq_none_iff_forall_ne_some.mpr fun error he => hchannel ⟨name, error, he⟩
      rcases step_posts hs hk i with ⟨-, h⟩ | ⟨m, news, up, visits, -, h⟩
      · exact unfailed_posts hu hnone h (fun effect he u => he.ne_again u)
          fun _ _ he => he.speaks_first
      · exact unfailed_greeted hu hnone h

/-- In every run, what is filed is filed for a channel that is there and has not failed. -/
theorem unfailed_run (options : Options) (words : List UInt64) (inputs : List Input) :
    Unfailed ((fresh options words).run inputs).value := by
  induction inputs using List.reverseRecOn with
  | nil => exact fun u hmem => absurd hmem List.not_mem_nil
  | append_singleton first i ih =>
    rw [run_snoc, Logged.value_bind]
    exact unfailed_step (sound_run (sound_fresh options words) first)
      (kept_run options words first) ih i

end Filed

/-! ## The law -/

/-- Wherever a run has brought the client, an error that is fatal to a channel fails that channel
with all that waits there, and nothing is filed for a channel that has failed or is gone. -/
theorem a_fatal_error_reaches_just_its_channel (options : Options) (words : List UInt64)
    (inputs : List Input) :
    let c := ((fresh options words).run inputs).value
    (∀ name i error, c.fatalErrorOf name i = some error → FailsChannel error name c (c.step i)) ∧
      ∀ u ∈ c.pending.entries, ∃ name ch, u.message.channel = some name ∧
        c.channel? name = some ch ∧ ch.state ≠ .failed := by
  intro c
  refine ⟨fun name i error he => failsChannel_step he, fun u hmem => ?_⟩
  obtain ⟨name, hm, hsome⟩ := (kept_run options words inputs).homed u hmem
  obtain ⟨ch, hch⟩ := Option.isSome_iff_exists.mp hsome
  refine ⟨name, ch, hm.2, hch, fun hs => ?_⟩
  refine unfailed_run options words inputs u hmem name hm.2 ?_
  rw [core_of_some hch]
  exact hs

/-- An error of the hall, where bob has entered and is not acknowledged, leaves those alone who
wait for the room. -/
theorem an_error_of_the_hall_spares_the_room :
    let c := ((fresh keyOptions []).run busyRooms).value
    let m : Message :=
      { action := Message.Action.error.code, channel := some "hall", error := some unauthorized }
    let r := c.step (.link 1 (.message m))
    c.fatalErrorOf "hall" (.link 1 (.message m)) = some unauthorized ∧
      FailsChannel unauthorized "hall" c r ∧ answered r.log = [4] ∧ r.value.parked = [1, 2] :=
  ⟨rfl, (a_fatal_error_reaches_just_its_channel keyOptions [] busyRooms).1 "hall" _ _ rfl,
    rfl, rfl⟩

end PresenceClient.Client
