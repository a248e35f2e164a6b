-- The law of the queues. While the connection is away for a short time, what is queued on a
-- channel stays queued, in its order and unanswered. There is one exception: an attach that was
-- asked for on the lost link still comes to its time, and the queue fails with it.
import PresenceClient.Proofs.ConnectionRuns
import PresenceClient.Proofs.QueueSteps
import PresenceClient.Proofs.TicketLaws

namespace PresenceClient.Client

open Channel (Core Cue Turn)

variable {name : String} {c : Client} {i : Input}

/-! ## Steps and runs -/

/-- The timers of the channels change nothing about the connection. -/
theorem state_step_timers (c : Client) : (c.step .timers).value.connection.state =
    (c.fireConnectionTimer c.clock).value.connection.state := by
  let d := (c.fireConnectionTimer c.clock).value
  have hrests : Rests d (d.forNames (d.dueChannels c.clock) onChannelTimer) :=
    rests_foldlM (fun _ _ => rests_onChannelTimer) _
  have hstate : (c.step .timers).value.connection.state = d.session.state :=
    state_of_session hrests.session
  exact hstate

section Steps

variable (hs : Sound c) (ht : c.connection.Timed) (hkeep : c.options.queueMessages = true)

include hs ht hkeep

/-- While the connection is away, its own timer leaves the channels to theirs. -/
theorem step_timers (haway : (c.step .timers).value.connection.state.isAway = true) :
    ∃ d, Sound d ∧ d.isConnected = false ∧ d.channels = c.channels ∧ d.clock = c.clock ∧
      (c.step .timers).value = (d.forNames (d.dueChannels d.clock) onChannelTimer).value ∧
      ∀ e ∈ (d.forNames (d.dueChannels d.clock) onChannelTimer).log, e ∈ (c.step .timers).log := by
  have haway' : (c.fireConnectionTimer c.clock).value.connection.state.isAway = true :=
    state_step_timers c ▸ haway
  obtain ⟨links, k, hleads, -⟩ := steers_fireConnectionTimer ht c.clock
  refine ⟨(c.fireConnectionTimer c.clock).value, sound_early hs .timers,
    isConnected_of_isAway haway', channels_fireConnectionTimer hkeep haway', hleads.clock, ?_, ?_⟩
  · rw [hleads.clock]
    rfl
  · rw [hleads.clock]
    exact fun e he => List.mem_append_right _ he

theorem holds_step (hi : i.spares name = true)
    (haway : (c.step i).value.connection.state.isAway = true)
    (hno : i = .timers → c.attachOverdue name = false) : Holds name c (c.step i) := by
  cases i with
  | timers =>
    obtain ⟨d, hd, hdown, hch, hclock, hvalue, -⟩ := step_timers hs ht hkeep haway
    have hno' : d.attachOverdue name = false := by
      rw [attachOverdue, channel?_of_channels hch, hclock]
      exact hno rfl
    have hlate := holds_fireChannels hd hdown hno'
    unfold Holds at hlate ⊢
    rw [hvalue, ← channelOrNew_congr (channel?_of_channels hch name)]
    exact hlate
  | _ => exact holds_early hkeep hi haway

theorem fails_step (haway : (c.step .timers).value.connection.state.isAway = true)
    (hover : c.attachOverdue name = true) :
    ((c.step .timers).value.channelOrNew name).queue.entries = [] ∧
      ∀ e ∈ (c.channelOrNew name).queue.failures Cause.attachTimedOut.info,
        e ∈ (c.step .timers).log := by
  obtain ⟨d, hd, -, hch, hclock, hvalue, hlog⟩ := step_timers hs ht hkeep haway
  have hsame := channel?_of_channels hch name
  have hover' : d.attachOverdue name = true := by
    rw [attachOverdue, hsame, hclock]
    exact hover
  obtain ⟨hempty, htold⟩ := fails_fireChannels hd hover'
  rw [channelOrNew_congr hsame] at htold
  rw [hvalue]
  exact ⟨hempty, fun e he => hlog e (htold e he)⟩

end Steps

/-- Through some inputs the connection is away, nobody gives up the channel, and no attach of it
comes to its time. -/
def Outage (name : String) : Client → List Input → Prop
  | _, [] => True
  | c, i :: later => i.spares name = true ∧ (c.step i).value.connection.state.isAway = true ∧
      (i = .timers → c.attachOverdue name = false) ∧ Outage name (c.step i).value later

theorem holds_outage (hs : Sound c) (ht : c.connection.Timed)
    (hkeep : c.options.queueMessages = true) {later : List Input} (h : Outage name c later) :
    Holds name c (c.run later) := by
  induction later generalizing c with
  | nil => exact holds_pure
  | cons i later ih =>
    obtain ⟨hi, haway, hno, hlater⟩ := h
    obtain ⟨ho, hturn⟩ := step_turn ht i
    have ht' : (c.step i).value.session.Timed :=
      Connection.timed_turn hturn (show c.session.Timed from ht)
    exact holds_bind (holds_step hs ht hkeep hi haway hno)
      (ih (sound_step hs i) ht' (by rw [ho, hkeep]) hlater)

/-! ## Those who wait in a queue -/

/-- For whatever is queued a caller waits. -/
def AllCalled (queue : List Queued) : Prop := ∀ q ∈ queue, ∃ ticket, q.responder = .caller ticket

theorem allCalled_turn {up up' : Bool} {cue : Cue} {k k' : Core} {sent : List Ticket}
    (h : Turn name up cue k sent k' up') (hk : AllCalled k.queue) : AllCalled k'.queue := by
  rcases Channel.queue_turn h with ⟨-, hq⟩ | ⟨-, hq⟩ | ⟨-, hq⟩ | ⟨t, m, -, -, -, hq⟩ |
    ⟨t, -, -, -, -, hq⟩
  · rwa [hq]
  · rw [hq]
    exact fun q hmem => absurd hmem List.not_mem_nil
  · rw [hq]
    exact fun q hmem => absurd hmem List.not_mem_nil
  · intro q hmem
    rw [hq] at hmem
    rcases List.mem_append.mp hmem with hmem | hmem
    · exact hk q hmem
    · rw [List.mem_singleton.mp hmem]
      exact ⟨t, rfl⟩
  · rwa [hq]

theorem allCalled_run (options : Options) (words : List UInt64) (inputs : List Input)
    (name : String) : AllCalled (((fresh options words).run inputs).value.core name).queue := by
  have hnone : ∀ name, AllCalled ((fresh options words).core name).queue := by
    intro name q hq
    rw [core_fresh] at hq
    exact absurd hq List.not_mem_nil
  have hrun := run_keeps (P := fun c => Sound c ∧ ∀ name, AllCalled (c.core name).queue) ?_
    (c := fresh options words) ⟨sound_fresh options words, hnone⟩ inputs
  · exact hrun.2 name
  · intro c i ⟨hs, hcalled⟩
    refine ⟨sound_step hs i, fun name => ?_⟩
    obtain ⟨hearly, later, -, hlate⟩ := step_turns hs name i
    exact allCalled_turn hlate (allCalled_turn hearly (hcalled name))

theorem mem_parked {t : Ticket} {q : Queued} (hq : q ∈ (c.channelOrNew name).queue.entries)
    (ht : q.responder = .caller t) : t ∈ c.parked := by
  have hqueued : t ∈ queueTickets (c.core name).queue :=
    List.mem_flatMap.mpr ⟨q, hq, by rw [ht]; exact List.mem_singleton.mpr rfl⟩
  exact mem_parked_of_core name (List.mem_append_left _ (List.mem_append_left _
    (List.mem_append_left _ hqueued)))

/-- Where all tickets differ, what is still queued at the end of a run has not been answered. -/
theorem unanswered_of_queued {options : Options} {words : List UInt64} {inputs : List Input}
    (hdiffer : (handed inputs).Nodup) {t : Ticket} {q : Queued}
    (hq : q ∈ (((fresh options words).run inputs).value.channelOrNew name).queue.entries)
    (ht : q.responder = .caller t) : t ∉ answered ((fresh options words).run inputs).log := by
  have hbooks := balances_perm (balances_run (c := fresh options words) Table.ordered_empty inputs)
  rw [show (fresh options words).parked = [] from rfl, List.append_nil] at hbooks
  intro hanswered
  exact (List.nodup_append.mp (hbooks.nodup_iff.mpr hdiffer)).2.2 t hanswered t (mem_parked hq ht)
    rfl

/-! ## The law -/

/-- Where queues are to be kept: as long as the connection is away for a short time and nobody
gives up the channel, whatever was queued there is queued still, in the same order, and no caller
who waits for it is answered. If however an attach comes to its time meanwhile, one that was asked
for on the lost link, the queue is emptied and all who wait in it fail. -/
theorem a_queue_outlasts_the_loss_of_a_link_unless_an_attach_times_out (options : Options)
    (words : List UInt64) (inputs : List Input) (name : String)
    (hkeep : options.queueMessages = true) :
    let c := ((fresh options words).run inputs).value
    let queue := (c.channelOrNew name).queue.entries
    AllCalled queue ∧
      (∀ later, c.Outage name later → Holds name c (c.run later) ∧
        ((handed (inputs ++ later)).Nodup → ∀ q ∈ queue, ∀ ticket,
          q.responder = .caller ticket → ticket ∉ answered (c.run later).log)) ∧
      ((c.step .timers).value.connection.state.isAway = true → c.attachOverdue name = true →
        ((c.step .timers).value.channelOrNew name).queue.entries = [] ∧
          ∀ q ∈ queue, ∀ ticket, q.responder = .caller ticket →
            .resolve ticket (.failed (.service Cause.attachTimedOut.info)) ∈
              (c.step .timers).log) := by
  intro c queue
  have hs : Sound c := sound_run (sound_fresh options words) inputs
  obtain ⟨ho, ht⟩ := timed_run options words inputs
  have hkeep' : c.options.queueMessages = true := by
    rw [← hkeep]
    exact congrArg Options.queueMessages ho
  refine ⟨allCalled_run options words inputs name, fun later hlater => ?_, fun haway hover => ?_⟩
  · have hholds := holds_outage hs ht hkeep' hlater
    refine ⟨hholds, fun hdiffer q hq ticket hticket hanswered => ?_⟩
    have hstill := hholds.subset hq
    have hrun : (c.run later).value = ((fresh options words).run (inputs ++ later)).value := by
      rw [run_append, Logged.value_bind]
    rw [hrun] at hstill
    refine unanswered_of_queued hdiffer hstill hticket ?_
    rw [run_append, Logged.log_bind, answered_append]
    exact List.mem_append_right _ hanswered
  · obtain ⟨hempty, htold⟩ := fails_step hs ht hkeep' haway hover
    refine ⟨hempty, fun q hq ticket hticket => htold _ ?_⟩
    refine List.mem_flatMap.mpr ⟨q, hq, ?_⟩
    rw [hticket]
    exact List.mem_singleton.mpr rfl

/-- On a live link somebody enters the room, which is attached for that. Then the link is lost. -/
def lostWhileAttaching : List Input :=
  greeting ++ [.command 1 (.channel "room" (.publish .enter (some "ann") .null)),
    .link 1 (.ended none)]

/-- The server has not attached the room by the time that it was given. -/
def unattached : List Input := lostWhileAttaching ++ [.clock (Duration.ofSeconds 10)]

/-- The caller still waits when the client opens another link; but once the time of the attach
has come, the caller has failed. -/
theorem an_enter_outlasts_the_lost_link_until_its_attach_times_out :
    let c := ((fresh keyOptions []).run lostWhileAttaching).value
    let later := [.clock (Duration.ofSeconds 9), .timers, .command 2 .connect]
    let late := ((fresh keyOptions []).run unattached).value
    (c.channelOrNew "room").queue.entries.map (·.responder) = [.caller 1] ∧
      Holds "room" c (c.run later) ∧ 1 ∉ answered (c.run later).log ∧
      ((late.step .timers).value.channelOrNew "room").queue.entries = [] ∧
      .resolve 1 (.failed (.service Cause.attachTimedOut.info)) ∈ (late.step .timers).log := by
  have houtage : Outage "room" ((fresh keyOptions []).run lostWhileAttaching).value
      [.clock (Duration.ofSeconds 9), .timers, .command 2 .connect] :=
    ⟨rfl, by decide +kernel, nofun, rfl, by decide +kernel, fun _ => by decide +kernel,
      rfl, by decide +kernel, nofun, trivial⟩
  have hcaller : ∃ q ∈ (((fresh keyOptions []).run
        lostWhileAttaching).value.channelOrNew "room").queue.entries,
      q ∈ (((fresh keyOptions []).run unattached).value.channelOrNew "room").queue.entries ∧
        q.responder = .caller 1 := by decide +kernel
  obtain ⟨q, hq, hq', hticket⟩ := hcaller
  obtain ⟨-, hheld, -⟩ := a_queue_outlasts_the_loss_of_a_link_unless_an_attach_times_out
    keyOptions [] lostWhileAttaching "room" rfl
  obtain ⟨-, -, hlost⟩ := a_queue_outlasts_the_loss_of_a_link_unless_an_attach_times_out
    keyOptions [] unattached "room" rfl
  obtain ⟨hholds, hwaits⟩ := hheld _ houtage
  obtain ⟨hempty, htold⟩ := hlost (by decide +kernel) (by decide +kernel)
  exact ⟨by decide +kernel, hholds, hwaits (by decide +kernel) q hq 1 hticket, hempty,
    htold q hq' 1 hticket⟩

/-- The time of the attach comes while the client waits for its next attempt, as it is to do with
its queues kept. The queue is lost all the same, and its caller is told. -/
theorem a_timed_out_attach_empties_a_queue_that_is_to_be_kept :
    let c := ((fresh keyOptions []).run unattached).value
    let r := c.step .timers
    c.options.queueMessages = true ∧ c.connection.state = .disconnected ∧
      r.value.connection.state = .disconnected ∧ (c.channelOrNew "room").queue.size = 1 ∧
      ¬Holds "room" c r ∧
      .resolve 1 (.failed (.service Cause.attachTimedOut.info)) ∈ r.log := by
  unfold Holds
  decide +kernel

end PresenceClient.Client
