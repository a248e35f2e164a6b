-- The law of work: a connection that is down holds none. What a run leaves behind is no more
-- than its connection has use for, as long as only links that the client has opened are heard.
import PresenceClient.Proofs.FailureLaws
import PresenceClient.Proofs.WorkSteps

namespace PresenceClient.Client

/-! ## What the server says -/

section Messages

variable {c : Client} {name : String} {ch : Channel}

theorem isConnected_of_rests {r : Logged Client} (h : Rests c r) :
    r.value.isConnected = c.isConnected := by
  have hup : r.value.session.isConnected = c.session.isConnected :=
    congrArg Connection.isConnected h.session
  exact hup

theorem tidy_onAttached (h : Tidy c) (hlive : c.connection.state.isLive = true) (m : Message) :
    Tidy (c.onAttached m).value := by
  refine onAttached_cases (fun _ => h) (fun name ch _ _ _ hup => ?live)
    fun name ch _ hch ha _ => ?down
  case live =>
    rw [Logged.value_bind]
    generalize (attachedChannel m ch).value = v
    refine tidy_of_connected ((isConnected_of_rests (c := c.setChannel name v) ?_).trans hup)
    exact rests_bind (rests_foldlM (fun _ _ => rests_sendForAck _ _) _) rests_flushQueue
  case down =>
    have hqueue : (attachedChannel m ch).value.core.queue = ch.core.queue := by
      rw [core_attachedChannel ha m]
      rfl
    exact tidy_set h
      (Channel.suits_of_isLive hlive fun hq => hqueue.trans ((h.of_some hch).queue hq))

theorem tidy_reattach (h : Tidy c) (hlive : c.connection.state.isLive = true)
    (hch : c.channel? name = some ch) (e : Option ErrorInfo) :
    Tidy (c.reattach name ch e).value := by
  have hset : Tidy (c.setChannel name (toAttachingAgain c.clock e ch).value) := by
    refine tidy_set h (Channel.suits_of_isLive hlive fun hq => ?_)
    rw [(ch.toAttachingAgain_spec c.clock e).1]
    exact (h.of_some hch).queue hq
  exact reattach_cases (tidy_suspendChannel h _ true) (fun _ => tidy_sendAttach hset) fun _ => hset

theorem tidy_onDetached (h : Tidy c) (hlive : c.connection.state.isLive = true) (m : Message) :
    Tidy (c.onDetached m).value :=
  onDetached_cases (fun _ => h)
    (fun _ _ _ _ _ => tidy_onChannel h fun _ hch => Channel.suits_enterDetached hch _ _)
    (fun _ _ _ hch _ => tidy_reattach h hlive hch _) fun _ _ _ _ _ _ _ _ => tidy_failChannel h _

theorem tidy_onSync (h : Tidy c) (m : Message) : Tidy (c.onSync m).value := by
  refine onSync_cases (fun _ => h) fun _ _ => tidy_onChannel h fun ch hch => ?_
  refine syncedChannel_cases (fun _ => ?_) fun _ => hch
  have hpaged : ∀ last, (ch.core.paged last).queue = ch.core.queue ∧
      (ch.core.paged last).state = ch.core.state := fun last => by
    cases last <;> exact ⟨rfl, rfl⟩
  obtain ⟨hqueue, hstate⟩ := hpaged (isLastPage m.channelSerial)
  rw [← (ch.takePage_spec m).1] at hqueue hstate
  exact hch.left (fun hq => hqueue.trans hq) (.inl hstate)

theorem tidy_onPresence (h : Tidy c) (m : Message) : Tidy (c.onPresence m).value := by
  refine onPresence_cases (fun _ => h) fun _ _ => tidy_onChannel h fun ch hch => ?_
  exact hch.same (Channel.foldlM_spec ch c.takeLive (fun ch p => ch.takeLive_spec c p) _).1

theorem tidy_onError (h : Tidy c) (ho : c.channels.Ordered) (m : Message) :
    Tidy (c.onError m).value :=
  onError_cases (fun _ _ => tidy_failChannel h _) fun _ => tidy_failConnection h ho _

theorem tidy_onConnected (h : Tidy c) (m : Message) : Tidy (c.onConnected m).value := by
  by_cases hs : c.connection.state = .connecting ∨ c.connection.state = .connected
  · have hgreeted := state_of_session (leads_greet m hs).session
    have hstate : (c.onConnected m).value.connection.state = .connected :=
      hgreeted.trans (Connection.stirred_fields _ _ _).1
    exact tidy_of_isLive (hstate ▸ rfl) fun name hq => (nomatch hstate ▸ hq)
  · exact onConnected_cases (fun hup => absurd (.inr hup) hs) (fun hup => absurd (.inl hup) hs)
      fun _ _ => h

theorem tidy_onMessage (h : Tidy c) (ho : c.channels.Ordered)
    (hlive : c.connection.state.isLive = true) (m : Message) : Tidy (c.onMessage m).value := by
  obtain ⟨hchannels, hpending, -⟩ := resetIdleTimer_same c
  have hreset : Tidy c.resetIdleTimer :=
    h.of_same state_resetIdleTimer resetIdleTimer_rest.1 hchannels fun hp => hpending ▸ hp
  rw [← hchannels] at ho
  rw [← state_resetIdleTimer] at hlive
  exact onMessage_cases (fun _ => tidy_onConnected hreset m)
    (fun _ => tidy_onDisconnected hreset ho _) (fun _ => tidy_finishClose hreset ho)
    (fun _ => tidy_onError hreset ho m) (fun _ => tidy_settle hreset _ _)
    (fun _ => tidy_settle hreset _ _) (fun _ => tidy_onAttached hreset hlive m)
    (fun _ => tidy_onDetached hreset hlive m) (fun _ => tidy_onSync hreset m)
    (fun _ => tidy_onPresence hreset m) fun _ => hreset

end Messages

/-! ## Steps and runs -/

section Runs

variable {c : Client} {options : Options} {words : List UInt64} {inputs : List Input}

theorem tidy_command (h : Tidy c) (ho : c.channels.Ordered) (ticket : Ticket) (asked : Command) :
    Tidy (c.command ticket asked).value := by
  cases asked with
  | connect => exact tidy_connect h
  | close => exact tidy_close h ho
  | queryConnection => exact h
  | onConnection filter => exact h.of_same rfl rfl rfl id
  | offConnection id => exact h.of_same rfl rfl rfl fun hp => hp
  | channel name command => exact tidy_channelCommand h ticket command

theorem tidy_shutdown (h : Tidy c) : Tidy c.shutdown.value := by
  let e := Cause.clientDropped.info
  let fail (d : Client) (name : String) : Logged Client :=
    d.onChannel name fun ch => ch.failWaiters e
  have hfailed : Tidy (c.failPending e).value := tidy_settle h _ _
  have hall : Tidy ((c.failPending e).value.forNames c.channels.keys fail).value :=
    forNames_keeps (fun d name hd => tidy_onChannel hd fun ch hch =>
      Channel.suits_failWaiters hch e) _ hfailed
  exact shutdown_cases fun _ _ => hall

/-- Every step leaves a client tidy, if nothing is heard of a link that is given up. -/
theorem tidy_step (h : Tidy c) (ho : c.channels.Ordered) {i : Input}
    (hlive : ∀ event, i = .link c.connection.generation event →
      c.connection.state.isLive = true) : Tidy (c.step i).value := by
  cases i with
  | command ticket asked => exact tidy_command h ho ticket asked
  | link generation event =>
    refine step_link_cases (fun m hg _ => ?message) (fun error _ _ => tidy_onLinkEnded h ho error)
      fun _ => h
    case message =>
      subst hg
      exact tidy_onMessage h ho (hlive _ rfl) m
  | clock now => exact h.of_same rfl rfl rfl id
  | timers =>
    exact forNames_keeps (P := Tidy) (fun _ _ hd => tidy_onChannelTimer hd) _
      (tidy_fireConnectionTimer h ho c.clock)
  | dropListener id =>
    exact ⟨h.pending, fun name => (h.channel name).same (core_dropListener c id name)⟩
  | shutdown => exact tidy_shutdown h

theorem tidy_run (h : HearsOwnLinks options words inputs) :
    Tidy ((fresh options words).run inputs).value := by
  induction inputs using List.reverseRecOn with
  | nil => exact tidy_fresh options words
  | append_singleton first i ih =>
    have hbefore := ih h.before
    have hsound := sound_run (sound_fresh options words) first
    rw [run_snoc, Logged.value_bind]
    refine tidy_step hbefore hsound.ordered fun event hi => ?_
    exact (linked_run options words first _ (h first _ event (hi ▸ List.prefix_refl _))).2 rfl

end Runs

/-! ## The law -/

/-- A connection that is down holds no work. -/
structure HoldsNoWork (c : Client) : Prop where
  idle : c.connection.state = .initialized ∨ c.connection.state = .suspended ∨
    c.connection.state = .closed ∨ c.connection.state = .failed →
      c.pending.entries = [] ∧ ∀ name, (c.channelOrNew name).queue.entries = []
  ended : c.connection.state = .closed ∨ c.connection.state = .failed → ∀ name,
    let ch := c.channelOrNew name
    ch.attachWaiters = [] ∧ ch.detachWaiters = [] ∧ ch.pendingGets = [] ∧
      (ch.state = .initialized ∨ ch.state = .detached ∨ ch.state = .failed)
  suspended : c.connection.state = .suspended → ∀ name,
    (c.channelOrNew name).state ≠ .attached ∧ (c.channelOrNew name).state ≠ .attaching
  unqueued : c.options.queueMessages = false →
    c.connection.state = .connecting ∨ c.connection.state = .disconnected →
      ∀ name, (c.channelOrNew name).queue.entries = []

theorem holdsNoWork_of_tidy {c : Client} (h : Tidy c) (hsound : Sound c) : HoldsNoWork c := by
  constructor
  · intro hs
    refine ⟨h.pending ?_, fun name => (h.channel name).queue ?_⟩ <;>
      rcases hs with hs | hs | hs | hs <;> rw [hs] <;> rfl
  · intro hs name ch
    have hrest : ch.state.isResting = true := by
      have hstate : c.connection.state.admits ch.state = true := (h.channel name).state
      rcases hs with hs | hs <;> rwa [hs] at hstate
    obtain ⟨-, ha, hd, hg⟩ := ((Channel.fits_resting hrest).mp (hsound.fits name)).1
    refine ⟨ha, hd, hg, ?_⟩
    cases hch : ch.state <;> simp_all [Channel.State.isResting]
  · intro hs name
    have hstate := (h.channel name).state
    rw [hs] at hstate
    exact of_decide_eq_true hstate
  · intro hkeep hs name
    refine (h.channel name).queue ?_
    rcases hs with hs | hs <;> rw [hs, hkeep] <;> rfl

/-- Wherever a run has brought the client, a connection that is down holds no work. -/
theorem a_connection_that_is_down_holds_no_work (options : Options) (words : List UInt64)
    (inputs : List Input) (h : HearsOwnLinks options words inputs) :
    HoldsNoWork ((fresh options words).run inputs).value :=
  holdsNoWork_of_tidy (tidy_run h) (sound_run (sound_fresh options words) inputs)

/-- In the busy rooms, all that is heard comes over the one link. -/
theorem hearsOwnLinks_busyRooms (m : Message) :
    HearsOwnLinks keyOptions [] (busyRooms ++ [.link 1 (.message m)]) := by
  unfold busyRooms
  rw [List.append_assoc]
  refine hearsOwnLinks_greeting fun generation event hmem => ?_
  simp only [List.mem_append, List.mem_cons, List.not_mem_nil, Input.link.injEq, reduceCtorEq,
    false_or, or_false] at hmem
  exact hmem.elim And.left And.left

/-- Three wait in busy rooms, and none of them when the connection has failed. -/
theorem a_failed_connection_holds_no_work :
    let m : Message := { action := Message.Action.error.code, error := some unauthorized }
    let inputs := busyRooms ++ [.link 1 (.message m)]
    let c := ((fresh keyOptions []).run inputs).value
    ((fresh keyOptions []).run busyRooms).value.parked = [1, 2, 4] ∧
      c.connection.state = .failed ∧ HearsOwnLinks keyOptions [] inputs ∧ HoldsNoWork c :=
  ⟨rfl, rfl, hearsOwnLinks_busyRooms _, a_connection_that_is_down_holds_no_work keyOptions [] _
    (hearsOwnLinks_busyRooms _)⟩

end PresenceClient.Client
