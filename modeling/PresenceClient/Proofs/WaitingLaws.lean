-- What holds of a client wherever a run has brought it, and with it the law of those who
-- wait: no channel is left with somebody who waits for nothing, or without its timer.
import PresenceClient.Proofs.StepTurns

namespace PresenceClient.Client

open Channel (Core Turn)

/-! ## Runs, step by step -/

/-- The last step of a run comes after all the others. -/
theorem run_snoc (c : Client) (inputs : List Input) (i : Input) :
    c.run (inputs ++ [i]) = c.run inputs >>= fun d => d.step i := by
  rw [run_append]
  congr 1
  funext d
  exact bind_pure (d.step i)

/-- What each step keeps, every run keeps. -/
theorem run_keeps {P : Client → Prop} (hstep : ∀ c i, P c → P (c.step i).value) {c : Client}
    (h : P c) (inputs : List Input) : P (c.run inputs).value := by
  induction inputs generalizing c with
  | nil => exact h
  | cons i rest ih => exact ih (hstep c i h)

/-! ## Sound clients -/

/-- The channels are in order, and on each of them what waits fits its state. -/
structure Sound (c : Client) : Prop where
  ordered : c.channels.Ordered
  addressed : ∀ name, (c.core name).Addressed name
  fits : ∀ name, (c.core name).Fits c.isConnected

theorem core_fresh (options : Options) (words : List UInt64) (name : String) :
    (fresh options words).core name = {} := core_of_none rfl

theorem sound_fresh (options : Options) (words : List UInt64) : Sound (fresh options words) := by
  refine ⟨Table.ordered_empty, fun name => ?_, fun name => ?_⟩
  · rw [core_fresh]
    exact fun q hq => nomatch hq
  · rw [core_fresh]
    exact Channel.fits_fresh _

theorem Sound.of_same {c d : Client} (h : Sound c) (hc : d.channels = c.channels)
    (hup : d.isConnected = c.isConnected) : Sound d := by
  have hcore : ∀ name, d.core name = c.core name := core_of_channels hc
  exact ⟨hc ▸ h.ordered, fun name => hcore name ▸ h.addressed name,
    fun name => hcore name ▸ hup ▸ h.fits name⟩

/-- A round of turns leaves all sound, if it leaves the channels in order. -/
theorem Sound.round {c : Client} {cue : String → Channel.Cue} {r : Logged Client} (h : Sound c)
    (ho : r.value.channels.Ordered) (hturns : Turns cue c r) : Sound r.value :=
  ⟨ho, fun name => Channel.addressed_turn (hturns name) (h.addressed name),
    fun name => Channel.fits_turn (hturns name) (h.fits name)⟩

theorem ordered_early {c : Client} (h : c.channels.Ordered) (i : Input) :
    (c.early i).value.channels.Ordered := by
  cases i with
  | timers => exact (balances_fireConnectionTimer h c.clock).ordered
  | _ => exact (balances_step h _).ordered

theorem sound_early {c : Client} (h : Sound c) (i : Input) : Sound (c.early i).value :=
  h.round (ordered_early h.ordered i) (turns_early h.ordered h.addressed i)

/-- A step gives each channel two turns, an early one and a late one. -/
theorem step_turns {c : Client} (h : Sound c) (name : String) (i : Input) :
    Turn name c.isConnected (c.cue name i) (c.core name) (firstSent name (c.early i).log)
        ((c.early i).value.core name) (c.early i).value.isConnected ∧
      ∃ later, firstSent name (c.step i).log = firstSent name (c.early i).log ++ later ∧
        Turn name (c.early i).value.isConnected ((c.early i).value.lateCue c.clock name i)
          ((c.early i).value.core name) later ((c.step i).value.core name)
          (c.step i).value.isConnected := by
  have hearly := sound_early h i
  refine ⟨turns_early h.ordered h.addressed i name,
    firstSent name ((c.early i).value.late c.clock i).log, ?_, ?_⟩
  · rw [step_eq, Logged.log_bind, firstSent_append]
  · rw [step_eq, Logged.value_bind]
    exact turns_late hearly.ordered hearly.fits c.clock i name

theorem sound_step {c : Client} (h : Sound c) (i : Input) : Sound (c.step i).value := by
  have hordered := (balances_step h.ordered i).ordered
  have hearly := sound_early h i
  rw [step_eq, Logged.value_bind] at hordered ⊢
  exact hearly.round hordered (turns_late hearly.ordered hearly.fits c.clock i)

theorem sound_run {c : Client} (h : Sound c) (inputs : List Input) : Sound (c.run inputs).value :=
  run_keeps (P := Sound) (fun _ i hc => sound_step hc i) h inputs

/-! ## Timers that are due -/

theorem nodup_dueChannels {c : Client} (h : c.channels.Ordered) (now : Instant) :
    (c.dueChannels now).Nodup := (Table.keys_nodup h).sublist (List.filter_sublist.map _)

/-- The timer of a channel touches no other channel, whichever fired before. -/
theorem Sound.alone_onChannelTimer {c : Client} (h : Sound c) {now : Instant} (d : Client)
    (name : String) (hn : name ∈ c.dueChannels now) (hd : d.channel? name = c.channel? name)
    (hup : d.isConnected = c.isConnected) : Alone name d (d.onChannelTimer name) := by
  obtain ⟨ch, alarm, hch, ht, -⟩ := (mem_dueChannels h.ordered).mp hn
  refine (turnOn_onChannelTimer (hd.trans hch) ht ?_).toAlone
  rw [core_congr hd, hup]
  exact h.fits name

/-! ## The law of those who wait -/

/-- Nobody waits on the channel for what is not under way, no timer runs where none is
needed, and on a live link what is under way has its timer. -/
structure Unwedged (ch : Channel) (up : Bool) : Prop where
  attachWaiters : ch.attachWaiters ≠ [] → ch.state = .attaching
  detachWaiters : ch.detachWaiters ≠ [] → ch.state = .detaching
  queue : ch.queue.entries ≠ [] →
    ch.state = .attaching ∨ ch.state = .attached ∨ ch.state = .detaching
  pendingGets : ch.pendingGets ≠ [] →
    ch.state = .attaching ∨ ch.state = .attached ∨ ch.state = .detaching
  resting : ch.state = .initialized ∨ ch.state = .attached ∨ ch.state = .detached ∨
    ch.state = .failed → ch.timer = none
  attaching : up = true → ch.state = .attaching → ch.timer.map (·.kind) = some .attachTimeout
  detaching : up = true → ch.state = .detaching → ch.timer.map (·.kind) = some .detachTimeout
  suspended : up = true → ch.state = .suspended → ch.timer.map (·.kind) = some .reattach

theorem unwedged_of_fits {ch : Channel} {up : Bool} (h : ch.core.Fits up) : Unwedged ch up := by
  have hrest : ch.core.state.isResting = true → ch.core.Idle ∧ ch.core.timer = none := fun hr =>
    (Channel.fits_resting hr).mp h
  have hidle : ¬(ch.state = .attaching ∨ ch.state = .attached ∨ ch.state = .detaching) →
      ch.core.Idle := by
    intro hno
    cases hs : ch.core.state with
    | attaching => exact absurd (.inl hs) hno
    | attached => exact absurd (.inr (.inl hs)) hno
    | detaching => exact absurd (.inr (.inr hs)) hno
    | suspended => exact ((Channel.fits_suspended hs).mp h).1
    | _ => exact (hrest (by rw [hs]; rfl)).1
  constructor
  · exact fun hne => by_contra fun hs => hne (h.no_attach hs)
  · exact fun hne => by_contra fun hs => hne (h.no_detach hs)
  · exact fun hne => by_contra fun hs => hne (hidle hs).1
  · exact fun hne => by_contra fun hs => hne (hidle hs).2.2.2
  · intro hs
    suffices ht : ch.core.timer = none from Option.map_eq_none_iff.mp ht
    rcases hs with hs | hs | hs | hs
    · exact (hrest (congrArg Channel.State.isResting hs)).2
    · exact ((Channel.fits_attached (k := ch.core) hs).mp h).2.2
    · exact (hrest (congrArg Channel.State.isResting hs)).2
    · exact (hrest (congrArg Channel.State.isResting hs)).2
  · exact fun hup hs => ((Channel.fits_attaching (k := ch.core) hs).mp h).2 hup
  · exact fun hup hs => ((Channel.fits_detaching (k := ch.core) hs).mp h).2.resolve_right
      fun hd => nomatch hup.symm.trans hd.2
  · exact fun hup hs => ((Channel.fits_suspended (k := ch.core) hs).mp h).2.resolve_right
      fun hd => nomatch hup.symm.trans hd.2

/-- Wherever a run has brought the client, none of its channels is wedged. -/
theorem no_channel_is_ever_wedged (options : Options) (words : List UInt64)
    (inputs : List Input) (name : String) (ch : Channel)
    (h : ((fresh options words).run inputs).value.channel? name = some ch) :
    Unwedged ch ((fresh options words).run inputs).value.isConnected := by
  have hfits := (sound_run (sound_fresh options words) inputs).fits name
  rw [core_of_some h] at hfits
  exact unwedged_of_fits hfits

/-- A caller waits for an attach that the client has asked for. -/
theorem a_channel_that_is_waited_for_is_not_wedged :
    let c := ((fresh { key := some "app.key:secret" } []).run [.command 0 .connect,
      .link 1 (.message { action := Message.Action.connected.code }),
      .command 1 (.channel "room" .attach)]).value
    c.isConnected = true ∧ ∃ ch, c.channel? "room" = some ch ∧
      ch.attachWaiters = [.caller 1] ∧ Unwedged ch c.isConnected :=
  ⟨rfl, _, rfl, rfl, no_channel_is_ever_wedged _ _ _ "room" _ rfl⟩

end PresenceClient.Client
