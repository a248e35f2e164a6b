-- The law of neighbours. What is asked of a channel, what the server says of it and what its
-- timer does is no matter of any other channel. And the server may say what it will, it adds no
-- channel to those that the client has.
import PresenceClient.Proofs.FailureLaws
import PresenceClient.Proofs.StepReach

namespace PresenceClient

/-- Is a message about the channel that it names? -/
def Message.isOfChannel (m : Message) : Bool :=
  match Message.Action.ofCode? m.action with
  | some .attached | some .detached | some .presence | some .sync | some .error => true
  | _ => false

namespace Client

/-- From `c` to `d`, all channels but one are as they were, with all that is on their records,
and so is what awaits an acknowledgement on them, in its order. -/
structure Spares (name : String) (c d : Client) : Prop where
  channels : ∀ other, other ≠ name → d.channel? other = c.channel? other
  pending : d.pending.without (Pending.onChannel name) = c.pending.without (Pending.onChannel name)

variable {c : Client} {r : Logged Client} {name : String} {m : Message}

theorem Reaches.spares (h : Reaches (.ofChannel name) c r) : Spares name c r.value :=
  ⟨h.channels, h.pending⟩

/-- What the server says of a channel reaches no further than that channel. -/
theorem reaches_message (hq : (c.core name).Addressed name) (hm : m.channel = some name)
    (ha : m.isOfChannel = true) : Reaches (.ofChannel name) c (c.onMessage m) := by
  have hcovers := Scope.covers_ofChannel name
  apply reaches_resetIdleTimer
  have hq' : (c.resetIdleTimer.core name).Addressed name := by
    rwa [core_of_channels (resetIdleTimer_same c).1]
  refine onMessage_cases (fun h => ?connected) (fun h => ?disconnected) (fun h => ?closed)
    (fun _ => ?error) (fun h => ?ack) (fun h => ?nack) (fun _ => ?attached)
    (fun _ => reaches_onDetached hm fun _ => hcovers) (fun _ => reaches_onSync hm fun _ => hcovers)
    (fun _ => reaches_onPresence hm fun _ => hcovers) fun _ => reaches_pure
  case error =>
    refine onError_cases (fun name' hm' => ?_) fun hnone => absurd (hm.symm.trans hnone) nofun
    cases hm.symm.trans hm'
    exact reaches_failChannel (fun _ => hcovers) _
  case attached =>
    refine reaches_onAttached hm (fun _ => hcovers) fun q hmem => ?_
    rw [hq' q hmem]
    exact hcovers.unacked
  -- All other messages are about no channel.
  all_goals simp [Message.isOfChannel, h] at ha

theorem reaches_link (hq : (c.core name).Addressed name) (hm : m.channel = some name)
    (ha : m.isOfChannel = true) (link : Nat) :
    Reaches (.ofChannel name) c (c.step (.link link (.message m))) := by
  refine step_link_cases (fun m' _ he => ?message) (fun _ _ he => nomatch he)
    fun _ => reaches_pure
  case message =>
    cases he
    exact reaches_message hq hm ha

/-- A link brings no channel that was not there. -/
theorem channel?_link (h : c.channel? name = none) (link : Nat) (event : LinkEvent) :
    (c.step (.link link event)).value.channel? name = none := by
  have hreach : Reaches (.present c) c (c.step (.link link event)) :=
    reaches_onLinkEvent (Scope.holds_present c) link event
  rw [hreach.channels name (by simp [Scope.present, h]), h]

/-- Wherever a run has brought the client, a command on a channel, what the server says of it and
its timer spare all other channels; and nothing that a link reports adds a channel. -/
theorem no_channel_disturbs_another (options : Options) (words : List UInt64)
    (inputs : List Input) :
    let c := ((fresh options words).run inputs).value
    (∀ name ticket command,
        Spares name c (c.step (.command ticket (.channel name command))).value) ∧
      (∀ name link (m : Message), m.channel = some name → m.isOfChannel = true →
        Spares name c (c.step (.link link (.message m))).value) ∧
      (∀ (d : Client) name, Spares name d (d.onChannelTimer name).value) ∧
      (∀ name link event, c.channel? name = none →
        (c.step (.link link event)).value.channel? name = none) := by
  intro c
  have hsound : Sound c := sound_run (sound_fresh options words) inputs
  refine ⟨fun name ticket command => ?_, fun name link m hm ha => ?_, fun d name => ?_,
    fun name link event h => channel?_link h link event⟩
  · exact (reaches_channelCommand (Scope.covers_ofChannel name) ticket command).spares
  · exact (reaches_link (hsound.addressed name) hm ha link).spares
  · exact (reaches_onChannelTimer fun _ => Scope.covers_ofChannel name).spares

/-- The room fails, and so does whoever waits there. In the hall, what was entered still awaits
its acknowledgement. -/
theorem a_failing_room_spares_the_hall :
    let c := ((fresh keyOptions []).run busyRooms).value
    let m : Message :=
      { action := Message.Action.error.code, channel := some "room", error := some unauthorized }
    let d := (c.step (.link 1 (.message m))).value
    (d.channelOrNew "room").state = .failed ∧ Spares "room" c d ∧
      (d.channelOrNew "hall").state = .attached ∧ d.parked = [4] :=
  ⟨rfl, (no_channel_disturbs_another keyOptions [] busyRooms).2.1 "room" 1 _ rfl rfl, rfl, rfl⟩

end Client

end PresenceClient
