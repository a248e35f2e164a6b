-- The law of stale records. A live record that is no news tells nobody and leaves those who are
-- here and those who have left; a sync only waits for its member no more. But what this
-- connection has entered is noted before the record is held against what is known, so a stale
-- record of its own is noted as well.
import PresenceClient.Proofs.RestLaws

namespace PresenceClient

/-! ## Stale records of a roster -/

namespace Roster

section Stale

variable {r : Roster} {p q : Presence}

theorem isNews_trackOwn : (r.trackOwn p).isNews q = r.isNews q := by
  unfold trackOwn
  split <;> rfl

/-- What this connection enters or leaves is noted beside the rest. -/
theorem trackOwn_rest : r.trackOwn p = { r with own := (r.trackOwn p).own } := by
  unfold trackOwn
  split <;> rfl

/-- To note a record changes nothing if and only if this is what is noted of its client. -/
theorem own_trackOwn_eq_iff (h : r.Consistent) : (r.trackOwn p).own = r.own ↔
    r.own.get? p.clientId = if p.action.isHere then some p else none := by
  unfold trackOwn
  split
  · refine ⟨fun he => ?_, Table.put_of_get? h.own_ordered⟩
    rw [← he]
    exact Table.get?_put_self r.own _ _
  · refine ⟨fun he => ?_, Table.erase_of_get? h.own_ordered⟩
    rw [← he]
    exact Table.get?_erase_self r.own _

/-- A record that names its member strikes it from those a sync waits for. -/
theorem mark_eq (h : r.Consistent) (k : MemberKey) :
    r.mark k = { r with residual := r.residual.filter fun k' => decide (k' ≠ k) } := by
  unfold mark
  split
  · simp
  · rename_i hs
    obtain ⟨-, hnone⟩ := h.calm (by simpa using hs)
    rw [hnone, List.filter_nil, ← hnone]

/-- A record that is no news is only marked. -/
theorem put_of_stale (hr : r.Consistent) (h : r.isNews p = false) : r.put p =
    ({ r with residual := r.residual.filter fun k => decide (k ≠ p.key) }, none) := by
  rw [put, if_neg (by simp [h]), mark_eq hr]

end Stale

end Roster

theorem Channel.take_of_stale {ch : Channel} {p : Presence} (hr : ch.roster.Consistent)
    (h : ch.roster.isNews p = false) : ch.take p = pure { ch with roster := { ch.roster with
      residual := ch.roster.residual.filter fun k => decide (k ≠ p.key) } } := by
  have hput := Roster.put_of_stale hr h
  refine take_cases (fun event he => ?news) fun _ => ?old
  case news =>
    rw [hput] at he
    cases he
  case old => rw [hput]

namespace Client

/-! ## Stale records of a message -/

/-- The record is one of this connection's own, and it is not what the roster has noted of its
client. -/
def Misstates (c : Client) (r : Roster) (p : Presence) : Prop :=
  c.isOwn p = true ∧ r.own.get? p.clientId ≠ if p.action.isHere then some p else none

instance (c : Client) (r : Roster) (p : Presence) : Decidable (c.Misstates r p) :=
  inferInstanceAs (Decidable (_ ∧ _))

section Stale

variable {c : Client} {name : String} {ch : Channel} {m : Message} {p : Presence}

/-- A stale record is marked, and it is noted if it is one of this connection's own. -/
theorem takeLive_of_stale (hr : ch.roster.Consistent) (h : ch.roster.isNews p = false) :
    c.takeLive ch p = pure { ch with roster := { ch.roster with
      residual := ch.roster.residual.filter fun k => decide (k ≠ p.key)
      own := if c.isOwn p then (ch.roster.trackOwn p).own else ch.roster.own } } := by
  refine takeLive_cases (fun hown => ?own) fun hforeign => ?foreign
  case own =>
    have h' : (ch.roster.trackOwn p).isNews p = false := Roster.isNews_trackOwn.trans h
    rw [Channel.take_of_stale (Roster.consistent_trackOwn hr p) h', Roster.trackOwn_rest,
      if_pos hown]
  case foreign =>
    rw [Channel.take_of_stale hr h, if_neg (Bool.eq_false_iff.mp hforeign)]

/-- It changes what is noted if and only if it misstates that. -/
theorem own_takeLive_of_stale (hr : ch.roster.Consistent) (h : ch.roster.isNews p = false) :
    (c.takeLive ch p).value.roster.own = ch.roster.own ↔ ¬c.Misstates ch.roster p := by
  rw [takeLive_of_stale hr h, Misstates, not_and, not_not, ← Roster.own_trackOwn_eq_iff hr]
  show (if c.isOwn p then (ch.roster.trackOwn p).own else ch.roster.own) = ch.roster.own ↔ _
  split
  · rename_i hown
    simp [hown]
  · rename_i hown
    simp [hown]

/-- The records of a message are taken in one by one, as the connection is before it. -/
theorem step_of_records (hm : Message.Action.ofCode? m.action = some .presence)
    (hname : m.channel = some name) (hch : c.channel? name = some ch) :
    c.step (.link c.connection.generation (.message m)) =
      (Presence.arrivals m).foldlM c.takeLive ch >>= fun ch =>
        pure (c.resetIdleTimer.setChannel name ch) := by
  have hlive : c.resetIdleTimer.takeLive = c.takeLive :=
    takeLive_congr (resetIdleTimer_cases (fun _ => rfl) fun _ => rfl)
  have hch' := (channel?_of_channels c.resetIdleTimer_same.1 name).trans hch
  rw [step_of_link, onMessage_of_presence hm, onPresence_of_some hname, onChannel_of_some hch',
    hlive]

end Stale

/-! ## The law -/

/-- Wherever a run has brought a channel, a live record that is no news when its turn comes tells
nobody, and the channel is as before, but that a sync does not wait for its member any more.
Only what this connection has entered may have changed: it has if and only if the record is one
of its own and differs from what was noted. -/
theorem a_stale_record_changes_nothing_unless_it_misstates_what_was_entered (options : Options)
    (words : List UInt64) (inputs : List Input) (m : Message) (name : String) (ch : Channel)
    (earlier later : List Presence) (p : Presence)
    (hm : Message.Action.ofCode? m.action = some .presence) (hname : m.channel = some name)
    (hch : ((fresh options words).run inputs).value.channel? name = some ch)
    (harrivals : Presence.arrivals m = earlier ++ p :: later)
    (hstale : (earlier.foldlM ((fresh options words).run inputs).value.takeLive
      ch).value.roster.isNews p = false) :
    let c := ((fresh options words).run inputs).value
    let r := c.step (.link c.connection.generation (.message m))
    let before := earlier.foldlM c.takeLive ch
    let after := c.takeLive before.value p
    let rest := later.foldlM c.takeLive after.value
    after.log = [] ∧ r.log = before.log ++ rest.log ∧
      r.value.channel? name = some rest.value ∧
      after.value = { before.value with roster := { before.value.roster with
        residual := before.value.roster.residual.filter fun k => decide (k ≠ p.key)
        own := after.value.roster.own } } ∧
      (after.value.roster.own = before.value.roster.own ↔
        ¬c.Misstates before.value.roster p) := by
  intro c r before after rest
  have hr : before.value.roster.Consistent := by
    have hmoves := (Channel.performs_foldlM ch (fun ch p => performs_takeLive ch c p) earlier).roster
    have hroster : (c.roster name).Consistent := (sifted_run options words name inputs).1
    rw [roster_of_some hch] at hroster
    exact hmoves ▸ Roster.consistent_after hroster _
  have hafter := takeLive_of_stale (c := c) hr hstale
  have hsilent : after.log = [] := congrArg Logged.log hafter
  have hstep : r = (earlier ++ p :: later).foldlM c.takeLive ch >>= fun ch =>
      pure (c.resetIdleTimer.setChannel name ch) := harrivals ▸ step_of_records hm hname hch
  rw [List.foldlM_append, bind_assoc] at hstep
  refine ⟨hsilent, ?_, ?_, ?_, own_takeLive_of_stale hr hstale⟩
  · have hlog : r.log = before.log ++ ((after.log ++ rest.log) ++ []) := congrArg Logged.log hstep
    rw [hlog, hsilent, List.append_nil, List.nil_append]
  · rw [hstep]
    exact channel?_setChannel_self _ _ _
  · exact (congrArg Logged.value hafter).trans (by rw [congrArg Logged.value hafter]; rfl)

/-- A live record of the room, under a serial of the connection that this client has there. -/
def roomRecord (serial : String) (action : Presence.Action) (data : String) : Message :=
  { action := Message.Action.presence.code, channel := some "room", connectionId := some "conn-1",
    presence := some [{
      id := some ("conn-1:" ++ serial ++ ":0"), action := action.code, clientId := some "ann",
      data := some (.text data) }] }

/-- This connection has entered ann in the room and then brought her up to date; a caller
listens there. -/
def updatedRoom : List Input :=
  [.command 0 .connect, .link 1 (.message
      { action := Message.Action.connected.code, connectionId := some "conn-1" }),
    .command 1 (.channel "room" (.subscribe none)), .link 1 (.message (roomAttached 0)),
    .link 1 (.message (roomRecord "3" .enter "old")),
    .link 1 (.message (roomRecord "5" .update "new"))]

/-- What is known of ann comes once more, and nothing comes of it. -/
theorem a_second_echo_changes_nothing :
    let c := ((fresh keyOptions []).run updatedRoom).value
    let p : Presence := ⟨some "conn-1:5:0", .update, "ann", "conn-1", .text "new", none⟩
    let r := c.step (.link 1 (.message (roomRecord "5" .update "new")))
    (c.roster "room").isNews p = false ∧ c.isOwn p = true ∧
      (c.roster "room").own.get? "ann" = some p ∧ r.log = [] ∧
      (r.value.roster "room").own = (c.roster "room").own := by
  obtain ⟨-, hlog, hch, -, hown⟩ :=
    a_stale_record_changes_nothing_unless_it_misstates_what_was_entered keyOptions [] updatedRoom
      (roomRecord "5" .update "new") "room"
      (((fresh keyOptions []).run updatedRoom).value.channelOrNew "room") [] []
      ⟨some "conn-1:5:0", .update, "ann", "conn-1", .text "new", none⟩ rfl rfl rfl rfl rfl
  exact ⟨rfl, rfl, rfl, hlog,
    (congrArg Roster.own (roster_of_some hch)).trans (hown.mpr fun h => h.2 rfl)⟩

/-- The enter of before comes once more. Nobody is told and ann is kept as she is, but the next
attach enters her again with the old data, not with the new as it would have done. -/
theorem a_stale_enter_brings_old_data_back :
    let c := ((fresh keyOptions []).run updatedRoom).value
    let stale := roomRecord "3" .enter "old"
    let p : Presence := ⟨some "conn-1:3:0", .enter, "ann", "conn-1", .text "old", none⟩
    let r := c.step (.link 1 (.message stale))
    let attached : Input := .link 1 (.message (roomAttached 0))
    Presence.arrivals stale = [p] ∧ (c.roster "room").isNews p = false ∧
      c.Misstates (c.roster "room") p ∧ r.log = [] ∧
      (c.roster "room").members.values.map (·.data) = [.text "new"] ∧
      (r.value.roster "room").members = (c.roster "room").members ∧
      (c.roster "room").ownMembers.map (·.data) = [.text "new"] ∧
      (r.value.roster "room").ownMembers = [p] ∧
      Simulation.sentBy (c.step attached).log =
        [{ Message.publish "room" .enter "ann" (.text "new") with msgSerial := some 0 }] ∧
      Simulation.sentBy (r.value.step attached).log =
        [{ Message.publish "room" .enter "ann" (.text "old") with msgSerial := some 0 }] := by
  decide

end Client

end PresenceClient
