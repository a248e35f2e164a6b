-- The law of rest: on a channel that is out of use nobody is known of, unless a live record
-- strays there. A sync leaves nothing behind in any case.
import PresenceClient.Proofs.EventLaws

namespace PresenceClient

open Roster (Move)

/-! ## Vacant rosters -/

namespace Roster

/-- Nobody is known of: no member, none who has left, and none that this connection entered. -/
structure IsVacant (r : Roster) : Prop where
  members : r.members = ∅
  gone : r.gone = ∅
  own : r.own = ∅

/-- No sync has ever begun. -/
structure IsUnsynced (r : Roster) : Prop where
  gone : r.gone = ∅
  residual : r.residual = []
  sync : r.sync = .notStarted
  cursor : r.cursor = none

theorem isVacant_fresh : IsVacant {} := ⟨rfl, rfl, rfl⟩

theorem isUnsynced_fresh : IsUnsynced {} := ⟨rfl, rfl, rfl, rfl⟩

variable {r : Roster}

theorem eq_fresh_of_isVacant (h : r.IsVacant) (hu : r.IsUnsynced) : r = {} := by
  obtain ⟨members, gone, residual, own, sync, cursor⟩ := r
  obtain ⟨rfl, rfl, rfl⟩ := h
  obtain ⟨-, rfl, rfl, rfl⟩ := hu
  rfl

theorem isUnsynced_put (h : r.IsUnsynced) (p : Presence) : (r.put p).1.IsUnsynced := by
  have hmark : r.mark p.key = r := if_neg (by simp [isSyncing, h.sync])
  obtain ⟨hresidual, -, hsync, hcursor⟩ := put_rest (r := r) (p := p)
  refine ⟨?_, (hmark ▸ hresidual).trans h.residual, hsync.trans h.sync, hcursor.trans h.cursor⟩
  unfold put
  rw [hmark]
  split
  · unfold accept
    split
    · show r.gone.erase p.key = ∅
      rw [h.gone]
      rfl
    · show (if r.isSyncing then r.gone.put p.key p else r.gone) = ∅
      rw [if_neg (by simp [isSyncing, h.sync]), h.gone]
  · exact h.gone

theorem isUnsynced_trackOwn (h : r.IsUnsynced) (p : Presence) : (r.trackOwn p).IsUnsynced := by
  unfold trackOwn
  split <;> exact ⟨h.gone, h.residual, h.sync, h.cursor⟩

end Roster

namespace Client

/-! ## Stray records -/

/-- Live records reach a channel that is out of use, and by them somebody would be known of
there even if nobody had been before. -/
def Strays (c : Client) (name : String) (i : Input) : Prop :=
  ∃ m ch, i = .link c.connection.generation (.message m) ∧
    Message.Action.ofCode? m.action = some .presence ∧ m.channel = some name ∧
    c.channel? name = some ch ∧ ch.state.isResting = true ∧
    ¬(({} : Roster).after ((Presence.arrivals m).flatMap c.liveMoves)).IsVacant

section Rest

variable {c : Client} {name : String} {i : Input}

theorem isUnsynced_live {r : Roster} (h : r.IsUnsynced) (ps : List Presence) :
    (r.after (ps.flatMap c.liveMoves)).IsUnsynced := by
  induction ps generalizing r with
  | nil => exact h
  | cons p rest ih =>
    rw [List.flatMap_cons, Roster.after, List.foldl_append]
    refine ih ?_
    unfold liveMoves
    split
    · exact Roster.isUnsynced_put (Roster.isUnsynced_trackOwn h p) p
    · exact Roster.isUnsynced_put h p

/-- Out of use, a channel takes in live records, and nothing else. -/
theorem rosterMoves_of_resting (hrest : (c.channelOrNew name).state.isResting = true) :
    c.rosterMoves name i = [] ∨ ∃ m ch, i = .link c.connection.generation (.message m) ∧
      Message.Action.ofCode? m.action = some .presence ∧ m.channel = some name ∧
      c.channel? name = some ch ∧
        c.rosterMoves name i = (Presence.arrivals m).flatMap c.liveMoves := by
  cases i with
  | link generation event =>
    cases event with
    | ended error => exact .inl rfl
    | message m =>
      unfold rosterMoves messageMoves
      dsimp only
      split
      · split
        · rename_i hg hm
          subst hg
          split
          · rename_i ch hch _
            rw [channelOrNew_of_some hch] at hrest
            refine .inl (if_neg fun ha => ?_)
            rcases state_of_acceptsAttached ha with hs | hs | hs <;>
              simp [hs, Channel.State.isResting] at hrest
          · rename_i ch hch ha
            exact .inr ⟨m, ch, rfl, ha, hm, hch, rfl⟩
          · rename_i ch hch _
            rw [channelOrNew_of_some hch] at hrest
            exact .inl (if_neg fun hs => by simp [hs, Channel.State.isResting] at hrest)
          · exact .inl rfl
        · exact .inl rfl
      · exact .inl rfl
  | _ => exact .inl rfl

/-- If nobody is known of on the channel out of use, neither before a step nor after it, then no
record has strayed there. -/
theorem not_strays (htimed : c.connection.Timed)
    (hunsynced : (c.channelOrNew name).state.isResting = true → (c.roster name).IsUnsynced)
    (hbefore : (c.channelOrNew name).state.isResting = true → (c.roster name).IsVacant)
    (hafter : ((c.step i).value.channelOrNew name).state.isResting = true →
      ((c.step i).value.roster name).IsVacant) : ¬c.Strays name i := by
  rintro ⟨m, ch, rfl, ha, hm, hch, hrest, hnews⟩
  rw [← channelOrNew_of_some hch] at hrest
  have hmoves : c.rosterMoves name (.link c.connection.generation (.message m)) =
      (Presence.arrivals m).flatMap c.liveMoves := by
    rw [rosterMoves, if_pos rfl, messageMoves, if_pos hm, hch, ha]
  have hvacant := hafter (by
    rw [((step_of_hearsRecords (by simp [hearsRecords, ha])).2 name).1]
    exact hrest)
  rcases step_roster htimed (.link c.connection.generation (.message m)) name with he | ⟨hnone, -⟩
  · have hfresh : c.roster name = {} :=
      Roster.eq_fresh_of_isVacant (hbefore hrest) (hunsynced hrest)
    rw [hfresh, hmoves] at he
    exact hnews (he ▸ hvacant)
  · rw [hmoves] at hnone
    rw [hnone] at hnews
    exact hnews Roster.isVacant_fresh

end Rest

/-! ## Runs -/

section Runs

variable {options : Options} {words : List UInt64} {name : String} {inputs : List Input}

theorem isUnsynced_run (options : Options) (words : List UInt64) (name : String)
    (inputs : List Input) :
    let c := ((fresh options words).run inputs).value
    (c.channelOrNew name).state.isResting = true → (c.roster name).IsUnsynced := by
  induction inputs using List.reverseRecOn with
  | nil => exact fun _ => Roster.isUnsynced_fresh
  | append_singleton first i ih =>
    rw [value_run_snoc]
    intro c hrest
    rcases step_rests (timed_run options words first).2 i name hrest with he | ⟨hrest', he⟩
    · rw [he]
      exact Roster.isUnsynced_fresh
    · rw [he]
      rcases rosterMoves_of_resting hrest' with hnone | ⟨m, ch, -, -, -, -, hmoves⟩
      · rw [hnone]
        exact ih hrest'
      · rw [hmoves]
        exact isUnsynced_live (ih hrest') _

/-- No live record strays to the channel in the run. -/
def NothingStrays (options : Options) (words : List UInt64) (name : String)
    (inputs : List Input) : Prop :=
  ∀ first i, first ++ [i] <+: inputs → ¬((fresh options words).run first).value.Strays name i

theorem vacant_run (h : NothingStrays options words name inputs) :
    let c := ((fresh options words).run inputs).value
    (c.channelOrNew name).state.isResting = true → c.roster name = {} := by
  induction inputs using List.reverseRecOn with
  | nil => exact fun _ => rfl
  | append_singleton first i ih =>
    have hvacant := ih fun p j hp => h p j (hp.trans (List.prefix_append first [i]))
    have hnot := h first i (List.prefix_refl _)
    rw [value_run_snoc]
    intro c hrest
    rcases step_rests (timed_run options words first).2 i name hrest with he | ⟨hrest', he⟩
    · exact he
    · rw [hvacant hrest'] at he
      rcases rosterMoves_of_resting hrest' with hnone | ⟨m, ch, hi, ha, hm, hch, hmoves⟩
      · rw [he, hnone]
        rfl
      · rw [channelOrNew_of_some hch] at hrest'
        rw [he, hmoves]
        exact Roster.eq_fresh_of_isVacant
          (by_contra fun hnews => hnot ⟨m, ch, hi, ha, hm, hch, hrest', hnews⟩)
          (isUnsynced_live Roster.isUnsynced_fresh _)

end Runs

/-! ## The law -/

/-- Wherever a run has brought a channel, nobody is known of on it while it is initialized,
detached or failed, if and only if no live record strays there on the way. -/
theorem a_channel_out_of_use_has_no_members_unless_a_record_strays (options : Options)
    (words : List UInt64) (name : String) (inputs : List Input) :
    (∀ first, first <+: inputs →
      let ch := ((fresh options words).run first).value.channelOrNew name
      ch.state = .initialized ∨ ch.state = .detached ∨ ch.state = .failed → ch.roster.IsVacant) ↔
      NothingStrays options words name inputs := by
  have hresting : ∀ s : Channel.State,
      s = .initialized ∨ s = .detached ∨ s = .failed ↔ s.isResting = true := fun s => by
    cases s <;> simp [Channel.State.isResting]
  simp only [hresting]
  constructor
  · intro h first i hp
    have hbefore := h first ((List.prefix_append first _).trans hp)
    have hafter := h _ hp
    rw [value_run_snoc] at hafter
    exact not_strays (timed_run options words first).2 (isUnsynced_run options words name first)
      hbefore hafter
  · intro h first hp hrest
    have hempty := vacant_run (fun p i hpi => h p i (hpi.trans hp)) hrest
    show (((fresh options words).run first).value.roster name).IsVacant
    rw [hempty]
    exact Roster.isVacant_fresh

/-- A caller attaches the room and detaches it, and the server does both. -/
def leftRoom : List Input :=
  [.command 0 .connect, .link 1 (.message
      { action := Message.Action.connected.code, connectionId := some "conn-1" }),
    .command 1 (.channel "room" .attach), .link 1 (.message (roomAttached 0)),
    .command 2 (.channel "room" .detach), .link 1 (.message
      { action := Message.Action.detached.code, channel := some "room" })]

/-- A live record of the room: this connection has entered ann. -/
def roomEcho : Message :=
  { action := Message.Action.presence.code, channel := some "room", connectionId := some "conn-1",
    presence := some [{ action := Presence.Action.enter.code, clientId := some "ann" }] }

/-- A record that comes late leaves a member on a detached channel, and the next attach enters
her again, whom no caller has entered since. -/
theorem a_detached_channel_has_a_member :
    let c := ((fresh keyOptions []).run (leftRoom ++ [.link 1 (.message roomEcho)])).value
    let ch := c.channelOrNew "room"
    let again := c.run [.command 3 (.channel "room" .attach), .link 1 (.message (roomAttached 0))]
    ch.state = .detached ∧ ch.roster.members.keys = [⟨"ann", "conn-1"⟩] ∧
      ch.roster.ownMembers.map (·.clientId) = ["ann"] ∧ ¬ch.roster.IsVacant ∧
      Effect.send { Message.publish "room" .enter "ann" .null with msgSerial := some 0 }
        (.first (.reentry "room" "ann")) ∈ again.log := by
  refine ⟨rfl, rfl, rfl, fun h => ?_, ?_⟩
  · have hmembers := h.members
    cases hmembers
  · exact List.mem_of_getElem? (i := 2) rfl

end Client

end PresenceClient
