-- The laws of the end of a sync: whoever is left was named while the sync was under way, and
-- whoever was not named is reported as having left. An attach begins a sync, but not where one
-- is under way: that one goes on, and whom it had named by then is left too.
import PresenceClient.Proofs.ConnectionRuns
import PresenceClient.Proofs.SyncSifting

namespace PresenceClient

open Roster (Move Sifting)

/-- The time that a message of the link gives. -/
def Input.timestamp : Input → Option Int
  | .link _ (.message m) => m.timestamp
  | _ => none

namespace Client

/-! ## The moves of a step -/

section Moves

variable {c : Client} {name : String} {i : Input}

theorem sifting_attachMoves (m : Message) : Sifting m.timestamp (attachMoves m) := by
  unfold attachMoves
  split
  · exact .started nofun
  · have hnone : ∀ move ∈ ([] : List Move), move.isTaking = true := nofun
    exact .ended hnone

theorem isRecord_liveMoves (ps : List Presence) :
    ∀ move ∈ ps.flatMap c.liveMoves, move.isRecord = true := fun move hmove => by
  obtain ⟨p, -, hp⟩ := List.mem_flatMap.mp hmove
  unfold liveMoves at hp
  split at hp
  · rcases List.mem_pair.mp hp with rfl | rfl <;> rfl
  · cases List.mem_singleton.mp hp
    rfl

theorem sifting_liveMoves (ps : List Presence) (timestamp : Option Int) :
    Sifting timestamp (ps.flatMap c.liveMoves) :=
  .taking fun move hmove => Move.isTaking_of_isRecord (isRecord_liveMoves ps move hmove)

theorem sifting_pageMoves (m : Message) : Sifting m.timestamp (pageMoves m) := by
  have htaking : ∀ move ∈ (Presence.arrivals m).map Move.put ++ [.setCursor m.channelSerial],
      move.isTaking = true := by
    intro move hmove
    rcases List.mem_append.mp hmove with hmove | hmove
    · obtain ⟨p, -, rfl⟩ := List.mem_map.mp hmove
      rfl
    · cases List.mem_singleton.mp hmove
      rfl
  unfold pageMoves
  split
  · have h : Sifting m.timestamp _ := .ended htaking
    rwa [List.append_assoc] at h
  · exact .started htaking

/-- In a step some records may be taken in, and a sync may begin and end. -/
theorem sifting_rosterMoves (c : Client) (name : String) (i : Input) :
    Sifting i.timestamp (c.rosterMoves name i) := by
  have hnone : ∀ {timestamp}, Sifting timestamp [] := .taking nofun
  unfold rosterMoves
  split
  · split
    · unfold messageMoves
      split
      · split
        · split
          · exact sifting_attachMoves _
          · exact hnone
        · exact sifting_liveMoves _ _
        · split
          · exact sifting_pageMoves _
          · exact hnone
        · exact hnone
      · exact hnone
    · exact hnone
  · exact hnone

/-- The word of the server that a channel is attached. -/
theorem rosterMoves_of_hearsAttached {generation : Nat} {m : Message}
    (h : c.hearsAttached name (.link generation (.message m)) = true) :
    c.rosterMoves name (.link generation (.message m)) = attachMoves m := by
  simp only [hearsAttached, takesAttached, Bool.and_eq_true, decide_eq_true_eq, beq_iff_eq,
    Option.any_eq_true] at h
  obtain ⟨hgeneration, ⟨haction, hm⟩, ch, hch, haccepts⟩ := h
  simp only [rosterMoves, if_pos hgeneration, messageMoves, if_pos hm, hch, haction, if_pos haccepts]

end Moves

/-! ## Named members -/

/-- In a run, a record of the member was taken in, and a sync was under way at all times since. -/
inductive NamedInSync (c : Client) (name : String) : List Input → MemberKey → Prop
  | now {first : List Input} {i : Input} {key : MemberKey}
      (h : key ∈ Roster.named ((c.run first).value.rosterMoves name i)) :
      NamedInSync c name (first ++ [i]) key
  | still {first : List Input} {i : Input} {key : MemberKey}
      (hs : ((c.run first).value.roster name).isSyncing = true)
      (h : NamedInSync c name first key) : NamedInSync c name (first ++ [i]) key

/-- A record of the member is taken in at some step of a run. -/
def Names (c : Client) (name : String) (key : MemberKey) : List Input → Prop
  | [] => False
  | i :: rest => key ∈ Roster.named (c.rosterMoves name i) ∨ (c.step i).value.Names name key rest

section Named

variable {c : Client} {name : String} {key : MemberKey} {first later : List Input} {i : Input}

theorem value_run_snoc : (c.run (first ++ [i])).value = ((c.run first).value.step i).value := by
  rw [run_snoc, Logged.value_bind]

theorem value_run_append :
    (c.run (first ++ later)).value = ((c.run first).value.run later).value := by
  rw [run_append, Logged.value_bind]

theorem namedInSync_snoc : NamedInSync c name (first ++ [i]) key ↔
    ((c.run first).value.roster name).NamedAfter (NamedInSync c name first)
      ((c.run first).value.rosterMoves name i) key := by
  constructor
  · intro h
    generalize hall : first ++ [i] = all at h
    cases h with
    | now h =>
      obtain ⟨rfl, hi⟩ := List.append_inj' hall rfl
      cases hi
      exact .inl h
    | still hs h =>
      obtain ⟨rfl, hi⟩ := List.append_inj' hall rfl
      cases hi
      exact .inr ⟨hs, h⟩
  · rintro (h | ⟨hs, h⟩)
    · exact .now h
    · exact .still hs h

theorem names_snoc : c.Names name key (later ++ [i]) ↔ c.Names name key later ∨
    key ∈ Roster.named ((c.run later).value.rosterMoves name i) := by
  induction later generalizing c with
  | nil => simp [Names, run]
  | cons j rest ih =>
    rw [List.cons_append, Names, ih, Names, or_assoc, run_cons, Logged.value_bind]

/-- While a sync is under way, those count as named who had been named before and those who
are named now. -/
theorem namedInSync_append (h : ∀ pre j, pre ++ [j] <+: later →
      ((c.run (first ++ pre)).value.roster name).isSyncing = true) :
    NamedInSync c name (first ++ later) key ↔
      (c.run first).value.Names name key later ∨ NamedInSync c name first key := by
  induction later using List.reverseRecOn with
  | nil => simp [Names]
  | append_singleton rest i ih =>
    have hs := h rest i (List.prefix_refl _)
    rw [← List.append_assoc, namedInSync_snoc, Roster.NamedAfter, names_snoc,
      ih fun pre j hp => h pre j (hp.trans (List.prefix_append rest [i])), value_run_append]
    rw [value_run_append] at hs
    simp only [hs, true_and]
    tauto

end Named

/-! ## Runs -/

section Runs

variable {options : Options} {words : List UInt64} {name : String}

/-- A step is the moves that it makes, or all members are forgotten. -/
theorem roster_run_snoc (options : Options) (words : List UInt64) (name : String)
    (first : List Input) (i : Input) :
    let c := ((fresh options words).run first).value
    (c.step i).value.roster name = (c.roster name).after (c.rosterMoves name i) ∨
      c.rosterMoves name i = [] ∧ (c.step i).value.roster name = {} :=
  step_roster (timed_run options words first).2 i name

/-- Wherever a run has brought a roster, it is consistent, and a sync that is under way has
sifted it. -/
theorem sifted_run (options : Options) (words : List UInt64) (name : String)
    (inputs : List Input) :
    let r := ((fresh options words).run inputs).value.roster name
    r.Consistent ∧
      (r.isSyncing = true → r.Sifted (NamedInSync (fresh options words) name inputs)) := by
  induction inputs using List.reverseRecOn with
  | nil => exact ⟨Roster.consistent_fresh, nofun⟩
  | append_singleton first i ih =>
    obtain ⟨hconsistent, hsifted⟩ := ih
    have hnamed : NamedInSync (fresh options words) name (first ++ [i]) =
        Roster.NamedAfter _ (NamedInSync (fresh options words) name first) _ :=
      funext fun key => propext namedInSync_snoc
    rw [value_run_snoc, hnamed]
    rcases roster_run_snoc options words name first i with hr | ⟨-, hr⟩
    · rw [hr]
      exact ⟨Roster.consistent_after hconsistent _, fun hs =>
        Roster.sifted_sifting hsifted (sifting_rosterMoves _ name i) hs⟩
    · rw [hr]
      exact ⟨Roster.consistent_fresh, nofun⟩

/-- While a sync is under way, whoever is not named stays as they are. -/
theorem members_while_syncing {first later : List Input} {key : MemberKey}
    (h : ∀ pre j, pre ++ [j] <+: later →
      (((fresh options words).run (first ++ (pre ++ [j]))).value.roster name).isSyncing = true)
    (hnot : ¬((fresh options words).run first).value.Names name key later) :
    (((fresh options words).run (first ++ later)).value.roster name).members.get? key =
      (((fresh options words).run first).value.roster name).members.get? key := by
  induction later using List.reverseRecOn with
  | nil => rw [List.append_nil]
  | append_singleton rest i ih =>
    obtain ⟨hrest, hi⟩ := not_or.mp (mt names_snoc.mpr hnot)
    have hs := h rest i (List.prefix_refl _)
    rw [← List.append_assoc, value_run_snoc] at hs ⊢
    rw [← value_run_append] at hi
    rw [← ih (fun pre j hp => h pre j (hp.trans (List.prefix_append rest [i]))) hrest]
    rcases roster_run_snoc options words name (first ++ rest) i with hr | ⟨-, hr⟩
    · rw [hr] at hs ⊢
      exact Roster.members_sifting (sifting_rosterMoves _ name i) hs hi
    · rw [hr] at hs
      cases hs

/-- In a step that ends a sync, the members that have been named stay, and all who listen are
told that the others have left. -/
theorem ended_step {first : List Input} {i : Input} {taken : List Move} {timestamp : Option Int}
    (hmoves : ((fresh options words).run first).value.rosterMoves name i =
      .startSync :: (taken ++ [.endSync timestamp])) (htaken : ∀ m ∈ taken, m.isTaking = true) :
    let c := ((fresh options words).run first).value
    let named := (c.roster name).NamedAfter (NamedInSync (fresh options words) name first)
      (c.rosterMoves name i)
    ((c.step i).value.roster name).sync = .complete ∧
      (∀ key p, ((c.step i).value.roster name).members.get? key = some p ↔
        ((c.roster name).startSync.after taken).members.get? key = some p ∧ named key) ∧
      ∀ key p, (c.roster name).members.get? key = some p → ¬named key →
        ∀ id ∈ (c.channelOrNew name).presenceListeners.recipients .leave,
          Effect.notify id (.presence (Roster.leaveOf timestamp p)) ∈ (c.step i).log := by
  intro c named
  obtain ⟨-, hsifted⟩ := sifted_run options words name first
  obtain ⟨hsync, hmembers, hreported⟩ := Roster.ended_sifting hsifted htaken
  have hr : (c.step i).value.roster name = (c.roster name).after (c.rosterMoves name i) := by
    rcases roster_run_snoc options words name first i with hr | ⟨hnone, -⟩
    · exact hr
    · rw [hmoves] at hnone
      cases hnone
  rw [← hmoves] at hsync hmembers hreported
  refine ⟨by rw [hr]; exact hsync, fun key p => by rw [hr]; exact hmembers key p, ?_⟩
  intro key p hp hnot id hid
  exact step_told (timed_run options words first).2 (hreported key p hp hnot) hid

/-- A sync that is under way comes to its end with a step that ends it. -/
theorem ended_of_complete {first : List Input} {i : Input}
    (hs : (((fresh options words).run first).value.roster name).isSyncing = true)
    (hc : ((((fresh options words).run first).value.step i).value.roster name).sync = .complete) :
    ∃ taken, (∀ m ∈ taken, Move.isTaking m = true) ∧
      ((fresh options words).run first).value.rosterMoves name i =
        .startSync :: (taken ++ [.endSync i.timestamp]) := by
  have hsifting := sifting_rosterMoves ((fresh options words).run first).value name i
  rcases roster_run_snoc options words name first i with hr | ⟨-, hr⟩
  · rw [hr] at hc
    generalize ((fresh options words).run first).value.rosterMoves name i = moves
      at hsifting hc ⊢
    cases hsifting with
    | taking hm =>
      rw [Roster.sync_after_taking hm] at hc
      simp [Roster.isSyncing, hc] at hs
    | started hm =>
      rw [Roster.after_cons, Roster.sync_after_taking hm] at hc
      cases Roster.sync_startSync.symm.trans hc
    | ended hm => exact ⟨_, hm, rfl⟩
  · rw [hr] at hc
    cases hc

/-! ## From an attach on -/

section Attach

variable {first middle : List Input} {generation : Nat} {m : Message} {key : MemberKey}

/-- An attach where members are present names nobody, and the sync that it finds goes on. -/
theorem namedInSync_attach
    (hears : ((fresh options words).run first).value.hearsAttached name
      (.link generation (.message m)) = true) :
    NamedInSync (fresh options words) name (first ++ [.link generation (.message m)]) key ↔
      (((fresh options words).run first).value.roster name).isSyncing = true ∧
        NamedInSync (fresh options words) name first key := by
  have hnone : key ∉ Roster.named (attachMoves m) := by
    unfold attachMoves
    split <;> exact List.not_mem_nil
  rw [namedInSync_snoc, Roster.NamedAfter, rosterMoves_of_hearsAttached hears, or_iff_right hnone]

/-- Those whom a sync has named by its end were named since the attach or before it. -/
theorem namedInSync_since_attach (last : Input)
    (hears : ((fresh options words).run first).value.hearsAttached name
      (.link generation (.message m)) = true)
    (hmiddle : ∀ pre, pre <+: middle → (((fresh options words).run
      (first ++ [.link generation (.message m)] ++ pre)).value.roster name).isSyncing = true) :
    NamedInSync (fresh options words) name
        (first ++ [.link generation (.message m)] ++ middle ++ [last]) key ↔
      ((fresh options words).run (first ++ [.link generation (.message m)])).value.Names name key
          (middle ++ [last]) ∨
        (((fresh options words).run first).value.roster name).isSyncing = true ∧
          NamedInSync (fresh options words) name first key := by
  rw [← namedInSync_attach hears, List.append_assoc _ middle]
  refine namedInSync_append fun pre j hp => hmiddle pre ?_
  rcases List.prefix_concat_iff.mp hp with he | hp
  · obtain ⟨rfl, -⟩ := List.append_inj' he rfl
    exact List.prefix_refl pre
  · exact (List.prefix_append pre [j]).trans hp

/-- From the attach on, whoever is not named stays as they are until the sync ends. -/
theorem members_since_attach
    (hears : ((fresh options words).run first).value.hearsAttached name
      (.link generation (.message m)) = true)
    (hmiddle : ∀ pre, pre <+: middle → (((fresh options words).run
      (first ++ [.link generation (.message m)] ++ pre)).value.roster name).isSyncing = true)
    (hnot : ¬((fresh options words).run (first ++ [.link generation (.message m)])).value.Names
      name key middle) :
    (((fresh options words).run (first ++ [.link generation (.message m)] ++ middle)).value.roster
        name).members.get? key =
      (((fresh options words).run first).value.roster name).members.get? key := by
  rw [List.append_assoc]
  refine members_while_syncing (fun pre j hp => ?_) ?_
  · rcases List.prefix_cons_iff.mp hp with he | ⟨rest, he, hrest⟩
    · simp at he
    · rw [he, ← List.singleton_append, ← List.append_assoc]
      exact hmiddle rest hrest
  · rw [List.singleton_append, Names, rosterMoves_of_hearsAttached hears, ← value_run_snoc]
    refine not_or.mpr ⟨?_, hnot⟩
    unfold attachMoves
    split <;> exact List.not_mem_nil

end Attach

end Runs

/-! ## A room -/

/-- The word of the server that the room is attached. -/
def roomAttached (flags : Int) : Message :=
  { action := Message.Action.attached.code, channel := some "room", flags := some flags }

/-- A page of a sync of the room, with one member. -/
def roomPage (serial clientId : String) : Message :=
  { action := Message.Action.sync.code, channel := some "room", channelSerial := some serial,
    connectionId := some "conn-2",
    presence := some [{ action := Presence.Action.present.code, clientId := some clientId }] }

/-- A member of the room, as it is kept. -/
def roomMember (clientId : String) : Presence :=
  { id := none, action := .present, clientId := clientId, connectionId := "conn-2", data := .null,
    timestamp := none }

/-- A caller listens in the room, and a sync of it has begun. -/
def syncingRoom : List Input :=
  greeting ++ [.command 1 (.channel "room" (.subscribe none)),
    .link 1 (.message (roomAttached 1))]

/-- The sync is over, and ann is in the room. -/
def settledRoom : List Input := syncingRoom ++ [.link 1 (.message (roomPage "one:" "ann"))]

/-- The sync has named ann and goes on. -/
def unfinishedRoom : List Input := syncingRoom ++ [.link 1 (.message (roomPage "one:1" "ann"))]

/-! ## The laws -/

section Laws

variable (options : Options) (words : List UInt64) (name : String) (first : List Input)
  (generation : Nat) (m : Message)

/-- When the server attaches a channel and says that nobody is present, the sync is over, and
all members have left and are reported, but for those whom a sync that was under way has
named: they stay. -/
theorem an_attach_without_members_leaves_only_whom_a_sync_under_way_has_named
    (hears : ((fresh options words).run first).value.hearsAttached name
      (.link generation (.message m)) = true) (hnobody : m.has .hasPresence = false) :
    let c := ((fresh options words).run first).value
    let after := c.step (.link generation (.message m))
    let stays := fun key => (c.roster name).isSyncing = true ∧
      NamedInSync (fresh options words) name first key
    (after.value.roster name).sync = .complete ∧
      (∀ key p, (after.value.roster name).members.get? key = some p ↔
        (c.roster name).members.get? key = some p ∧ stays key) ∧
      ∀ key p, (c.roster name).members.get? key = some p → ¬stays key →
        ∀ id ∈ (c.channelOrNew name).presenceListeners.recipients .leave,
          Effect.notify id (.presence (Roster.leaveOf m.timestamp p)) ∈ after.log := by
  intro c after stays
  have hmoves : c.rosterMoves name (.link generation (.message m)) =
      .startSync :: ([] ++ [.endSync m.timestamp]) := by
    rw [rosterMoves_of_hearsAttached hears, attachMoves, hnobody]
    rfl
  have hnamed : ∀ key, (c.roster name).NamedAfter (NamedInSync (fresh options words) name first)
      (c.rosterMoves name (.link generation (.message m))) key ↔ stays key := by
    intro key
    rw [hmoves, Roster.NamedAfter]
    exact or_iff_right List.not_mem_nil
  have hnone : ∀ move ∈ ([] : List Move), move.isTaking = true :=
    fun _ hmove => absurd hmove List.not_mem_nil
  obtain ⟨hsync, hmembers, htold⟩ := ended_step hmoves hnone
  refine ⟨hsync, fun key p => ?_, fun key p hp hnot => htold key p hp (mt (hnamed key).mp hnot)⟩
  rw [hmembers, hnamed, Roster.after_nil, Roster.members_startSync]

end Laws

/-- Where no sync is under way, all have left. -/
theorem an_attach_without_members_empties_a_settled_room :
    let c := ((fresh keyOptions []).run settledRoom).value
    let after := c.step (.link 1 (.message (roomAttached 0)))
    c.hearsAttached "room" (.link 1 (.message (roomAttached 0))) = true ∧
      (roomAttached 0).has .hasPresence = false ∧
      (c.roster "room").members.keys = [(roomMember "ann").key] ∧
      (after.value.roster "room").sync = .complete ∧
      (∀ key p, (after.value.roster "room").members.get? key ≠ some p) ∧
      Effect.notify 0 (.presence (Roster.leaveOf none (roomMember "ann"))) ∈ after.log := by
  intro c after
  have hcalm : (c.roster "room").isSyncing = false := rfl
  obtain ⟨hsync, hmembers, htold⟩ :=
    an_attach_without_members_leaves_only_whom_a_sync_under_way_has_named keyOptions [] "room"
      settledRoom 1 (roomAttached 0) rfl rfl
  refine ⟨rfl, rfl, rfl, hsync, fun key p hp => ?_, ?_⟩
  · exact nomatch hcalm.symm.trans ((hmembers key p).mp hp).2.1
  · refine htold (roomMember "ann").key (roomMember "ann") rfl (fun hstays => ?_) 0 ?_
    · exact nomatch hcalm.symm.trans hstays.1
    · exact List.mem_singleton.mpr rfl

/-- The server says that nobody is present, and ann stays in the room: the sync that has named
her was under way. -/
theorem an_attach_without_members_leaves_a_member :
    let c := ((fresh keyOptions []).run unfinishedRoom).value
    let after := c.step (.link 1 (.message (roomAttached 0)))
    c.hearsAttached "room" (.link 1 (.message (roomAttached 0))) = true ∧
      (roomAttached 0).has .hasPresence = false ∧
      (after.value.roster "room").sync = .complete ∧
      (after.value.roster "room").members.keys = [(roomMember "ann").key] ∧
      told after.log = [] := ⟨rfl, rfl, rfl, rfl, rfl⟩

section Laws

variable (options : Options) (words : List UInt64) (name : String) (first : List Input)
  (generation : Nat) (m : Message)

/-- The server attaches a channel, and as members are present a sync goes on from there until a
last step ends it. Whoever is left then was named since the attach, or before it by a sync that
was under way at the attach, as that one has gone on. All others have left and are reported.
Of the steps between nothing else is asked: a detach or a failure would not let the sync go on. -/
theorem a_sync_leaves_only_whom_it_has_named (middle : List Input) (last : Input) :
    let before := ((fresh options words).run first).value
    let attached := (before.step (.link generation (.message m))).value
    let ended := (attached.run middle).value
    let named := fun key => attached.Names name key (middle ++ [last]) ∨
      (before.roster name).isSyncing = true ∧ NamedInSync (fresh options words) name first key
    before.hearsAttached name (.link generation (.message m)) = true →
    (∀ pre, pre <+: middle → ((attached.run pre).value.roster name).isSyncing = true) →
    ((ended.step last).value.roster name).sync = .complete →
      (∀ key p, ((ended.step last).value.roster name).members.get? key = some p → named key) ∧
      ∀ key p, (before.roster name).members.get? key = some p → ¬named key →
        ((ended.step last).value.roster name).members.get? key = none ∧
          ∀ id ∈ (ended.channelOrNew name).presenceListeners.recipients .leave,
            Effect.notify id (.presence (Roster.leaveOf last.timestamp p)) ∈
              (ended.step last).log := by
  intro before attached ended named hears hmiddle hcomplete
  have hattached : attached =
      ((fresh options words).run (first ++ [.link generation (.message m)])).value :=
    value_run_snoc.symm
  have hrun : ∀ later, (attached.run later).value =
      ((fresh options words).run (first ++ [.link generation (.message m)] ++ later)).value :=
    fun later => by rw [value_run_append, hattached]
  have hmiddle' : ∀ pre, pre <+: middle → (((fresh options words).run
      (first ++ [.link generation (.message m)] ++ pre)).value.roster name).isSyncing = true :=
    fun pre hp => by
      rw [← hrun]
      exact hmiddle pre hp
  have hended : ended = _ := hrun middle
  have hnamed : ∀ key, NamedInSync (fresh options words) name
      (first ++ [.link generation (.message m)] ++ middle ++ [last]) key ↔ named key := fun key => by
    rw [namedInSync_since_attach last hears hmiddle', ← hattached]
  rw [hended] at hcomplete ⊢
  obtain ⟨taken, htaken, hmoves⟩ :=
    ended_of_complete (hmiddle' middle (List.prefix_refl _)) hcomplete
  obtain ⟨-, hmembers, htold⟩ := ended_step hmoves htaken
  have hleft : ∀ key p, (((((fresh options words).run (first ++ [.link generation (.message m)] ++
      middle)).value.step last).value.roster name).members.get? key = some p) → named key :=
    fun key p hp => (hnamed key).mp (namedInSync_snoc.mpr ((hmembers key p).mp hp).2)
  refine ⟨hleft, fun key p hp hnot => ⟨?_, fun id hid => ?_⟩⟩
  · exact Option.eq_none_iff_forall_not_mem.mpr fun q hq => hnot (hleft key q hq)
  · have hstill : ¬attached.Names name key middle := fun h => hnot (.inl (names_snoc.mpr (.inl h)))
    rw [hattached] at hstill
    refine htold key p ?_ (fun h => hnot ((hnamed key).mp (namedInSync_snoc.mpr h))) id hid
    rw [members_since_attach hears hmiddle' hstill]
    exact hp

end Laws

/-- Ann and cid are in the room, and no sync is under way. -/
def fullRoom : List Input :=
  syncingRoom ++ [.link 1 (.message (roomPage "one:1" "ann")),
    .link 1 (.message (roomPage "one:" "cid"))]

/-- The sync after an attach names ann and then bob, so cid has left. -/
theorem a_sync_leaves_ann_and_bob :
    let before := ((fresh keyOptions []).run fullRoom).value
    let attached := (before.step (.link 1 (.message (roomAttached 1)))).value
    let ended := (attached.run [.link 1 (.message (roomPage "two:1" "ann"))]).value
    let after := ended.step (.link 1 (.message (roomPage "two:" "bob")))
    (before.roster "room").members.keys = [(roomMember "ann").key, (roomMember "cid").key] ∧
      (after.value.roster "room").members.keys =
        [(roomMember "ann").key, (roomMember "bob").key] ∧
      (after.value.roster "room").members.get? (roomMember "cid").key = none ∧
      Effect.notify 0 (.presence (Roster.leaveOf none (roomMember "cid"))) ∈ after.log := by
  intro before attached ended after
  have hcalm : (before.roster "room").isSyncing = false := rfl
  have hnot : ¬(attached.Names "room" (roomMember "cid").key
      [.link 1 (.message (roomPage "two:1" "ann")), .link 1 (.message (roomPage "two:" "bob"))] ∨
        (before.roster "room").isSyncing = true ∧
          NamedInSync (fresh keyOptions []) "room" fullRoom (roomMember "cid").key) := by
    rintro ((h | h | h) | h)
    · exact absurd (List.mem_singleton.mp h) (by decide)
    · exact absurd (List.mem_singleton.mp h) (by decide)
    · exact h
    · exact nomatch hcalm.symm.trans h.1
  obtain ⟨-, hgone⟩ := a_sync_leaves_only_whom_it_has_named keyOptions [] "room" fullRoom 1
    (roomAttached 1) [.link 1 (.message (roomPage "two:1" "ann"))]
    (.link 1 (.message (roomPage "two:" "bob"))) rfl (fun pre hp => by
      rcases List.prefix_cons_iff.mp hp with rfl | ⟨rest, rfl, hrest⟩
      · rfl
      · rw [List.prefix_nil.mp hrest]
        rfl) rfl
  obtain ⟨hcid, htold⟩ := hgone (roomMember "cid").key (roomMember "cid") rfl hnot
  exact ⟨rfl, rfl, hcid, htold 0 (List.mem_singleton.mpr rfl)⟩

/-- The attach comes while a sync is under way that has named ann. The sync after it does not
name her, and she is left and is not reported. -/
theorem a_sync_leaves_a_ghost :
    let before := ((fresh keyOptions []).run unfinishedRoom).value
    let attached := (before.step (.link 1 (.message (roomAttached 1)))).value
    let after := attached.step (.link 1 (.message (roomPage "two:" "bob")))
    before.hearsAttached "room" (.link 1 (.message (roomAttached 1))) = true ∧
      (roomAttached 1).has .hasPresence = true ∧ (roomAttached 1).has .resumed = false ∧
      (after.value.roster "room").sync = .complete ∧
      (after.value.roster "room").members.keys =
        [(roomMember "ann").key, (roomMember "bob").key] ∧
      ¬attached.Names "room" (roomMember "ann").key
        [.link 1 (.message (roomPage "two:" "bob"))] ∧
      told after.log = [(0, roomMember "bob")] := by
  refine ⟨rfl, rfl, rfl, rfl, rfl, ?_, rfl⟩
  rintro (h | h)
  · exact absurd (List.mem_singleton.mp h) (by decide)
  · exact h

end Client

end PresenceClient
