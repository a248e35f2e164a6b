-- The law of broken syncs. The pages that a run has shown of a sync say how far it has got: to the
-- last of them. A link that comes up in a session that is resumed asks for the rest from there on,
-- and nothing else ever asks.
import PresenceClient.Proofs.SyncLaws
import PresenceClient.Proofs.SyncRequests

namespace PresenceClient

open Roster (Move)

/-! ## How far a sync has got -/

namespace Roster

/-- A sync has got to the last of the pages that it has brought. -/
def HasRead (pages : List (Option String)) (r : Roster) : Prop :=
  r.isSyncing = true → pages.getLast? = r.cursor.map some

section Moves

variable {r : Roster} {moves : List Move} {pages : List (Option String)}

theorem cursor_record {m : Move} (h : m.isRecord = true) : (r.move m).1.cursor = r.cursor := by
  cases m with
  | put p => exact put_rest.2.2.2
  | trackOwn p =>
    show (r.trackOwn p).cursor = r.cursor
    unfold trackOwn
    split <;> rfl
  | _ => cases h

theorem cursor_records (h : ∀ m ∈ moves, m.isRecord = true) :
    (r.after moves).cursor = r.cursor := by
  induction moves generalizing r with
  | nil => rfl
  | cons m rest ih =>
    rw [after_cons, ih fun m' hm' => h m' (List.mem_cons_of_mem _ hm'),
      cursor_record (h m List.mem_cons_self)]

theorem sync_records (h : ∀ m ∈ moves, m.isRecord = true) : (r.after moves).sync = r.sync :=
  sync_after_taking fun m hm => Move.isTaking_of_isRecord (h m hm)

/-- A sync that is under way goes on from where it is, and any other has read nothing yet. -/
theorem hasRead_startSync (h : r.HasRead pages) :
    r.startSync.HasRead (if r.isSyncing then pages else []) := fun _ => by
  cases hs : r.isSyncing with
  | true =>
    rw [startSync_of_syncing hs, if_pos rfl]
    exact h hs
  | false =>
    rw [startSync_of_not_syncing hs]
    rfl

theorem hasRead_endSync (timestamp : Option Int) : (r.endSync timestamp).1.HasRead pages := nofun

/-- Records bring a sync no further. -/
theorem hasRead_records (h : r.HasRead pages) (hm : ∀ m ∈ moves, m.isRecord = true) :
    (r.after moves).HasRead (if r.isSyncing then pages else []) := fun hs => by
  have hsyncing : r.isSyncing = true := by
    rw [isSyncing, ← sync_records hm]
    exact hs
  rw [cursor_records hm, if_pos hsyncing]
  exact h hsyncing

end Moves

end Roster

/-- A page that is not the last one says where the sync goes on. -/
theorem exists_of_not_isLastPage {serial : Option String} (h : isLastPage serial = false) :
    ∃ cursor, serial = some cursor := by
  cases serial with
  | none => cases h
  | some cursor => exact ⟨cursor, rfl⟩

namespace Client

section Words

variable {r : Roster} {pages : List (Option String)}

theorem hasRead_attachMoves (h : r.HasRead pages) (m : Message) :
    (r.after (attachMoves m)).HasRead (if r.isSyncing then pages else []) := by
  unfold attachMoves
  cases m.has .hasPresence with
  | true => exact Roster.hasRead_startSync h
  | false => exact Roster.hasRead_endSync m.timestamp

/-- A page brings the sync to where it says, unless it is the last one. -/
theorem hasRead_pageMoves (m : Message) :
    (r.after (pageMoves m)).HasRead (pages ++ [m.channelSerial]) := by
  unfold pageMoves
  cases hlast : isLastPage m.channelSerial with
  | true =>
    rw [if_pos rfl, List.append_cons, Roster.after_append]
    exact Roster.hasRead_endSync m.timestamp
  | false =>
    obtain ⟨cursor, hcursor⟩ := exists_of_not_isLastPage hlast
    rw [if_neg Bool.false_ne_true, Roster.after_append, hcursor]
    exact fun _ => List.getLast?_concat

end Words

/-! ## The pages of a sync -/

/-- Does a message bring a page of a sync to an attached channel? -/
def BringsPage (c : Client) (name : String) (m : Message) : Prop :=
  m.channel = some name ∧ Message.Action.ofCode? m.action = some .sync ∧
    (c.channelOrNew name).state = .attached

instance (c : Client) (name : String) (m : Message) : Decidable (c.BringsPage name m) :=
  inferInstanceAs (Decidable (_ ∧ _ ∧ _))

/-- The serial of the page of a sync that an input brings to an attached channel. -/
def page (c : Client) (name : String) : Input → List (Option String)
  | .link generation (.message m) =>
    if generation = c.connection.generation ∧ c.BringsPage name m then [m.channelSerial] else []
  | _ => []

/-- The pages of the sync that is under way after one step more. -/
def pagesStep (c : Client) (name : String) (pages : List (Option String)) (i : Input) :
    List (Option String) :=
  if ((c.step i).value.roster name).isSyncing then
    (if (c.roster name).isSyncing then pages else []) ++ c.page name i
  else []

/-- The pages of the sync that is under way after a run. -/
def pages (c : Client) (name : String) (sofar : List (Option String)) :
    List Input → List (Option String)
  | [] => sofar
  | i :: rest => (c.step i).value.pages name (c.pagesStep name sofar i) rest

theorem pages_append (c : Client) (name : String) (sofar : List (Option String))
    (first later : List Input) : c.pages name sofar (first ++ later) =
      (c.run first).value.pages name (c.pages name sofar first) later := by
  induction first generalizing c sofar with
  | nil => rfl
  | cons i rest ih => exact ih (c.step i).value (c.pagesStep name sofar i)

/-- The pages that the sync of a channel has brought since it began, if one is under way. -/
def pagesOf (options : Options) (words : List UInt64) (name : String) (inputs : List Input) :
    List (Option String) := (fresh options words).pages name [] inputs

theorem pagesOf_snoc (options : Options) (words : List UInt64) (name : String)
    (first : List Input) (i : Input) : pagesOf options words name (first ++ [i]) =
      ((fresh options words).run first).value.pagesStep name
        (pagesOf options words name first) i := by
  rw [pagesOf, pages_append]
  rfl

/-- A message brings a page, or attaches the channel, or brings records. -/
theorem messageMoves_cases (c : Client) (name : String) (m : Message) :
    c.BringsPage name m ∧ c.messageMoves name m = pageMoves m ∨
      ¬c.BringsPage name m ∧ (c.messageMoves name m = attachMoves m ∨
        ∀ move ∈ c.messageMoves name m, move.isRecord = true) := by
  have hnone : ∀ move ∈ ([] : List Move), move.isRecord = true := nofun
  unfold messageMoves BringsPage
  by_cases hm : m.channel = some name
  swap
  · rw [if_neg hm]
    exact .inr ⟨fun h => hm h.1, .inr hnone⟩
  rw [if_pos hm]
  cases hch : c.channel? name with
  | none =>
    rw [channelOrNew, hch]
    exact .inr ⟨fun h => absurd h.2.2 (by decide), .inr hnone⟩
  | some ch =>
    rw [channelOrNew_of_some hch]
    split
    · rename_i ha
      refine .inr ⟨fun h => absurd (ha.symm.trans h.2.1) (by decide), ?_⟩
      split
      · exact .inl rfl
      · exact .inr hnone
    · rename_i ha
      exact .inr ⟨fun h => absurd (ha.symm.trans h.2.1) (by decide), .inr (isRecord_liveMoves _)⟩
    · rename_i hsome ha
      cases hsome
      by_cases hs : ch.state = .attached
      · rw [if_pos hs]
        exact .inl ⟨⟨hm, ha, hs⟩, rfl⟩
      · rw [if_neg hs]
        exact .inr ⟨fun h => hs h.2.2, .inr hnone⟩
    · rename_i hno
      exact .inr ⟨fun h => hno ch rfl h.2.1, .inr hnone⟩

/-- A step brings a page, or attaches the channel, or takes in records. -/
theorem rosterMoves_cases (c : Client) (name : String) (i : Input) :
    (∃ m, c.rosterMoves name i = pageMoves m ∧ c.page name i = [m.channelSerial]) ∨
      c.page name i = [] ∧ ((∃ m, c.rosterMoves name i = attachMoves m) ∨
        ∀ move ∈ c.rosterMoves name i, move.isRecord = true) := by
  have hnone : ∀ move ∈ ([] : List Move), move.isRecord = true := nofun
  cases i with
  | link generation event =>
    cases event with
    | ended error => exact .inr ⟨rfl, .inr hnone⟩
    | message m =>
      by_cases hg : generation = c.connection.generation
      · subst hg
        rw [page, rosterMoves, if_pos rfl]
        rcases messageMoves_cases c name m with ⟨hpage, hmoves⟩ | ⟨hpage, hmoves⟩
        · rw [if_pos ⟨rfl, hpage⟩]
          exact .inl ⟨m, hmoves, rfl⟩
        · rw [if_neg fun h => hpage h.2]
          exact .inr ⟨rfl, hmoves.imp_left fun hmoves => ⟨m, hmoves⟩⟩
      · rw [page, rosterMoves, if_neg hg, if_neg fun h => hg h.1]
        exact .inr ⟨rfl, .inr hnone⟩
  | _ => exact .inr ⟨rfl, .inr hnone⟩

/-! ## Runs -/

/-- A step that brings a page takes the sync to it, and any other step leaves the sync where it
is, or begins it or ends it. -/
theorem hasRead_step {c : Client} {name : String} {pages : List (Option String)}
    (ht : c.connection.Timed) (h : (c.roster name).HasRead pages) (i : Input) :
    ((c.step i).value.roster name).HasRead (c.pagesStep name pages i) := by
  intro hs
  rw [pagesStep, if_pos hs]
  rcases step_roster ht i name with hr | ⟨-, hr⟩
  · rw [hr] at hs ⊢
    rcases rosterMoves_cases c name i with ⟨m, hmoves, hpage⟩ | ⟨hpage, ⟨m, hmoves⟩ | hmoves⟩
    · rw [hmoves] at hs ⊢
      rw [hpage]
      exact hasRead_pageMoves m hs
    · rw [hmoves] at hs ⊢
      rw [hpage, List.append_nil]
      exact hasRead_attachMoves h m hs
    · rw [hpage, List.append_nil]
      exact Roster.hasRead_records h hmoves hs
  · rw [hr] at hs
    cases hs

/-- Wherever a run has brought a sync, it has got to the last page that the run has shown of it. -/
theorem hasRead_run (options : Options) (words : List UInt64) (name : String)
    (inputs : List Input) : (((fresh options words).run inputs).value.roster name).HasRead
      (pagesOf options words name inputs) := by
  induction inputs using List.reverseRecOn with
  | nil => exact nofun
  | append_singleton first i ih =>
    rw [value_run_snoc, pagesOf_snoc]
    exact hasRead_step (timed_run options words first).2 ih i

/-! ## The law -/

/-- In every run, an input that brings up a new link in the session that the client had makes the
client ask, once for each attached channel with a sync under way that has brought a page since it
began, for the rest of that sync after the last page, before anything goes out that was queued on
the channel. No other input makes it ask for the rest of a sync. -/
theorem a_broken_sync_is_taken_up_after_its_last_page (options : Options) (words : List UInt64)
    (inputs : List Input) (i : Input) :
    let c := ((fresh options words).run inputs).value
    let lastPage := fun name =>
      if (c.channelOrNew name).state = .attached ∧ (c.roster name).isSyncing = true then
        (pagesOf options words name inputs).getLast?
      else none
    (c.Resumes i → syncRequests (c.step i).log = c.channels.keys.filterMap fun name =>
        (lastPage name).map fun serial =>
          { action := Message.Action.sync.code, channel := some name, channelSerial := serial }) ∧
      (¬c.Resumes i → syncRequests (c.step i).log = []) ∧
      c.channels.keys.Nodup ∧ RequestsFirst (c.step i).log := by
  intro c lastPage
  have hs : Sound c := sound_run (sound_fresh options words) inputs
  obtain ⟨hresumes, hnot, hfirst⟩ := syncRequests_of_step hs (kept_run options words inputs) i
  refine ⟨fun h => (hresumes h).trans ?_, hnot, Table.keys_nodup hs.ordered, hfirst⟩
  refine List.filterMap_congr fun name _ => ?_
  by_cases hlive : (c.channelOrNew name).state = .attached ∧ (c.roster name).isSyncing = true
  · have hrequest : (c.channelOrNew name).restRequest name =
        (c.roster name).cursor.map (Message.sync name) := if_pos hlive
    have hlast : lastPage name = (c.roster name).cursor.map some :=
      (if_pos hlive).trans (hasRead_run options words name inputs hlive.2)
    rw [hrequest, hlast, Option.map_map]
    rfl
  · have hrequest : (c.channelOrNew name).restRequest name = none := if_neg hlive
    have hlast : lastPage name = none := if_neg hlive
    rw [hrequest, hlast]
    rfl

/-- Of two attached channels, a sync of the room has brought two pages and a sync of the hall has
brought none. The link is lost, a caller enters the room, and a new link is opened. -/
def brokenRoom : List Input :=
  [.command 0 .connect, .link 1 (.message
      { action := Message.Action.connected.code, connectionId := some "conn-1" }),
    .command 1 (.channel "room" .attach), .link 1 (.message (roomAttached 1)),
    .command 2 (.channel "hall" .attach),
    .link 1 (.message { roomAttached 1 with channel := some "hall" }),
    .link 1 (.message (roomPage "one:1" "ann")), .link 1 (.message (roomPage "one:2" "bob")),
    .link 1 (.ended none), .command 3 (.channel "room" (.publish .enter (some "cy") .null)),
    .command 4 .connect]

/-- The greeting of the link that is opened then, in a session. -/
def newGreeting (session : String) : Input :=
  .link 3 (.message { action := Message.Action.connected.code, connectionId := some session })

/-- In the session of before, the client asks for what comes after the second page and then
enters the room. In a new session it asks for nothing. -/
theorem the_sync_of_the_room_goes_on_after_two_pages :
    let c := ((fresh keyOptions []).run brokenRoom).value
    c.Resumes (newGreeting "conn-1") ∧ ¬c.Resumes (newGreeting "conn-2") ∧
      c.channels.keys = ["hall", "room"] ∧
      pagesOf keyOptions [] "room" brokenRoom = [some "one:1", some "one:2"] ∧
      pagesOf keyOptions [] "hall" brokenRoom = [] ∧
      syncRequests (c.step (newGreeting "conn-1")).log = [Message.sync "room" "one:2"] ∧
      RequestsFirst (c.step (newGreeting "conn-1")).log ∧
      (c.step (newGreeting "conn-1")).log = [.send (Message.sync "room" "one:2") .notice,
        .send { Message.publish "room" .enter "cy" .null with msgSerial := some 0 }
          (.first (.caller 3))] ∧
      syncRequests (c.step (newGreeting "conn-2")).log = [] := by
  intro c
  have hresumes : c.Resumes (newGreeting "conn-1") :=
    ⟨_, ⟨rfl, rfl, by decide +kernel⟩, by decide +kernel⟩
  have hnot : ¬c.Resumes (newGreeting "conn-2") := by
    rintro ⟨m, ⟨hm, -⟩, hsame⟩
    cases hm
    exact absurd hsame (by decide +kernel)
  obtain ⟨hrequests, -, -, hfirst⟩ :=
    a_broken_sync_is_taken_up_after_its_last_page keyOptions [] brokenRoom (newGreeting "conn-1")
  obtain ⟨-, hnone, -⟩ :=
    a_broken_sync_is_taken_up_after_its_last_page keyOptions [] brokenRoom (newGreeting "conn-2")
  refine ⟨hresumes, hnot, by decide +kernel, by decide +kernel, by decide +kernel,
    (hrequests hresumes).trans (by decide +kernel), hfirst, by decide +kernel, hnone hnot⟩

end Client

end PresenceClient
