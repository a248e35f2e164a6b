-- The law of the events: whoever listens on a channel can keep the book of its members from
-- what is heard alone, as long as the members are not all forgotten at once. No listener is
-- taken for another, since no id is given out twice.
import Mathlib.Data.List.Nodup
import PresenceClient.Proofs.StepFates
import PresenceClient.Proofs.SyncLaws

namespace PresenceClient

open Roster (Move)

/-! ## The book of a roster -/

namespace Roster

/-- What an event makes of a book of members: whoever is here is entered under their key, and
whoever is not is struck out. -/
def retell (book : Table MemberKey Presence) (p : Presence) : Table MemberKey Presence :=
  if p.action.isHere then book.put p.key p.asMember else book.erase p.key

variable {r : Roster}

theorem members_put_retold (p : Presence) :
    (r.put p).1.members = (r.put p).2.toList.foldl retell r.members := by
  have hmark : (r.mark p.key).members = r.members := mark_rest.1
  unfold put
  split
  · show ((r.mark p.key).accept p).members = retell r.members p
    unfold accept retell
    split <;> rw [hmark]
  · exact hmark

/-- Those who have not been named leave one by one. -/
theorem members_endSync_retold (h : r.Consistent) (timestamp : Option Int) :
    (r.endSync timestamp).1.members = (r.endSync timestamp).2.foldl retell r.members := by
  have hkeys : ∀ ks : List MemberKey, (∀ k ∈ ks, ∃ p, r.members.get? k = some p) →
      (ks.filterMap r.members.get?).map Presence.key = ks := by
    intro ks
    induction ks with
    | nil => exact fun _ => rfl
    | cons k rest ih =>
      intro hks
      obtain ⟨p, hp⟩ := hks k List.mem_cons_self
      rw [List.filterMap_cons_some hp, List.map_cons, (h.member k p hp).1,
        ih fun k hk => hks k (List.mem_cons_of_mem _ hk)]
  have hresidual : r.residual.foldl Table.erase r.members =
      ((r.residual.filterMap r.members.get?).map Presence.key).foldl Table.erase r.members := by
    rw [hkeys r.residual h.residual]
  unfold endSync
  dsimp only
  rw [hresidual, List.foldl_map, List.foldl_map]
  rfl

/-- What a move reports makes the same of the members as the move does. -/
theorem members_move_retold (h : r.Consistent) {m : Move} (hm : m ≠ .reset) :
    (r.move m).1.members = (r.move m).2.foldl retell r.members := by
  cases m with
  | put p => exact members_put_retold p
  | endSync timestamp => exact members_endSync_retold h timestamp
  | startSync => exact members_startSync
  | reset => exact absurd rfl hm
  | trackOwn p =>
    show (r.trackOwn p).members = r.members
    unfold trackOwn
    split <;> rfl
  | setCursor cursor => rfl

theorem members_retold (h : r.Consistent) {moves : List Move} (hm : .reset ∉ moves) :
    (r.after moves).members = (r.reports moves).foldl retell r.members := by
  induction moves generalizing r with
  | nil => rfl
  | cons m rest ih =>
    obtain ⟨hne, hrest⟩ := not_or.mp (mt List.mem_cons.mpr hm)
    rw [after_cons, reports, List.foldl_append, ih (consistent_move h m) hrest,
      members_move_retold h fun he => hne he.symm]

end Roster

namespace Client

/-! ## The events of a run -/

/-- A step forgets the members of a channel: nobody is known there any more, where somebody was,
and no word of the server says so. -/
def Forgets (c : Client) (name : String) (i : Input) : Prop :=
  c.rosterMoves name i = [] ∧ c.roster name ≠ {} ∧ (c.step i).value.roster name = {}

/-- What is to be told of the members of a channel in a run, in order. -/
def events (c : Client) (name : String) : List Input → List Presence
  | [] => []
  | i :: rest => (c.roster name).reports (c.rosterMoves name i) ++ (c.step i).value.events name rest

/-- Something holds at each step of a run. -/
def Throughout (P : Client → Input → Prop) (c : Client) : List Input → Prop
  | [] => True
  | i :: rest => P c i ∧ (c.step i).value.Throughout P rest

/-- No step has a roster reset on the way. -/
theorem reset_notMem_rosterMoves (c : Client) (name : String) (i : Input) :
    .reset ∉ c.rosterMoves name i := by
  have h := sifting_rosterMoves c name i
  generalize c.rosterMoves name i = moves at h
  have hnot : ∀ moves : List Move, (∀ m ∈ moves, m.isTaking = true) → .reset ∉ moves :=
    fun _ hm hmem => nomatch hm _ hmem
  cases h with
  | taking hm => exact hnot _ hm
  | started hm => simpa using hnot _ hm
  | ended hm => simpa using hnot _ hm

section Events

variable {options : Options} {words : List UInt64} {name : String} {first later : List Input}

/-- As long as they are not forgotten, the members are what the events make of those before. -/
theorem members_run_retold
    (h : ((fresh options words).run first).value.Throughout (fun d i => ¬d.Forgets name i) later) :
    (((fresh options words).run (first ++ later)).value.roster name).members =
      (((fresh options words).run first).value.events name later).foldl Roster.retell
        (((fresh options words).run first).value.roster name).members := by
  induction later generalizing first with
  | nil => rw [List.append_nil]; rfl
  | cons i rest ih =>
    obtain ⟨hkept, hrest⟩ := h
    have hroster := roster_run_snoc options words name first i
    have hconsistent := (sifted_run options words name first).1
    rw [← value_run_snoc] at hrest
    rw [← List.singleton_append, ← List.append_assoc, ih hrest, List.singleton_append, events,
      List.foldl_append, value_run_snoc]
    congr 1
    rw [← Roster.members_retold hconsistent (reset_notMem_rosterMoves _ name i)]
    congr 1
    rcases hroster with hr | ⟨hnone, hr⟩
    · exact hr
    · rw [hnone, Roster.after_nil, hr]
      exact Eq.symm (by_contra fun hne => hkept ⟨hnone, hne, hr⟩)

end Events

/-! ## No listener is taken for another -/

/-- Nobody is named twice among those who hear of an event, or on two channels, and the next id
is new. -/
structure Distinct (c : Client) : Prop where
  once : ∀ name action, (c.audience name action).Nodup
  known : ∀ name action, ∀ id ∈ c.audience name action, id < c.nextListener
  apart : ∀ name other action kind, ∀ id ∈ c.audience name action,
    id ∈ c.audience other kind → name = other

theorem distinct_fresh (options : Options) (words : List UInt64) :
    Distinct (fresh options words) :=
  ⟨fun _ _ => List.nodup_nil, fun _ _ _ h => absurd h List.not_mem_nil,
    fun _ _ _ _ _ h => absurd h List.not_mem_nil⟩

theorem distinct_step {c : Client} (h : Distinct c) (i : Input) : Distinct (c.step i).value := by
  rcases enrols_step c i with ⟨hnext, hsub⟩ | ⟨hnext, one, hsub⟩
  · refine ⟨fun name action => (h.once name action).sublist (hsub name action),
      fun name action id hid => ?_, fun name other action kind id hid hid' => ?_⟩
    · rw [hnext]
      exact h.known name action id ((hsub name action).mem hid)
    · exact h.apart name other action kind id ((hsub name action).mem hid)
        ((hsub other kind).mem hid')
  · -- One who has just come has an id that none had before.
    have hmem : ∀ name action, ∀ id ∈ (c.step i).value.audience name action,
        id ∈ c.audience name action ∨ name = one ∧ id = c.nextListener := by
      intro name action id hid
      rcases List.mem_append.mp ((hsub name action).mem hid) with hid | hid
      · exact .inl hid
      · split at hid
        · exact .inr ⟨‹_›, List.mem_singleton.mp hid⟩
        · cases hid
    have hnew : ∀ name action, c.nextListener ∉ c.audience name action := fun name action hid =>
      Nat.lt_irrefl _ (h.known name action _ hid)
    refine ⟨fun name action => ?_, fun name action id hid => ?_,
      fun name other action kind id hid hid' => ?_⟩
    · refine List.Nodup.sublist (hsub name action) ?_
      split
      · exact List.nodup_append.mpr ⟨h.once name action, by simp,
          fun a ha b hb he => hnew name action (List.mem_singleton.mp hb ▸ he ▸ ha)⟩
      · rw [List.append_nil]
        exact h.once name action
    · rw [hnext]
      rcases hmem name action id hid with hid | ⟨-, rfl⟩
      · exact Nat.lt_succ_of_lt (h.known name action id hid)
      · exact Nat.lt_succ_self _
    · rcases hmem name action id hid with hid | ⟨rfl, rfl⟩
      · rcases hmem other kind id hid' with hid' | ⟨-, rfl⟩
        · exact h.apart name other action kind id hid hid'
        · exact absurd hid (hnew name action)
      · rcases hmem other kind _ hid' with hid' | ⟨rfl, -⟩
        · exact absurd hid' (hnew other kind)
        · rfl

theorem distinct_run (options : Options) (words : List UInt64) (inputs : List Input) :
    Distinct ((fresh options words).run inputs).value :=
  run_keeps (P := Distinct) (fun _ i h => distinct_step h i) (distinct_fresh options words) inputs

/-! ## What a listener hears -/

/-- The listener has asked for all events of the channel, and its receiver is there. -/
def Listens (c : Client) (name : String) (id : ListenerId) : Prop :=
  ∃ e ∈ (c.channelOrNew name).presenceListeners.entries,
    e.id = id ∧ e.filter = none ∧ e.isOpen = true

/-- What a listener is told of members in a log, in order. -/
def heard (id : ListenerId) (log : List Effect) : List Presence :=
  (told log).filterMap fun t => if t.1 = id then some t.2 else none

theorem heard_append (id : ListenerId) (a b : List Effect) :
    heard id (a ++ b) = heard id a ++ heard id b := by
  rw [heard, told_append, List.filterMap_append, heard, heard]

section Heard

variable {c : Client} {name : String} {id : ListenerId}

theorem mem_audience_of_listens (h : c.Listens name id) (action : Presence.Action) :
    id ∈ c.audience name action := by
  obtain ⟨e, hmem, hid, hfilter, hopen⟩ := h
  refine (Listener.Registry.mem_recipients _ _ _).mpr ⟨e, hmem, ?_, hopen, hid⟩
  rw [Listener.Registration.wants, hfilter]
  rfl

/-- Each event reaches a listener as often as it is among those who hear of it. -/
theorem heard_tellings (id : ListenerId) (ch : Channel) (ps : List Presence) :
    (ch.tellings ps).filterMap (fun t => if t.1 = id then some t.2 else none) =
      ps.flatMap fun p =>
        List.replicate ((ch.presenceListeners.recipients p.action).count id) p := by
  have hone : ∀ (ids : List ListenerId) (p : Presence),
      (ids.map fun other => (other, p)).filterMap
        (fun t => if t.1 = id then some t.2 else none) = List.replicate (ids.count id) p := by
    intro ids p
    induction ids with
    | nil => rfl
    | cons other rest ih =>
      rw [List.map_cons]
      by_cases hid : other = id
      · simp [hid, ih, List.replicate_succ]
      · simp [hid, ih]
  induction ps with
  | nil => rfl
  | cons p rest ih =>
    rw [Channel.tellings, List.flatMap_cons, List.filterMap_append, hone, List.flatMap_cons]
    exact congrArg _ ih

/-- In a step, a listener hears the events of its channel, each once and in order. -/
theorem heard_step (htimed : c.connection.Timed) (hd : Distinct c) (hl : c.Listens name id)
    (i : Input) :
    heard id (c.step i).log = (c.roster name).reports (c.rosterMoves name i) := by
  have hmem := mem_audience_of_listens hl
  rcases outcome_step htimed i with
    (⟨⟨links, k, hleads, -⟩, hnone⟩ | ⟨one, k, hmeets, hothers, -⟩) |
    ⟨now, rfl⟩
  · have hnone' : c.rosterMoves name i = [] := hnone name
    rw [hnone', heard, hleads.told]
    rfl
  · rw [heard, hmeets.told, heard_tellings]
    by_cases hne : name = one
    · subst hne
      have honce : ∀ p : Presence, List.replicate
          (((c.channelOrNew name).presenceListeners.recipients p.action).count id) p = [p] := by
        intro p
        have hcount : ((c.channelOrNew name).presenceListeners.recipients p.action).count id = 1 :=
          List.count_eq_one_of_mem (hd.once name p.action) (hmem p.action)
        rw [hcount]
        rfl
      simp only [honce, List.flatMap_singleton']
    · have hnone : c.rosterMoves name i = [] := hothers name hne
      rw [hnone, Roster.reports, List.flatMap_eq_nil_iff]
      intro p _
      have hcount : ((c.channelOrNew one).presenceListeners.recipients p.action).count id = 0 :=
        List.count_eq_zero.mpr fun hid =>
          hne (hd.apart name one p.action p.action id (hmem p.action) hid)
      rw [hcount]
      rfl
  · rfl

theorem heard_run {options : Options} {words : List UInt64} {first later : List Input}
    (h : ((fresh options words).run first).value.Throughout (fun d _ => d.Listens name id) later) :
    heard id (((fresh options words).run first).value.run later).log =
      ((fresh options words).run first).value.events name later := by
  induction later generalizing first with
  | nil => rfl
  | cons i rest ih =>
    obtain ⟨hl, hrest⟩ := h
    have hstep := heard_step (timed_run options words first).2 (distinct_run options words first)
      hl i
    rw [← value_run_snoc] at hrest
    have hih := ih hrest
    rw [value_run_snoc] at hih
    rw [run_cons, Logged.log_bind, heard_append, hstep, hih, events]

end Heard

/-! ## The law -/

/-- From a time at which nobody is present on a channel, and as long as its members are not all
forgotten at once, the members are what its events make of an empty book. Whoever listens on
the channel all the time hears just these events, in order. -/
theorem the_events_tell_the_members (options : Options) (words : List UInt64) (name : String)
    (first later : List Input)
    (hempty : (((fresh options words).run first).value.roster name).members = ∅)
    (hkept : ((fresh options words).run first).value.Throughout
      (fun d i => ¬d.Forgets name i) later) :
    let c := ((fresh options words).run first).value
    let r := c.run later
    (r.value.roster name).members = (c.events name later).foldl Roster.retell ∅ ∧
      ∀ id, c.Throughout (fun d _ => d.Listens name id) later →
        heard id r.log = c.events name later := by
  intro c r
  refine ⟨?_, fun id h => heard_run h⟩
  have hmembers := members_run_retold hkept
  rwa [value_run_append, hempty] at hmembers

/-- A live record of the room: a member leaves. -/
def roomLeave (clientId : String) : Message :=
  { action := Message.Action.presence.code, channel := some "room", connectionId := some "conn-2",
    presence := some [{ action := Presence.Action.leave.code, clientId := some clientId }] }

/-- A sync names ann and bob, and then ann leaves. -/
def roomTraffic : List Input :=
  [.link 1 (.message (roomPage "one:1" "ann")), .link 1 (.message (roomPage "one:" "bob")),
    .link 1 (.message (roomLeave "ann"))]

theorem roomTraffic_keeps : ((fresh keyOptions []).run syncingRoom).value.Throughout
    (fun d i => ¬d.Forgets "room" i) roomTraffic :=
  ⟨fun h => absurd h.1 (by decide), fun h => absurd h.1 (by decide),
    fun h => absurd h.1 (by decide), trivial⟩

theorem roomTraffic_heard : ((fresh keyOptions []).run syncingRoom).value.Throughout
    (fun d _ => d.Listens "room" 0) roomTraffic :=
  ⟨⟨_, List.mem_cons_self, rfl, rfl, rfl⟩, ⟨_, List.mem_cons_self, rfl, rfl, rfl⟩,
    ⟨_, List.mem_cons_self, rfl, rfl, rfl⟩, trivial⟩

/-- The caller who listens in the room hears of ann, of bob and of ann again, and can tell that
bob is left. -/
theorem the_events_tell_that_bob_is_left :
    let c := ((fresh keyOptions []).run syncingRoom).value
    let r := c.run roomTraffic
    (c.roster "room").members = ∅ ∧
      heard 0 r.log =
        [roomMember "ann", roomMember "bob", { roomMember "ann" with action := .leave }] ∧
      (r.value.roster "room").members = (heard 0 r.log).foldl Roster.retell ∅ ∧
      (r.value.roster "room").members.values = [roomMember "bob"] := by
  obtain ⟨hmembers, hheard⟩ :=
    the_events_tell_the_members keyOptions [] "room" syncingRoom roomTraffic rfl roomTraffic_keeps
  refine ⟨rfl, rfl, ?_, rfl⟩
  rw [hheard 0 roomTraffic_heard]
  exact hmembers

end Client

end PresenceClient
