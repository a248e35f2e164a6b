-- The turns of a roster: what the server's words of a channel do to those who are present
-- there. Each of them comes down to a list of moves, and listeners are told just what the
-- moves report. All else that happens on a channel keeps its roster or forgets it.
import PresenceClient.Proofs.ConnectionFrames
import PresenceClient.Proofs.RosterMoves

namespace PresenceClient

open Logged (tell)
open Roster (Move)

/-! ## Telling listeners -/

/-- Clearing out those who have gone away leaves those who hear an event. -/
@[simp] theorem Listener.Registry.recipients_prune {κ : Type} [DecidableEq κ]
    (r : Listener.Registry κ) (kind : κ) : r.prune.recipients kind = r.recipients kind := by
  unfold recipients prune
  rw [List.filter_filter]
  congr 2
  funext e
  cases e.isOpen <;> simp

namespace Channel

/-- What the listeners of a channel are told of some records, in order. -/
def tellings (ch : Channel) (ps : List Presence) : List (ListenerId × Presence) :=
  ps.flatMap fun p => (ch.presenceListeners.recipients p.action).map fun id => (id, p)

/-- The channel has the roster then, its listeners are told of the records, and the same ones
would hear more. No link is opened. -/
structure Reports (ch : Channel) (roster : Roster) (ps : List Presence) (x : Logged Channel) :
    Prop where
  roster : x.value.roster = roster
  audience : ∀ action,
    x.value.presenceListeners.recipients action = ch.presenceListeners.recipients action
  told : told x.log = ch.tellings ps
  opened : opened x.log = []

/-- The moves are made, and what they report is told. -/
def Performs (ch : Channel) (moves : List Move) (x : Logged Channel) : Prop :=
  Reports ch (ch.roster.after moves) (ch.roster.reports moves) x

section Reports

variable {ch ch' : Channel} {roster roster' : Roster} {ps qs : List Presence} {x : Logged Channel}
  {moves moves' : List Move}

theorem mem_tellings {id : ListenerId} {p : Presence} : (id, p) ∈ ch.tellings ps ↔
    p ∈ ps ∧ id ∈ ch.presenceListeners.recipients p.action := by
  unfold tellings
  simp only [List.mem_flatMap, List.mem_map, Prod.mk.injEq]
  constructor
  · rintro ⟨q, hq, id', hid, rfl, rfl⟩
    exact ⟨hq, hid⟩
  · rintro ⟨hp, hid⟩
    exact ⟨p, hp, id, hid, rfl, rfl⟩

theorem tellings_congr (h : ∀ action,
    ch'.presenceListeners.recipients action = ch.presenceListeners.recipients action)
    (ps : List Presence) : ch'.tellings ps = ch.tellings ps := by
  unfold tellings
  simp only [h]

theorem reports_bind {f : Channel → Logged Channel} (h1 : Reports ch roster ps x)
    (h2 : Reports x.value roster' qs (f x.value)) : Reports ch roster' (ps ++ qs) (x >>= f) := by
  refine ⟨h2.roster, fun action => (h2.audience action).trans (h1.audience action), ?_, ?_⟩
  · rw [Logged.log_bind, told_append, h1.told, h2.told, tellings_congr h1.audience, tellings,
      tellings, tellings, List.flatMap_append]
  · rw [Logged.log_bind, opened_append, h1.opened, h2.opened, List.append_nil]

theorem reports_mute (hr : x.value.roster = roster)
    (hl : x.value.presenceListeners = ch.presenceListeners) (hx : Mute x.log) :
    Reports ch roster [] x := ⟨hr, fun _ => by rw [hl], hx.told, hx.opened⟩

/-- Another roster is put in place first. -/
theorem reports_from (h : Reports ch' roster ps x)
    (hl : ch'.presenceListeners = ch.presenceListeners) : Reports ch roster ps x := by
  have haudience : ∀ action,
      ch'.presenceListeners.recipients action = ch.presenceListeners.recipients action := by
    simp [hl]
  refine ⟨h.roster, fun action => (h.audience action).trans (haudience action), ?_, h.opened⟩
  rw [h.told, tellings_congr haudience]

theorem reports_announce (ch : Channel) (p : Presence) :
    Reports ch ch.roster [p] (ch.announce p) := by
  refine ⟨rfl, fun action => Listener.Registry.recipients_prune _ action, ?_, ?_⟩
  · simp only [announce, Listener.Registry.publish, Logged.log_bind, Logged.log_tell,
      Logged.log_pure, List.append_nil, tellings, List.flatMap_cons, List.flatMap_nil]
    induction ch.presenceListeners.recipients p.action with
    | nil => rfl
    | cons id rest ih => exact congrArg ((id, p) :: ·) ih
  · simp only [announce, Listener.Registry.publish, Logged.log_bind, Logged.log_tell,
      Logged.log_pure, List.append_nil]
    induction ch.presenceListeners.recipients p.action with
    | nil => rfl
    | cons id rest ih => exact ih

theorem reports_announceAll (ch : Channel) (ps : List Presence) :
    Reports ch ch.roster ps (ch.announceAll ps) := by
  unfold announceAll
  induction ps generalizing ch with
  | nil => exact reports_mute rfl rfl mute_nil
  | cons p rest ih => exact reports_bind (reports_announce ch p) (ih (ch.announce p).value)

theorem performs_bind {f : Channel → Logged Channel} (h1 : Performs ch moves x)
    (h2 : Performs x.value moves' (f x.value)) : Performs ch (moves ++ moves') (x >>= f) := by
  unfold Performs at *
  rw [Roster.after_append, Roster.reports_append, ← h1.roster]
  exact reports_bind h1 h2

/-- What is no matter of the members comes first. -/
theorem performs_then {f : Channel → Logged Channel} (h1 : Performs ch [] x)
    (h2 : Performs x.value moves (f x.value)) : Performs ch moves (x >>= f) := performs_bind h1 h2

/-- A move that reports nothing is made first. -/
theorem performs_after {m : Move} (h : Performs ch' moves x)
    (hr : ch'.roster = (ch.roster.move m).1) (hm : (ch.roster.move m).2 = [])
    (hl : ch'.presenceListeners = ch.presenceListeners) : Performs ch (m :: moves) x := by
  unfold Performs at *
  rw [Roster.after_cons, Roster.reports, hm, ← hr]
  exact reports_from h hl

theorem performs_mute (hr : x.value.roster = ch.roster)
    (hl : x.value.presenceListeners = ch.presenceListeners) (hx : Mute x.log) : Performs ch [] x :=
  reports_mute hr hl hx

theorem performs_startSync (h : Performs { ch with roster := ch.roster.startSync } moves x) :
    Performs ch (.startSync :: moves) x := performs_after h rfl rfl rfl

theorem performs_setCursor (cursor : Option String)
    (h : Performs { ch with roster := ch.roster.setCursor cursor } moves x) :
    Performs ch (.setCursor cursor :: moves) x := performs_after h rfl rfl rfl

theorem performs_trackOwn (p : Presence)
    (h : Performs { ch with roster := ch.roster.trackOwn p } moves x) :
    Performs ch (.trackOwn p :: moves) x := performs_after h rfl rfl rfl

/-- What is done to a channel before that is no matter of its members. -/
theorem performs_from (h : Performs ch' moves x) (hr : ch'.roster = ch.roster)
    (hl : ch'.presenceListeners = ch.presenceListeners) : Performs ch moves x := by
  unfold Performs at *
  rw [hr] at h
  exact reports_from h hl

end Reports

/-! ## Words of the server -/

section Words

variable (ch : Channel)

theorem performs_become (next : State) (reason : Option ErrorInfo) (resumed : Bool) :
    Performs ch [] (ch.become next reason resumed) :=
  become_cases (fun _ => performs_mute rfl rfl (mute_append (mute_publish _ _ nofun) mute_nil))
    fun _ => performs_mute rfl rfl mute_nil

theorem performs_attachDone : Performs ch [] ch.attachDone :=
  performs_mute rfl rfl (mute_append (mute_resolveEach _ id _) mute_nil)

theorem performs_answerGets : Performs ch [] ch.answerGets :=
  performs_mute rfl rfl
    (mute_append (mute_answerGets _ fun g => .members (ch.roster.select g.query)) mute_nil)

theorem performs_answerUnsyncedGets : Performs ch [] ch.answerUnsyncedGets :=
  performs_mute rfl rfl
    (mute_append (mute_answerGets _ fun g => .members (ch.roster.select g.query)) mute_nil)

/-- A record that is news is told of. -/
theorem performs_take (p : Presence) : Performs ch [.put p] (ch.take p) := by
  have hput : Reports ch (ch.roster.put p).1 (ch.roster.put p).2.toList (ch.take p) := by
    refine take_cases (fun q hq => ?_) fun hq => ?_
    · rw [hq]
      exact reports_from (reports_announce { ch with roster := (ch.roster.put p).1 } q) rfl
    · rw [hq]
      exact reports_mute rfl rfl mute_nil
  unfold Performs
  rw [Roster.reports, Roster.reports, List.append_nil]
  exact hput

theorem performs_endSync (timestamp : Option Int) :
    Performs ch [.endSync timestamp] (ch.endSync timestamp) := by
  unfold Performs
  rw [Roster.reports, Roster.reports, List.append_nil]
  exact reports_from (reports_announceAll { ch with roster := (ch.roster.endSync timestamp).1 } _)
    rfl

/-- A list of records is taken in one by one. -/
theorem performs_foldlM {α : Type} {f : Channel → α → Logged Channel} {moves : α → List Move}
    (hf : ∀ ch x, Performs ch (moves x) (f ch x)) (xs : List α) :
    Performs ch (xs.flatMap moves) (xs.foldlM f ch) := by
  induction xs generalizing ch with
  | nil => exact performs_mute rfl rfl mute_nil
  | cons x rest ih => exact performs_bind (hf ch x) (ih (f ch x).value)

end Words

end Channel

namespace Client

/-! ## The moves of a word -/

/-- What an attach does to the roster: a sync begins, and is over at once if nobody is
present. -/
def attachMoves (m : Message) : List Move :=
  if m.has .hasPresence then [.startSync] else [.startSync, .endSync m.timestamp]

/-- What one live record does. This connection keeps its own ones in mind. -/
def liveMoves (c : Client) (p : Presence) : List Move :=
  if c.isOwn p then [.trackOwn p, .put p] else [.put p]

/-- What a page of a sync does. -/
def pageMoves (m : Message) : List Move :=
  .startSync :: (Presence.arrivals m).map .put ++
    .setCursor m.channelSerial ::
      if isLastPage m.channelSerial then [.endSync m.timestamp] else []

section Words

variable (ch : Channel) (m : Message)

theorem performs_attachedChannel : ch.Performs (attachMoves m) (attachedChannel m ch) := by
  have hattached : ch.Performs [.startSync] (toAttached m ch) := by
    have hch : ∀ serial, { ch with
        serial := serial, timer := none, reattachedAt := none }.roster = ch.roster := fun _ => rfl
    refine Channel.performs_from ?_ (hch (m.channelSerial <|> ch.serial)) rfl
    refine Channel.performs_then (Channel.performs_become _ _ _ _) ?_
    refine Channel.performs_then (Channel.performs_attachDone _) ?_
    exact Channel.performs_startSync (Channel.performs_mute rfl rfl mute_nil)
  unfold attachMoves
  refine attachedChannel_cases (fun h => ?peopled) fun h => ?empty
  case peopled =>
    rw [if_pos h]
    exact Channel.performs_bind hattached (Channel.performs_answerUnsyncedGets _)
  case empty =>
    rw [if_neg (Bool.eq_false_iff.mp h)]
    exact Channel.performs_bind hattached
      (Channel.performs_bind (Channel.performs_endSync _ _) (Channel.performs_answerGets _))

theorem performs_takeLive (c : Client) (p : Presence) :
    ch.Performs (c.liveMoves p) (c.takeLive ch p) := by
  unfold liveMoves
  refine takeLive_cases (fun hown => ?_) fun hown => ?_
  · rw [if_pos hown]
    exact Channel.performs_trackOwn p (Channel.performs_take _ p)
  · rw [if_neg (Bool.eq_false_iff.mp hown)]
    exact Channel.performs_take ch p

theorem performs_takePage : ch.Performs (pageMoves m) (takePage m ch) := by
  have hputs : ∀ ch : Channel, ch.Performs ((Presence.arrivals m).map .put)
      ((Presence.arrivals m).foldlM Channel.take ch) := by
    intro ch
    have h := Channel.performs_foldlM ch (fun ch p => Channel.performs_take ch p)
      (Presence.arrivals m)
    rwa [← List.map_eq_flatMap] at h
  have htaken : ch.Performs (.startSync :: (Presence.arrivals m).map .put ++
      [.setCursor m.channelSerial]) (takeRecords m ch) :=
    Channel.performs_startSync (Channel.performs_bind (hputs _)
      (Channel.performs_setCursor m.channelSerial (Channel.performs_mute rfl rfl mute_nil)))
  unfold pageMoves
  refine takePage_cases (fun h => ?more) fun h => ?last
  case more =>
    rw [if_neg (Bool.eq_false_iff.mp h)]
    exact htaken
  case last =>
    rw [if_pos h, ← List.singleton_append (l := [Move.endSync m.timestamp]), ← List.append_assoc]
    exact Channel.performs_bind htaken
      (Channel.performs_bind (Channel.performs_endSync _ _) (Channel.performs_answerGets _))

end Words

/-! ## One channel of many -/

/-- The moves are made on the channel of a name, and what they report is told there. All other
channels keep their members. The connection is as given then, and no link is opened. -/
structure Meets (name : String) (moves : List Move) (c : Client) (r : Logged Client)
    (k : Connection) : Prop extends Drives c r [] k where
  roster : r.value.roster name = (c.roster name).after moves
  others : ∀ other, other ≠ name → r.value.roster other = c.roster other
  told : told r.log = (c.channelOrNew name).tellings ((c.roster name).reports moves)

section Meets

variable {c : Client} {name : String} {moves : List Move} {ch : Channel}

/-- What a channel does comes first, and its members stay as they are after that. -/
theorem meets_channel {x : Logged Channel} {f : Channel → Logged Client}
    (hch : c.channel? name = some ch) (hx : ch.Performs moves x)
    (hf : Rests (c.setChannel name x.value) (f x.value))
    (hroster : ∀ other, (f x.value).value.roster other = (c.setChannel name x.value).roster other) :
    Meets name moves c (x >>= f) c.session := by
  refine ⟨⟨hf.options, hf.clock, hf.session, ?_⟩, ?_, fun other hne => ?_, ?_⟩
  · rw [Logged.log_bind, opened_append, hx.opened, hf.opened, List.append_nil]
  · rw [Logged.value_bind, hroster, roster_setChannel_self, hx.roster, roster_of_some hch]
  · rw [Logged.value_bind, hroster, roster_setChannel_ne c _ hne]
  · rw [Logged.log_bind, told_append, hx.told, hf.told, List.append_nil, roster_of_some hch,
      channelOrNew_of_some hch]

theorem meets_onChannel {f : Channel → Logged Channel} (hch : c.channel? name = some ch)
    (hf : ch.Performs moves (f ch)) : Meets name moves c (c.onChannel name f) c.session := by
  rw [onChannel_of_some hch]
  exact meets_channel hch hf rests_pure fun _ => rfl

theorem roster_sendEach {α : Type} {f : Client → α → Logged Client}
    (hf : ∀ d x, (f d x).value.channels = d.channels) (xs : List α) (other : String) :
    (xs.foldlM f c).value.roster other = c.roster other := by
  induction xs generalizing c with
  | nil => rfl
  | cons x rest ih =>
    rw [List.foldlM_cons, Logged.value_bind, ih]
    exact roster_of_channels (hf c x) other

/-- Sending what is queued touches no members. -/
theorem roster_flushQueue (other : String) :
    (c.flushQueue name).value.roster other = c.roster other := by
  refine flushQueue_cases (fun _ => rfl) fun ch hch _ _ => ?_
  rw [roster_sendEach fun _ _ => rfl]
  by_cases hne : other = name
  · rw [hne, roster_setChannel_self, roster_of_some hch]
  · exact roster_setChannel_ne c _ hne

/-- The server has attached a channel. -/
theorem meets_onAttached (m : Message) (hm : m.channel = some name)
    (hch : c.channel? name = some ch) (ha : acceptsAttached ch = true) :
    Meets name (attachMoves m) c (c.onAttached m) c.session := by
  rw [onAttached_eq hm hch ha]
  refine meets_channel hch (performs_attachedChannel ch m) ?_ fun other => ?_
  · split
    · exact rests_bind (rests_foldlM (fun d p => rests_sendForAck _ _) _) rests_flushQueue
    · exact rests_pure
  · split
    · rw [Logged.value_bind, roster_flushQueue, roster_sendEach fun _ _ => rfl]
    · rfl

/-- The server reports members of a channel that is there. -/
theorem meets_onPresence (m : Message) (hm : m.channel = some name)
    (hch : c.channel? name = some ch) :
    Meets name ((Presence.arrivals m).flatMap c.liveMoves) c (c.onPresence m) c.session := by
  rw [onPresence_of_some hm]
  exact meets_onChannel hch (Channel.performs_foldlM ch (fun ch p => performs_takeLive ch c p) _)

/-- A page of a sync comes for a channel that is attached. -/
theorem meets_onSync (m : Message) (hm : m.channel = some name)
    (hch : c.channel? name = some ch) (hs : ch.state = .attached) :
    Meets name (pageMoves m) c (c.onSync m) c.session := by
  rw [onSync_of_some hm]
  refine meets_onChannel hch ?_
  exact syncedChannel_cases (fun _ => performs_takePage ch m) fun h => absurd hs h

end Meets

end Client

end PresenceClient
