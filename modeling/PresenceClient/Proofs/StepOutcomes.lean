-- What a step of the client does to its connection and to those who are present: the
-- connection has one turn, and at most one channel makes moves of its roster, told to those
-- who listen there. Any other channel keeps its members or forgets them.
import PresenceClient.Proofs.ConnectionSteps
import PresenceClient.Proofs.RosterTurns

namespace PresenceClient

open Logged (tell)
open Roster (Move)

/-- What gives the connection its turn in a step. -/
def Input.connectionCue : Input → Connection.Cue
  | .link _ _ => .heard
  | .timers => .due
  | _ => .asked

namespace Client

open Connection (Cue Turn)

/-! ## Outcomes -/

/-- The moves that a message of the live link makes on the channel of a name. -/
def messageMoves (c : Client) (name : String) (m : Message) : List Move :=
  if m.channel = some name then
    match c.channel? name, Message.Action.ofCode? m.action with
    | some ch, some .attached => if acceptsAttached ch then attachMoves m else []
    | some _, some .presence => (Presence.arrivals m).flatMap c.liveMoves
    | some ch, some .sync => if ch.state = .attached then pageMoves m else []
    | _, _ => []
  else []

/-- The moves that a step makes on the channel of a name. -/
def rosterMoves (c : Client) (name : String) : Input → List Move
  | .link generation (.message m) =>
    if generation = c.connection.generation then c.messageMoves name m else []
  | _ => []

/-- The connection has its turn. One channel at most makes its moves, and the others keep
their members or forget them. -/
def Outcome (cue : Cue) (moves : String → List Move) (c : Client) (r : Logged Client) : Prop :=
  (Steers cue c r ∧ ∀ name, moves name = []) ∨
    ∃ name k, Meets name (moves name) c r k ∧ (∀ other, other ≠ name → moves other = []) ∧
      Turn c.options.timing c.clock cue c.session [] k

section Outcome

variable {c : Client} {r : Logged Client} {cue : Cue} {moves : String → List Move} {name : String}

theorem Outcome.turn (h : Outcome cue moves c r) : r.value.options = c.options ∧
    Turn c.options.timing c.clock cue c.session (opened r.log) r.value.session := by
  rcases h with ⟨⟨links, k, hl, ht⟩, -⟩ | ⟨name, k, hm, -, ht⟩
  · refine ⟨hl.options, ?_⟩
    rw [hl.opened, hl.session]
    exact ht
  · refine ⟨hm.options, ?_⟩
    rw [hm.opened, hm.session]
    exact ht

/-- Each channel makes its moves, or has none to make and forgets its members. -/
theorem Outcome.roster (h : Outcome cue moves c r) (name : String) :
    r.value.roster name = (c.roster name).after (moves name) ∨
      moves name = [] ∧ r.value.roster name = {} := by
  rcases h with ⟨⟨links, k, hl, -⟩, hnone⟩ | ⟨one, k, hm, hothers, -⟩
  · rw [hnone name]
    exact (hl.roster name).imp_right fun he => ⟨rfl, he⟩
  · by_cases hne : name = one
    · subst hne
      exact .inl hm.roster
    · rw [hothers name hne]
      exact .inl (hm.others name hne)

/-- What the moves report is told to all who listen for it. -/
theorem Outcome.told (h : Outcome cue moves c r) {p : Presence} {id : ListenerId}
    (hp : p ∈ (c.roster name).reports (moves name))
    (hid : id ∈ (c.channelOrNew name).presenceListeners.recipients p.action) :
    Effect.notify id (.presence p) ∈ r.log := by
  rw [← mem_told]
  rcases h with ⟨-, hnone⟩ | ⟨one, k, hm, hothers, -⟩
  · rw [hnone name] at hp
    cases hp
  · by_cases hne : name = one
    · subst hne
      rw [hm.told]
      exact Channel.mem_tellings.mpr ⟨hp, hid⟩
    · rw [hothers name hne] at hp
      cases hp

theorem Steers.outcome (h : Steers cue c r) (hnone : ∀ name, moves name = []) :
    Outcome cue moves c r := .inl ⟨h, hnone⟩

theorem Meets.outcome (h : Meets name (moves name) c r c.session)
    (hothers : ∀ other, other ≠ name → moves other = []) : Outcome cue moves c r :=
  .inr ⟨name, c.session, h, hothers, .rest⟩

/-- A message comes first that tells of a link that is alive. -/
theorem outcome_stirred (h : Outcome .heard moves c.resetIdleTimer r) :
    Outcome .heard moves c r := by
  obtain ⟨ho, hc, hch⟩ := resetIdleTimer_rest (c := c)
  have hroster : ∀ name, c.resetIdleTimer.roster name = c.roster name := roster_of_channels hch
  have hchannel : ∀ name, c.resetIdleTimer.channelOrNew name = c.channelOrNew name :=
    fun name => channelOrNew_congr (channel?_of_channels hch name)
  have hturn : ∀ {links k}, Turn c.resetIdleTimer.options.timing c.resetIdleTimer.clock .heard
      c.resetIdleTimer.session links k →
        Turn c.options.timing c.clock .heard c.session links k := by
    intro links k ht
    rw [ho, hc, session_resetIdleTimer] at ht
    exact Connection.turn_stirred ht
  rcases h with ⟨⟨links, k, hl, ht⟩, hnone⟩ | ⟨name, k, hm, hothers, ht⟩
  · exact .inl ⟨⟨links, k, leads_from hl ho hc fun name => .inl (hroster name), hturn ht⟩, hnone⟩
  · refine .inr ⟨name, k, ⟨⟨hm.options.trans ho, hm.clock.trans hc, hm.session, hm.opened⟩, ?_,
      fun other hne => (hm.others other hne).trans (hroster other), ?_⟩, hothers, hturn ht⟩
    · rw [hm.roster, hroster]
    · rw [hm.told, hroster, hchannel]

end Outcome

/-! ## Commands -/

section Commands

variable {c : Client} {name : String}

theorem rests_answered {es : List Effect} (hes : Mute es) : Rests c (do
    tell es
    pure (c.ensureChannel name)) := leads_ensure (rests_told hes rests_pure)

theorem mute_answer (ticket : Ticket) (reply : Reply) : Mute (answer ticket reply).log :=
  mute_singleton rfl rfl

theorem steers_queueMessage (m : Message) (ticket : Ticket) :
    Steers .asked c (c.queueMessage name m ticket) := by
  have hset : ∀ {r : Logged Client}, Steers .asked (c.setChannel name { c.channelOrNew name with
      queue := (c.channelOrNew name).queue.enqueue m (.caller ticket) }) r → Steers .asked c r :=
    fun h => steers_set h (.inl rfl)
  exact queueMessage_cases (fun _ => hset (steers_attachChannel []))
    fun _ _ _ => hset rests_pure.steers

theorem steers_publish (action : Presence.Action) (clientId : Option String) (data : Payload)
    (ticket : Ticket) : Steers .asked c (c.publish name action clientId data ticket) := by
  refine publish_cases (fun _ => ?anonymous) (fun _ _ => ?refused) (fun _ _ _ _ _ => ?sent)
    fun _ _ _ _ _ _ => ?queued
  case anonymous => exact Rests.steers (leads_quiet (mute_answer _ _) rests_pure)
  case refused => exact Rests.steers (rests_answered (mute_answer _ _))
  case sent => exact steers_ensure (Rests.steers (rests_sendForAck _ _))
  case queued => exact steers_ensure (steers_queueMessage _ ticket)

theorem steers_getMembers (query : MemberQuery) (ticket : Ticket) :
    Steers .asked c (c.getMembers name query ticket) := by
  have hpark : ∀ {r : Logged Client},
      Steers .asked ((c.ensureChannel name).parkGet name query ticket) r → Steers .asked c r :=
    fun h => steers_ensure (steers_set h (.inl rfl))
  refine getMembers_cases (fun _ _ => ?refused) (fun _ => ?served)
    (fun _ => hpark rests_pure.steers)
    (fun _ _ _ => hpark ?declined) fun _ _ => hpark (steers_attachChannel [])
  case refused => exact Rests.steers (rests_answered (mute_answer _ _))
  case served => exact Rests.steers (rests_answered (mute_answer _ _))
  case declined => exact Rests.steers (rests_onChannel fun ch => Channel.hushed_failGets ch _)

theorem rests_addPresenceListener (filter : Option Presence.Action) (ticket : Ticket) :
    Rests c (c.addPresenceListener name filter ticket) := by
  have h : Rests c (pure (c.setChannel name { c.channelOrNew name with
      presenceListeners := (c.channelOrNew name).presenceListeners.on c.nextListener filter })) :=
    rests_put (.inl rfl)
  exact leads_quiet (mute_answer _ _) ⟨⟨h.options, h.clock, h.session, rfl⟩, h.roster, rfl⟩

theorem steers_subscribe (filter : Option Presence.Action) (ticket : Ticket) :
    Steers .asked c (c.subscribe name filter ticket) := by
  refine subscribe_cases (fun _ _ => ?refused) (fun _ _ => ?attaches) fun _ _ _ => ?listens
  case refused => exact Rests.steers (rests_answered (mute_answer _ _))
  case attaches =>
    exact steers_ensure
      (steers_rests (steers_attachChannel []) (rests_addPresenceListener filter ticket))
  case listens => exact steers_ensure (rests_addPresenceListener filter ticket).steers

theorem rests_setListeners {f : Channel → Channel} (hf : ∀ ch, (f ch).roster = ch.roster) :
    Rests c (pure (c.setListeners name f)) := rests_put (.inl (hf _))

theorem steers_channelCommand (ticket : Ticket) (command : ChannelCommand) :
    Steers .asked c (c.channelCommand name ticket command) := by
  cases command with
  | attach => exact steers_attachChannel _
  | detach => exact (rests_detachChannel _).steers
  | publish action clientId data => exact steers_publish action clientId data ticket
  | get query => exact steers_getMembers query ticket
  | subscribe action => exact steers_subscribe action ticket
  | release => exact rests_releaseChannel.steers
  | unsubscribe id => exact Rests.steers (rests_setListeners fun _ => rfl)
  | unsubscribeAction action id => exact Rests.steers (rests_setListeners fun _ => rfl)
  | unsubscribeAll => exact Rests.steers (rests_setListeners fun _ => rfl)
  | offState id => exact Rests.steers (rests_setListeners fun _ => rfl)
  | onState filter =>
    have h : Rests c (pure (c.setListeners name fun ch =>
        { ch with stateListeners := ch.stateListeners.on c.nextListener filter })) :=
      rests_setListeners fun _ => rfl
    exact Rests.steers (leads_quiet (mute_answer _ _)
      ⟨⟨h.options, h.clock, h.session, rfl⟩, h.roster, rfl⟩)
  | _ => exact Rests.steers (rests_answered (mute_answer _ _))

theorem steers_command (ticket : Ticket) (asked : Command) :
    Steers .asked c (c.command ticket asked) := by
  cases asked with
  | connect => exact steers_connect
  | close => exact steers_close
  | queryConnection => exact Rests.steers (leads_quiet (mute_answer _ _) rests_pure)
  | onConnection filter =>
    exact Rests.steers (leads_quiet (mute_answer _ _) (leads_same rfl rfl rfl))
  | offConnection id => exact Rests.steers (leads_same rfl rfl rfl)
  | channel name command => exact steers_channelCommand ticket command

theorem rests_shutdown : Rests c c.shutdown := by
  have hvisit : Rests c (do
      let c ← c.failPending Cause.clientDropped.info
      c.forNames c.channels.keys fun c name => c.onChannel name fun ch =>
        ch.failWaiters Cause.clientDropped.info) :=
    rests_bind (leads_quiet (mute_resolveEach _ _ _) (leads_same rfl rfl rfl))
      (rests_foldlM (fun _ _ => rests_onChannel fun ch => Channel.hushed_failWaiters ch _) _)
  refine shutdown_cases fun farewell hsaid => ?_
  refine leads_quiet ?_ (leads_quiet (mute_singleton rfl rfl) hvisit)
  rcases hsaid with rfl | ⟨rfl, -⟩
  · exact mute_nil
  · exact mute_singleton rfl rfl

theorem rests_dropListener (id : ListenerId) : Rests c (pure (c.dropListener id)) := by
  refine ⟨⟨rfl, rfl, rfl, rfl⟩, fun name => .inl ?_, rfl⟩
  have hget : (c.dropListener id).channel? name = (c.channel? name).map (unheard id) :=
    Entries.get?_map name (unheard id) c.channels.entries
  show (c.dropListener id).roster name = c.roster name
  rw [roster, channelOrNew, hget, roster, channelOrNew]
  cases c.channel? name <;> rfl

end Commands

/-! ## Messages -/

section Messages

variable {c : Client}

/-- A message that is not of members makes no moves. -/
theorem messageMoves_eq_nil {m : Message}
    (h : Message.Action.ofCode? m.action ≠ some .attached ∧
      Message.Action.ofCode? m.action ≠ some .presence ∧
      Message.Action.ofCode? m.action ≠ some .sync) (name : String) :
    c.messageMoves name m = [] := by
  unfold messageMoves
  split
  · split <;> simp_all
  · rfl

/-- A message makes moves only on the channel that it names. -/
theorem messageMoves_other {m : Message} {name other : String} (hm : m.channel = some name)
    (hne : other ≠ name) : c.messageMoves other m = [] := by
  unfold messageMoves
  rw [if_neg]
  rw [hm]
  exact fun he => hne (Option.some.inj he).symm

theorem messageMoves_unaddressed {m : Message} (hm : m.channel = none) (name : String) :
    c.messageMoves name m = [] := by
  unfold messageMoves
  rw [if_neg (by simp [hm])]

theorem messageMoves_of_none {m : Message} {name : String} (hm : m.channel = some name)
    (hch : c.channel? name = none) (other : String) : c.messageMoves other m = [] := by
  by_cases hne : other = name
  · subst hne
    unfold messageMoves
    rw [if_pos hm, hch]
  · exact messageMoves_other hm hne

/-- A message that is heeded on the channel it names, or not at all. -/
theorem outcome_addressed {cue : Cue} {m : Message} {f : Logged Client}
    (hnone : m.channel = none → f = pure c)
    (hgone : ∀ name, m.channel = some name → c.channel? name = none → f = pure c)
    (hsome : ∀ name ch, m.channel = some name → c.channel? name = some ch →
      Meets name (c.messageMoves name m) c f c.session ∨
        c.messageMoves name m = [] ∧ f = pure c) :
    Outcome cue (fun name => c.messageMoves name m) c f := by
  cases hm : m.channel with
  | none =>
    rw [hnone hm]
    exact rests_pure.steers.outcome (messageMoves_unaddressed hm)
  | some name =>
    cases hch : c.channel? name with
    | none =>
      rw [hgone name hm hch]
      exact rests_pure.steers.outcome (messageMoves_of_none hm hch)
    | some ch =>
      rcases hsome name ch hm hch with h | ⟨hmoves, hf⟩
      · exact Meets.outcome h fun other hne => messageMoves_other hm hne
      · rw [hf]
        refine rests_pure.steers.outcome fun other => ?_
        by_cases hne : other = name
        · rw [hne]
          exact hmoves
        · exact messageMoves_other hm hne

theorem outcome_onAttached {m : Message} (ha : Message.Action.ofCode? m.action = some .attached) :
    Outcome .heard (fun name => c.messageMoves name m) c (c.onAttached m) := by
  have hignored : ∀ {name}, m.channel = some name → (c.channel? name).any acceptsAttached = false →
      c.onAttached m = pure c := fun hm hno => onAttached_of_ignored fun other hm' => by
    cases hm.symm.trans hm'
    exact hno
  refine outcome_addressed (fun hm => ?_) (fun name hm hch => ?_) fun name ch hm hch => ?_
  · exact onAttached_of_ignored fun name hname => absurd (hm.symm.trans hname) nofun
  · exact hignored hm (by rw [hch]; rfl)
  · unfold messageMoves
    rw [if_pos hm, hch, ha]
    dsimp only
    by_cases haccepts : acceptsAttached ch = true
    · rw [if_pos haccepts]
      exact .inl (meets_onAttached m hm hch haccepts)
    · rw [if_neg haccepts]
      exact .inr ⟨rfl, hignored hm (by rw [hch]; exact Bool.eq_false_iff.mpr haccepts)⟩

theorem outcome_onPresence {m : Message} (ha : Message.Action.ofCode? m.action = some .presence) :
    Outcome .heard (fun name => c.messageMoves name m) c (c.onPresence m) := by
  refine outcome_addressed onPresence_of_none (fun name hm hch => ?_) fun name ch hm hch => ?_
  · rw [onPresence_of_some hm, onChannel_of_none hch]
  · unfold messageMoves
    rw [if_pos hm, hch, ha]
    exact .inl (meets_onPresence m hm hch)

theorem outcome_onSync {m : Message} (ha : Message.Action.ofCode? m.action = some .sync) :
    Outcome .heard (fun name => c.messageMoves name m) c (c.onSync m) := by
  refine outcome_addressed onSync_of_none (fun name hm hch => ?_) fun name ch hm hch => ?_
  · rw [onSync_of_some hm, onChannel_of_none hch]
  · unfold messageMoves
    rw [if_pos hm, hch, ha]
    dsimp only
    by_cases hs : ch.state = .attached
    · rw [if_pos hs]
      exact .inl (meets_onSync m hm hch hs)
    · rw [if_neg hs, onSync_of_some hm]
      refine .inl (meets_onChannel hch ?_)
      exact syncedChannel_cases (fun h => absurd h hs)
        fun _ => Channel.performs_mute rfl rfl mute_nil

theorem steers_onError (m : Message) : Steers .heard c (c.onError m) :=
  onError_cases (fun _ _ => (rests_failChannel _).steers) fun _ => steers_failConnection _

theorem rests_settle (test : Unacked → Bool) (reply : Reply) : Rests c (do
    let pending ← c.pending.settle test reply
    pure { c with pending := pending }) :=
  leads_quiet (mute_resolveEach _ _ _) (leads_same rfl rfl rfl)

/-- A message of the live link. -/
theorem outcome_onMessage (m : Message) :
    Outcome .heard (fun name => c.messageMoves name m) c (c.onMessage m) := by
  have hid : c.resetIdleTimer.connection.id = c.connection.id :=
    resetIdleTimer_cases (fun _ => rfl) fun _ => rfl
  have hlive : c.resetIdleTimer.liveMoves = c.liveMoves := by
    funext p
    unfold liveMoves isOwn
    rw [hid]
  have hsame : ∀ name, c.resetIdleTimer.messageMoves name m = c.messageMoves name m := by
    intro name
    simp only [messageMoves, channel?, hlive, resetIdleTimer_rest.2.2]
  have hstirred : c.resetIdleTimer.session.stirred c.resetIdleTimer.options.timing
      c.resetIdleTimer.clock = c.resetIdleTimer.session := by
    obtain ⟨ho, hc, -⟩ := resetIdleTimer_rest (c := c)
    rw [session_resetIdleTimer, ho, hc, Connection.stirred_stirred]
  simp only [← hsame]
  apply outcome_stirred
  have hquiet : ∀ {r : Logged Client}, Message.Action.ofCode? m.action ≠ some .attached ∧
      Message.Action.ofCode? m.action ≠ some .presence ∧
      Message.Action.ofCode? m.action ≠ some .sync → Steers .heard c.resetIdleTimer r →
        Outcome .heard (fun name => c.resetIdleTimer.messageMoves name m) c.resetIdleTimer r :=
    fun hne h => h.outcome (messageMoves_eq_nil hne)
  refine onMessage_cases (fun ha => hquiet (by simp [ha]) ?connected)
    (fun ha => hquiet (by simp [ha]) ?disconnected) (fun ha => hquiet (by simp [ha]) ?closed)
    (fun ha => hquiet (by simp [ha]) ?error) (fun ha => hquiet (by simp [ha]) ?ack)
    (fun ha => hquiet (by simp [ha]) ?nack) (fun ha => outcome_onAttached ha)
    (fun ha => hquiet (by simp [ha]) ?detached) (fun ha => outcome_onSync ha)
    (fun ha => outcome_onPresence ha) fun hno => hquiet ?none rests_pure.steers
  case connected => exact steers_onConnected m
  case disconnected => exact steers_onDisconnected m.error
  case closed => exact steers_finishClose hstirred
  case error => exact steers_onError m
  case ack => exact (rests_settle _ _).steers
  case nack => exact (rests_settle _ _).steers
  case detached => exact (rests_onDetached m).steers
  case none => exact ⟨hno _ (by simp), hno _ (by simp), hno _ (by simp)⟩

end Messages

/-! ## Steps -/

section Step

variable {c : Client}

theorem outcome_onLinkEvent (generation : Nat) (event : LinkEvent) :
    Outcome .heard (fun name => c.rosterMoves name (.link generation event)) c
      (c.onLinkEvent generation event) := by
  refine onLinkEvent_cases (fun m hg he => ?message) (fun error hg he => ?ended) fun hg => ?stale
  case message =>
    cases he
    have hmoves : ∀ name, c.rosterMoves name (.link generation (.message m)) =
        c.messageMoves name m := fun _ => if_pos hg
    simp only [hmoves]
    exact outcome_onMessage m
  case ended =>
    cases he
    exact (steers_onLinkEnded error).outcome fun _ => rfl
  case stale =>
    refine rests_pure.steers.outcome fun name => ?_
    cases event with
    | message m => exact if_neg hg
    | ended error => rfl

/-- What a step does, but for the clock that moves on. -/
theorem outcome_step (h : c.connection.Timed) (i : Input) :
    Outcome i.connectionCue (fun name => c.rosterMoves name i) c (c.step i) ∨
      ∃ now, i = .clock now := by
  cases i with
  | command ticket asked => exact .inl ((steers_command ticket asked).outcome fun _ => rfl)
  | link generation event => exact .inl (outcome_onLinkEvent generation event)
  | clock now => exact .inr ⟨now, rfl⟩
  | timers => exact .inl ((steers_fireTimers h c.clock).outcome fun _ => rfl)
  | dropListener id => exact .inl ((rests_dropListener id).steers.outcome fun _ => rfl)
  | shutdown => exact .inl (rests_shutdown.steers.outcome fun _ => rfl)

/-- A step is one turn of the connection. -/
theorem step_turn (h : c.connection.Timed) (i : Input) :
    (c.step i).value.options = c.options ∧ Turn c.options.timing c.clock i.connectionCue c.session
      (opened (c.step i).log) (c.step i).value.session := by
  rcases outcome_step h i with h | ⟨now, rfl⟩
  · exact h.turn
  · exact ⟨rfl, .rest⟩

/-- In a step each channel makes its moves, or has none to make and forgets its members. -/
theorem step_roster (h : c.connection.Timed) (i : Input) (name : String) :
    (c.step i).value.roster name = (c.roster name).after (c.rosterMoves name i) ∨
      c.rosterMoves name i = [] ∧ (c.step i).value.roster name = {} := by
  rcases outcome_step h i with h | ⟨now, rfl⟩
  · exact h.roster name
  · exact .inl rfl

/-- In a step, all who listen for what the moves report are told. -/
theorem step_told (h : c.connection.Timed) {i : Input} {name : String} {p : Presence}
    {id : ListenerId} (hp : p ∈ (c.roster name).reports (c.rosterMoves name i))
    (hid : id ∈ (c.channelOrNew name).presenceListeners.recipients p.action) :
    Effect.notify id (.presence p) ∈ (c.step i).log := by
  rcases outcome_step h i with h | ⟨now, rfl⟩
  · exact h.told hp hid
  · cases hp

end Step

end Client

end PresenceClient
