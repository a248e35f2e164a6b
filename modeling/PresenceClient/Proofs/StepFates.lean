-- The fate of the channels in a whole step. Members come to a channel out of use only with a
-- live record; a listener comes with a subscription only, and under an id that none had before.
import PresenceClient.Proofs.ChannelFates
import PresenceClient.Proofs.StepOutcomes

namespace PresenceClient.Client

open Logged (tell)

/-! ## The connection and its channels -/

section Connection

variable {c : Client}

theorem fares_dropLink : Fares c c.dropLink := fares_same rfl rfl

/-- The connection changes, and what awaits an acknowledgement fails. -/
theorem fares_settle (connection : Connection) (e : ErrorInfo) :
    Fares c ({ c with connection := connection }.failPending e) := fares_same rfl rfl

theorem fares_enterSuspended : Fares c c.enterSuspended :=
  enterSuspended_cases
    (fun _ => fares_bind (fares_become _ _ _) (fares_bind (fares_settle _ _)
      (fares_foldlM (fun _ _ => fares_suspendUnder _) _)))
    fun _ => fares_pure

theorem fares_failConnection (e : ErrorInfo) : Fares c (c.failConnection e) :=
  failConnection_cases
    (fun _ => fares_bind fares_dropLink (fares_bind (fares_become _ _ _)
      (fares_bind (fares_settle _ _) (fares_foldlM (fun _ _ => fares_failUnder _) _))))
    fun _ => fares_dropLink

theorem fares_finishClose : Fares c c.finishClose :=
  finishClose_cases
    (fun _ => fares_bind fares_dropLink (fares_bind (fares_become _ _ _)
      (fares_bind (fares_settle _ _) (fares_foldlM
        (fun _ _ => fares_onChannel fun ch => Channel.fares_detachOnClose ch _) _))))
    fun _ => fares_dropLink

theorem fares_close : Fares c c.close :=
  close_cases (fun _ => fares_pure)
    (fun _ => fares_bind (fares_become _ _ _) (fares_same rfl rfl)) fun _ _ _ => fares_finishClose

theorem fares_enterDisconnected (e : ErrorInfo) : Fares c (c.enterDisconnected e) := by
  refine fares_from (d := c.takeWord.2) ?_ (fares_same rfl rfl)
  refine enterDisconnected_cases (fun _ _ => ?keeps) (fun _ _ => ?drops) fun _ => fares_pure
  all_goals refine fares_bind (fares_become _ _ _) ?_
  case keeps => exact fares_same rfl rfl
  case drops =>
    exact fares_from (fares_foldlM (fun _ name => fares_failQueue name e) _) (fares_same rfl rfl)

theorem fares_loseLink : Fares c c.loseLink := fares_bind fares_dropLink (fares_same rfl rfl)

theorem fares_handleLoss (e : ErrorInfo) : Fares c (c.handleLoss e) :=
  handleLoss_cases (fun _ => fares_bind fares_loseLink fares_enterSuspended)
    fun _ => fares_bind fares_loseLink (fares_enterDisconnected e)

theorem fares_onDisconnected (e : Option ErrorInfo) : Fares c (c.onDisconnected e) :=
  onDisconnected_cases (fun _ _ => fares_handleLoss _) fun _ _ _ => fares_failConnection _

theorem fares_onLinkEnded (e : Option ErrorInfo) : Fares c (c.onLinkEnded e) :=
  onLinkEnded_cases (fun _ _ => fares_handleLoss _) (fun _ => fares_finishClose)
    fun _ _ _ => fares_pure

theorem fares_onConnectionTimer (kind : Connection.Timer) : Fares c (c.onConnectionTimer kind) :=
  fares_from (d := c.setTimer none)
    (onConnectionTimer_cases (fun _ _ => fares_handleLoss _) (fun _ => fares_startConnecting)
      fun _ => fares_finishClose) (fares_same rfl rfl)

theorem fares_fireTimers (now : Instant) : Fares c (c.fireTimers now) := by
  refine fares_bind ?_ (fares_foldlM (fun _ _ => fares_onChannelTimer) _)
  exact fireConnectionTimer_cases (fun _ _ _ => fares_onConnectionTimer _) fun _ => fares_pure

theorem fares_linkUp (resumed : Bool) : Fares c (c.linkUp resumed) := by
  have hup : ∀ (b : Bool) (d : Client), Fares d (do
      let d ← d.resendPending b
      d.forNames d.channels.keys (onLinkUp b)) := fun b d =>
    fares_bind (fares_resendPending b) (fares_foldlM (fun _ _ => fares_onLinkUp b) _)
  exact linkUp_cases (fun _ => hup true c) fun _ =>
    fares_from (hup false c.renumbered) (fares_same rfl rfl)

theorem fares_onConnected (m : Message) : Fares c (c.onConnected m) := by
  have hgreeted : Fares c ((c.greeted m).become .connected m.error none) :=
    fares_from (fares_become _ _ _) (fares_same rfl rfl)
  exact onConnected_cases (fun _ => fares_bind hgreeted (fares_resetIdleTimer fares_pure))
    (fun _ => fares_bind hgreeted (fares_resetIdleTimer (fares_linkUp _))) fun _ _ => fares_pure

theorem fares_onError (m : Message) : Fares c (c.onError m) :=
  onError_cases (fun _ _ => fares_failChannel _) fun _ => fares_failConnection _

theorem fares_shutdown : Fares c c.shutdown :=
  shutdown_cases fun _ _ => fares_after (fares_after (fares_bind (fares_settle c.connection _)
    (fares_foldlM (fun _ _ => fares_onChannel fun _ => Channel.fares_same id rfl rfl) _)))

end Connection

/-! ## Commands that add no listener -/

section Commands

variable {c : Client} {name : String}

theorem fares_answered {α : Type} (x : Logged α) : Fares c (x >>= fun _ =>
    pure (c.ensureChannel name)) := fares_after (fares_ensure fares_pure)

theorem fares_queueMessage (m : Message) (ticket : Ticket) :
    Fares c (c.queueMessage name m ticket) := by
  have htouched : (c.channelOrNew name).Fares (pure { c.channelOrNew name with
      queue := (c.channelOrNew name).queue.enqueue m (.caller ticket) }) :=
    Channel.fares_touched rfl rfl rfl
  exact queueMessage_cases (fun _ => fares_set htouched (fares_attachChannel []))
    fun _ _ _ => fares_put htouched

theorem fares_publish (action : Presence.Action) (clientId : Option String) (data : Payload)
    (ticket : Ticket) : Fares c (c.publish name action clientId data ticket) :=
  publish_cases (fun _ => fares_after fares_pure) (fun _ _ => fares_answered _)
    (fun _ _ _ _ _ => fares_ensure (fares_same rfl rfl))
    fun _ _ _ _ _ _ => fares_ensure (fares_queueMessage _ ticket)

theorem fares_getMembers (query : MemberQuery) (ticket : Ticket) :
    Fares c (c.getMembers name query ticket) := by
  have hpark : ∀ {r : Logged Client},
      Fares ((c.ensureChannel name).parkGet name query ticket) r → Fares c r := fun h =>
    fares_ensure (fares_from h (fares_put (Channel.fares_touched rfl rfl rfl)))
  exact getMembers_cases (fun _ _ => fares_answered _) (fun _ => fares_answered _)
    (fun _ => hpark fares_pure)
    (fun _ _ _ => hpark (fares_onChannel fun _ => Channel.fares_same id rfl rfl))
    fun _ _ => hpark (fares_attachChannel [])

/-- Listeners are removed, or those of the state change. -/
theorem fares_setListeners {f : Channel → Channel} (hs : ∀ ch, (f ch).state = ch.state)
    (hr : ∀ ch, (f ch).roster = ch.roster)
    (hl : ∀ ch action, ((f ch).presenceListeners.recipients action).Sublist
      (ch.presenceListeners.recipients action)) : Fares c (pure (c.setListeners name f)) :=
  fares_put ⟨fun hrest => .inr ⟨(hs _) ▸ hrest, hr _⟩, hl _⟩

theorem fares_dropListener (id : ListenerId) : Fares c (pure (c.dropListener id)) := by
  have hget : ∀ name, (c.dropListener id).channel? name = (c.channel? name).map (unheard id) :=
    fun name => Entries.get?_map name (unheard id) c.channels.entries
  refine ⟨fun name => ?_, rfl⟩
  rw [Logged.value_pure, channelOrNew, channelOrNew, hget]
  cases c.channel? name with
  | none => exact Channel.fares_pure
  | some ch =>
    exact ⟨fun hrest => .inr ⟨hrest, rfl⟩, fun action =>
      Listener.Registry.recipients_drop ch.presenceListeners action id⟩

end Commands

/-! ## Members and listeners -/

/-- Who hears of an event of a kind on a channel. -/
def audience (c : Client) (name : String) (action : Presence.Action) : List ListenerId :=
  (c.channelOrNew name).presenceListeners.recipients action

/-- A channel that is out of use then has lost its members, or was out of use with the same
ones before. -/
def Retains (c : Client) (r : Logged Client) : Prop := ∀ name,
  (r.value.channelOrNew name).state.isResting = true → r.value.roster name = {} ∨
    (c.channelOrNew name).state.isResting = true ∧ r.value.roster name = c.roster name

/-- Nobody listens who did not, or the next id is used up, perhaps by one who listens on one
channel from now on. -/
def Enrols (c : Client) (r : Logged Client) : Prop :=
  (r.value.nextListener = c.nextListener ∧
    ∀ name action, (r.value.audience name action).Sublist (c.audience name action)) ∨
  (r.value.nextListener = c.nextListener + 1 ∧ ∃ one, ∀ name action,
    (r.value.audience name action).Sublist
      (c.audience name action ++ if name = one then [c.nextListener] else []))

structure Proceeds (c : Client) (r : Logged Client) : Prop where
  retains : Retains c r
  enrols : Enrols c r

section Proceeds

variable {c d : Client} {r : Logged Client} {name : String}

theorem Fares.proceeds (h : Fares c r) : Proceeds c r :=
  ⟨fun name => (h.channel name).members,
    .inl ⟨h.nextListener, fun name => (h.channel name).listeners⟩⟩

/-- An id is used up by a listener of another kind. -/
theorem proceeds_takeListenerId {x : Logged Unit} (h : Fares c (pure d)) :
    Proceeds c (x >>= fun _ => pure d.takeListenerId) :=
  ⟨fun name => (h.channel name).members,
    .inr ⟨congrArg (· + 1) h.nextListener, "", fun name action =>
      ((h.channel name).listeners action).trans (List.sublist_append_left _ _)⟩⟩

/-- A new listener comes last, when the channel has been attached where it had to be. -/
theorem proceeds_addPresenceListener (filter : Option Presence.Action) (ticket : Ticket)
    (h : Fares c (pure d)) : Proceeds c (d.addPresenceListener name filter ticket) := by
  have hchannel : ∀ other,
      (d.addPresenceListener name filter ticket).value.channelOrNew other =
        (d.setChannel name { d.channelOrNew name with
          presenceListeners := (d.channelOrNew name).presenceListeners.on d.nextListener
            filter }).channelOrNew other := fun _ => rfl
  refine ⟨fun other => ?_, .inr ⟨congrArg (· + 1) h.nextListener, name, fun other action => ?_⟩⟩
  · have hd := (h.channel other).members
    unfold roster
    rw [hchannel]
    by_cases hne : other = name
    · subst hne
      rw [channelOrNew_setChannel_self]
      exact hd
    · rw [channelOrNew_setChannel_ne _ _ _ hne]
      exact hd
  · have hd := (h.channel other).listeners action
    have hnext : d.nextListener = c.nextListener := h.nextListener
    unfold audience
    rw [hchannel]
    by_cases hne : other = name
    · subst hne
      rw [channelOrNew_setChannel_self, Listener.Registry.recipients_on, if_pos rfl, hnext]
      refine hd.append ?_
      split
      · exact List.Sublist.refl _
      · exact List.nil_sublist _
    · rw [channelOrNew_setChannel_ne _ _ _ hne, if_neg hne, List.append_nil]
      exact hd

theorem proceeds_subscribe (filter : Option Presence.Action) (ticket : Ticket) :
    Proceeds c (c.subscribe name filter ticket) := by
  have hattach : Fares c (pure ((c.ensureChannel name).attachChannel name []).value) := by
    have h : Fares c ((c.ensureChannel name).attachChannel name []) :=
      fares_ensure (fares_attachChannel [])
    exact ⟨h.channel, h.nextListener⟩
  refine subscribe_cases (fun _ _ => (fares_answered _).proceeds) (fun _ _ => ?attaches)
    fun _ _ _ => proceeds_addPresenceListener filter ticket (fares_ensure fares_pure)
  have hadd : Proceeds c (((c.ensureChannel name).attachChannel name []).value
      |>.addPresenceListener name filter ticket) :=
    proceeds_addPresenceListener filter ticket hattach
  exact ⟨hadd.retains, hadd.enrols⟩

theorem proceeds_channelCommand (ticket : Ticket) (command : ChannelCommand) :
    Proceeds c (c.channelCommand name ticket command) := by
  cases command with
  | attach => exact (fares_attachChannel _).proceeds
  | detach => exact (fares_detachChannel _).proceeds
  | publish action clientId data => exact (fares_publish action clientId data ticket).proceeds
  | get query => exact (fares_getMembers query ticket).proceeds
  | subscribe filter => exact proceeds_subscribe filter ticket
  | release => exact fares_releaseChannel.proceeds
  | unsubscribe id =>
    refine Fares.proceeds (fares_setListeners (fun _ => rfl) (fun _ => rfl) fun ch action => ?_)
    exact ch.presenceListeners.recipients_filter action _
  | unsubscribeAction kind id =>
    refine Fares.proceeds (fares_setListeners (fun _ => rfl) (fun _ => rfl) fun ch action => ?_)
    exact ch.presenceListeners.recipients_filter action _
  | unsubscribeAll =>
    refine Fares.proceeds (fares_setListeners (fun _ => rfl) (fun _ => rfl) fun ch action => ?_)
    exact List.nil_sublist _
  | offState id =>
    refine Fares.proceeds (fares_setListeners (fun _ => rfl) (fun _ => rfl) fun ch action => ?_)
    exact List.Sublist.refl _
  | onState filter =>
    exact proceeds_takeListenerId (d := c.setListeners name fun ch => { ch with
      stateListeners := ch.stateListeners.on c.nextListener filter })
        (fares_setListeners (fun _ => rfl) (fun _ => rfl) fun _ _ => List.Sublist.refl _)
  | _ => exact (fares_answered _).proceeds

theorem proceeds_command (ticket : Ticket) (asked : Command) :
    Proceeds c (c.command ticket asked) := by
  cases asked with
  | connect => exact fares_connect.proceeds
  | close => exact fares_close.proceeds
  | queryConnection => exact Fares.proceeds (fares_after fares_pure)
  | onConnection filter =>
    exact proceeds_takeListenerId (d := { c with
      connectionListeners := c.connectionListeners.on c.nextListener filter }) (fares_same rfl rfl)
  | offConnection id => exact Fares.proceeds (fares_same rfl rfl)
  | channel name command => exact proceeds_channelCommand ticket command

/-- All messages but live records. -/
theorem fares_onMessage {m : Message} (h : Message.Action.ofCode? m.action ≠ some .presence) :
    Fares c (c.onMessage m) := by
  refine fares_resetIdleTimer ?_
  exact onMessage_cases (fun _ => fares_onConnected m) (fun _ => fares_onDisconnected m.error)
    (fun _ => fares_finishClose) (fun _ => fares_onError m) (fun _ => fares_same rfl rfl)
    (fun _ => fares_same rfl rfl) (fun _ => fares_onAttached m) (fun _ => fares_onDetached m)
    (fun _ => fares_onSync m) (fun hpresence => absurd hpresence h) fun _ => fares_pure

/-- Is an input a message of the link in use with live records? -/
def hearsRecords (c : Client) : Input → Bool
  | .link generation (.message m) => decide (generation = c.connection.generation) &&
      Message.Action.ofCode? m.action == some .presence
  | _ => false

theorem proceeds_step {i : Input} (h : c.hearsRecords i = false) : Proceeds c (c.step i) := by
  cases i with
  | command ticket asked => exact proceeds_command ticket asked
  | link generation event =>
    refine step_link_cases (fun m hg he => ?message)
      (fun error _ _ => (fares_onLinkEnded error).proceeds) fun _ => fares_pure.proceeds
    refine (fares_onMessage ?_).proceeds
    rw [he] at h
    simpa [hearsRecords, hg] using h
  | clock now => exact Fares.proceeds (fares_same rfl rfl)
  | timers => exact (fares_fireTimers c.clock).proceeds
  | dropListener id => exact (fares_dropListener id).proceeds
  | shutdown => exact fares_shutdown.proceeds

end Proceeds

/-! ## Live records -/

section Records

variable {c : Client} {i : Input}

/-- Live records leave the state of every channel and those who listen there, and use up no
listener id. -/
theorem step_of_hearsRecords (h : c.hearsRecords i = true) :
    (c.step i).value.nextListener = c.nextListener ∧ ∀ name,
      ((c.step i).value.channelOrNew name).state = (c.channelOrNew name).state ∧
        ∀ action, (c.step i).value.audience name action = c.audience name action := by
  unfold hearsRecords at h
  split at h
  · rename_i generation m
    obtain ⟨hg, ha⟩ : generation = c.connection.generation ∧
        Message.Action.ofCode? m.action = some .presence := by simpa using h
    have hstep : c.step (.link generation (.message m)) = c.resetIdleTimer.onPresence m := by
      rw [hg, step_of_link, onMessage_of_presence ha]
    have hnext : c.resetIdleTimer.nextListener = c.nextListener :=
      resetIdleTimer_cases (fun _ => rfl) fun _ => rfl
    have hsame : ∀ name, c.channelOrNew name = c.resetIdleTimer.channelOrNew name := fun name =>
      (channelOrNew_congr (channel?_of_channels c.resetIdleTimer_same.1 name)).symm
    unfold audience
    simp only [hstep, hsame, ← hnext]
    generalize c.resetIdleTimer = d
    refine onPresence_cases (fun _ => ⟨rfl, fun _ => ⟨rfl, fun _ => rfl⟩⟩) fun one _ => ?_
    refine onChannel_cases (fun _ => ⟨rfl, fun _ => ⟨rfl, fun _ => rfl⟩⟩) fun ch hch => ?_
    have hcore := (Channel.foldlM_spec ch d.takeLive
      (fun ch p => Channel.takeLive_spec ch d p) (Presence.arrivals m)).1
    have haudience := (Channel.performs_foldlM ch (fun ch p => performs_takeLive ch d p)
      (Presence.arrivals m)).audience
    refine ⟨rfl, fun name => ?_⟩
    rw [Logged.value_bind, Logged.value_pure]
    by_cases hne : name = one
    · rw [hne, channelOrNew_setChannel_self, channelOrNew_of_some hch]
      exact ⟨congrArg Channel.Core.state hcore, haudience⟩
    · rw [channelOrNew_setChannel_ne d one _ hne]
      exact ⟨rfl, fun _ => rfl⟩
  · cases h

/-- In every step, nobody listens who did not, but for one who may take the next id. -/
theorem enrols_step (c : Client) (i : Input) : Enrols c (c.step i) := by
  cases hrecords : c.hearsRecords i with
  | true =>
    obtain ⟨hnext, hsame⟩ := step_of_hearsRecords hrecords
    exact .inl ⟨hnext, fun name action => by rw [(hsame name).2]⟩
  | false => exact (proceeds_step hrecords).enrols

/-- A channel that is out of use after a step has lost its members, or it was out of use before
and has taken in what the step brings. -/
theorem step_rests (h : c.connection.Timed) (i : Input) (name : String)
    (hrest : ((c.step i).value.channelOrNew name).state.isResting = true) :
    (c.step i).value.roster name = {} ∨ (c.channelOrNew name).state.isResting = true ∧
      (c.step i).value.roster name = (c.roster name).after (c.rosterMoves name i) := by
  have hmoves := (step_roster h i name).symm.imp_left And.right
  cases hrecords : c.hearsRecords i with
  | true =>
    rw [((step_of_hearsRecords hrecords).2 name).1] at hrest
    exact hmoves.imp_right fun he => ⟨hrest, he⟩
  | false =>
    rcases (proceeds_step hrecords).retains name hrest with he | ⟨hrest', -⟩
    · exact .inl he
    · exact hmoves.imp_right fun he => ⟨hrest', he⟩

end Records

end PresenceClient.Client
