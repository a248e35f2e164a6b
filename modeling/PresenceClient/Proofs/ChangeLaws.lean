-- The law of the changes: what a listener for all kinds of change is told is the way that the
-- state has gone since the listener came, step by step. No other is told in its place, since no id
-- is given out twice.
import PresenceClient.Proofs.ChangeSteps
import PresenceClient.Proofs.SyncLaws

namespace PresenceClient

/-! ## Seats -/

namespace Listener.Registry

variable {κ : Type} {r : Registry κ} {id other : ListenerId}

theorem seats_on_ne (h : id ≠ other) (filter : Option κ) :
    (r.on other filter).seats id = r.seats id := by
  unfold seats
  rw [live_on, List.filter_append, List.filter_singleton, decide_eq_false h.symm]
  exact List.append_nil _

/-- Removing a listener takes its seats away, and none else. -/
theorem seats_without : seats ⟨r.entries.filter fun e => !decide (e.id = other)⟩ id =
    if other = id then [] else r.seats id := by
  unfold seats
  rw [live_filter, List.filter_filter]
  split
  · rename_i h
    exact List.filter_eq_nil_iff.mpr fun e _ => by simp [h]
  · rename_i h
    refine List.filter_congr fun e _ => ?_
    by_cases hid : e.id = id
    · simp [hid, Ne.symm h]
    · simp [hid]

theorem seats_off : (r.off other).seats id = if other = id then [] else r.seats id := seats_without

theorem seats_drop : (r.drop other).seats id = if other = id then [] else r.seats id := by
  rw [← seats_without]
  unfold seats
  rw [live_drop, live_filter]

/-- Whoever comes under a new id hears from then on. -/
theorem hears_on (h : r.IsDeaf id) : (r.on id none).Hears id := by
  unfold IsDeaf seats at h
  unfold Hears seats
  rw [live_on, List.filter_append, h]
  simp

end Listener.Registry

namespace Client

/-- Does an input take away a listener of the connection? -/
def silences (id : ListenerId) : Input → Bool
  | .command _ (.offConnection other) | .dropListener other => decide (other = id)
  | _ => false

/-- Does an input take away a listener of a channel, be it with the channel itself? -/
def silencesOn (name : String) (id : ListenerId) : Input → Bool
  | .command _ (.channel one .release) => decide (one = name)
  | .command _ (.channel one (.offState other)) => decide (one = name ∧ other = id)
  | .dropListener other => decide (other = id)
  | _ => false

/-- A step tells a listener for all kinds of change of the way of a state, as long as the listener
is there; the seats of a listener stay or are taken away. Only the next id may be given out. -/
structure Traces (c : Client) (i : Input) : Prop where
  nextListener : c.nextListener ≤ (c.step i).value.nextListener
  seats : ∀ id, (id = c.nextListener → (c.step i).value.nextListener = id) →
    (c.step i).value.connectionListeners.seats id =
      if silences id i then [] else c.connectionListeners.seats id
  seatsOn : ∀ name id, (id = c.nextListener → (c.step i).value.nextListener = id) →
    ((c.step i).value.channelOrNew name).stateListeners.seats id =
      if silencesOn name id i then [] else (c.channelOrNew name).stateListeners.seats id
  path : ∀ id, c.connectionListeners.Hears id → Connection.Path c.connection.state
    (connectionChanges id (c.step i).log) (c.step i).value.connection.state
  pathOn : ∀ name id, c.HearsOn name id → silencesOn name id i = false →
    Channel.Path (c.channelOrNew name).state (channelChanges id (c.step i).log)
      ((c.step i).value.channelOrNew name).state

section Traces

variable {c : Client} {i : Input} {id : ListenerId} {name : String}

theorem silences_of_tells (h : rearranges i = false) (id : ListenerId) : silences id i = false := by
  unfold silences
  split
  · cases h
  · cases h
  · rfl

theorem silencesOn_of_tells (h : rearranges i = false) (name : String) (id : ListenerId) :
    silencesOn name id i = false := by
  unfold silencesOn
  split
  · cases h
  · cases h
  · cases h
  · rfl

theorem traces_of_tells (h : rearranges i = false) : Traces c i := by
  have htells : Tells c (c.step i) := tells_step h
  refine ⟨htells.nextListener, fun id _ => ?_, fun name id _ => ?_, htells.connection,
    fun name id hid _ => htells.channel name id hid⟩
  · rw [silences_of_tells h, Listener.Registry.seats, htells.connectionLive]
    rfl
  · rw [silencesOn_of_tells h, Listener.Registry.seats, htells.channelLive]
    rfl

/-- Where no state changes, and nobody is told of one, the seats are left to see to. -/
theorem traces_of_still (hlog : Still (c.step i).log)
    (hstate : (c.step i).value.connection.state = c.connection.state)
    (hchannel : ∀ name id, silencesOn name id i = false →
      ((c.step i).value.channelOrNew name).state = (c.channelOrNew name).state)
    (hnext : c.nextListener ≤ (c.step i).value.nextListener)
    (hseats : ∀ id, (id = c.nextListener → (c.step i).value.nextListener = id) →
      (c.step i).value.connectionListeners.seats id =
        if silences id i then [] else c.connectionListeners.seats id)
    (hseatsOn : ∀ name id, (id = c.nextListener → (c.step i).value.nextListener = id) →
      ((c.step i).value.channelOrNew name).stateListeners.seats id =
        if silencesOn name id i then [] else (c.channelOrNew name).stateListeners.seats id) :
    Traces c i := by
  refine ⟨hnext, hseats, hseatsOn, fun id _ => ?_, fun name id _ hsilent => ?_⟩
  · rw [hlog.connection, hstate]
    exact rfl
  · rw [hlog.channel, hchannel name id hsilent]
    exact rfl

theorem channelOrNew_setListeners (c : Client) (one name : String) (f : Channel → Channel) :
    (c.setListeners one f).channelOrNew name =
      if one = name then f (c.channelOrNew name) else c.channelOrNew name := by
  unfold setListeners
  split
  · rename_i h
    rw [h, channelOrNew_setChannel_self]
  · rename_i h
    exact channelOrNew_setChannel_ne c one _ (Ne.symm h)

theorem channelOrNew_dropListener (c : Client) (id : ListenerId) (name : String) :
    (c.dropListener id).channelOrNew name = unheard id (c.channelOrNew name) := by
  have hget : (c.dropListener id).channel? name = (c.channel? name).map (unheard id) :=
    Entries.get?_map name (unheard id) c.channels.entries
  rw [channelOrNew, channelOrNew, hget]
  cases c.channel? name with
  | none => rfl
  | some ch => rfl

/-- A channel that is released is gone, and those that are left are as they were. -/
theorem releaseChannel_rest (c : Client) (one : String) :
    let r := c.releaseChannel one
    Still r.log ∧ r.value.connection = c.connection ∧ r.value.nextListener = c.nextListener ∧
      r.value.connectionListeners = c.connectionListeners ∧
      ∀ name, r.value.channelOrNew name = if one = name then {} else c.channelOrNew name := by
  refine releaseChannel_cases (fun hnone => ?absent) fun ch farewell _ hsaid => ?released
  case absent =>
    refine ⟨still_nil, rfl, rfl, rfl, fun name => ?_⟩
    split
    · rename_i h
      rw [← h, Logged.value_pure, channelOrNew, hnone]
      rfl
    · rfl
  case released =>
    have hwaiters := ch.still_failWaiters Cause.channelReleased.info
    have hpending : Still ({ c with channels := c.channels.erase one }.failPendingOf one
        Cause.channelReleased.info).log := still_failPendingOf _
    have hchannel : ∀ name, Client.channelOrNew { c with channels := c.channels.erase one } name =
        if one = name then {} else c.channelOrNew name := by
      intro name
      split
      · rename_i h
        rw [h, channelOrNew_erase_self]
      · rename_i h
        exact channelOrNew_erase_ne c one (Ne.symm h)
    have hfarewell : Still farewell.log := by
      rcases hsaid with rfl | ⟨rfl, -⟩
      · exact still_nil
      · exact still_singleton rfl
    exact ⟨still_append hwaiters (still_append hpending (still_append hfarewell still_nil)),
      rfl, rfl, rfl, hchannel⟩

/-- Whom to tell of the state of one channel is changed. -/
theorem traces_setListeners (one : String)
    (f : Listener.Registry Channel.State → Listener.Registry Channel.State)
    (hlog : Still (c.step i).log)
    (hvalue : ∃ next ≥ c.nextListener, (c.step i).value =
      { c.setListeners one fun ch => { ch with stateListeners := f ch.stateListeners } with
        nextListener := next })
    (hs : ∀ id, silences id i = false) (hne : ∀ name ≠ one, ∀ id, silencesOn name id i = false)
    (hf : ∀ id, (id = c.nextListener → (c.step i).value.nextListener = id) → ∀ r,
      (f r).seats id = if silencesOn one id i then [] else r.seats id) : Traces c i := by
  obtain ⟨next, hnext, hvalue⟩ := hvalue
  have hchannel : ∀ name, (c.step i).value.channelOrNew name = if one = name then
      { c.channelOrNew name with stateListeners := f (c.channelOrNew name).stateListeners }
        else c.channelOrNew name := fun name => by
    rw [hvalue]
    exact channelOrNew_setListeners c one name fun ch =>
      { ch with stateListeners := f ch.stateListeners }
  refine traces_of_still hlog (by rw [hvalue]; rfl) (fun name id _ => ?_)
    (by rw [hvalue]; exact hnext) (fun id _ => by rw [hvalue, hs]; rfl) fun name id hid => ?_
  · rw [hchannel]
    split <;> rfl
  · rw [hchannel]
    split
    · rename_i h
      rw [← h]
      exact hf id hid _
    · rename_i h
      rw [hne name (Ne.symm h)]
      rfl

theorem traces_step (c : Client) (i : Input) : Traces c i := by
  cases h : rearranges i with
  | false => exact traces_of_tells h
  | true =>
    unfold rearranges at h
    split at h
    · rename_i ticket filter
      refine traces_of_still (still_append (still_singleton rfl) still_nil) rfl (fun _ _ _ => rfl)
        (Nat.le_succ _) (fun id hid => ?_) fun _ _ _ => rfl
      have hne : id ≠ c.nextListener := fun he => Nat.succ_ne_self id (he ▸ hid he)
      exact Listener.Registry.seats_on_ne hne filter
    · rename_i ticket other
      refine traces_of_still still_nil rfl (fun _ _ _ => rfl) (Nat.le_refl _) (fun id _ => ?_)
        fun _ _ _ => rfl
      simp only [silences, decide_eq_true_eq]
      exact Listener.Registry.seats_off
    · rename_i ticket one filter
      refine traces_setListeners one (fun r => r.on c.nextListener filter)
        (still_append (still_singleton rfl) still_nil) ⟨_, Nat.le_succ _, rfl⟩ (fun _ => rfl)
        (fun _ _ _ => rfl) fun id hid r => ?_
      have hne : id ≠ c.nextListener := fun he => Nat.succ_ne_self id (he ▸ hid he)
      exact Listener.Registry.seats_on_ne hne filter
    · rename_i ticket one other
      refine traces_setListeners one (fun r => r.off other) still_nil
        ⟨_, Nat.le_refl _, rfl⟩ (fun _ => rfl) (fun name hne id => ?_) fun id _ r => ?_
      · simp [silencesOn, hne.symm]
      · simp [silencesOn, Listener.Registry.seats_off]
    · rename_i ticket one
      obtain ⟨hlog, hconnection, hnext, hlisteners, hchannel⟩ := releaseChannel_rest c one
      refine traces_of_still hlog (congrArg Connection.state hconnection) (fun name id hs => ?_)
        (Nat.le_of_eq hnext.symm) (fun id _ => congrArg (·.seats id) hlisteners) fun name id _ => ?_
      · rw [step, command, channelCommand, hchannel, if_neg (by simpa [silencesOn] using hs)]
      · rw [step, command, channelCommand, hchannel]
        by_cases hone : one = name
        · simp [silencesOn, hone, Listener.Registry.seats, Listener.Registry.live]
        · simp [silencesOn, hone]
    · rename_i other
      have hchannel := channelOrNew_dropListener c other
      refine traces_of_still still_nil rfl (fun name id _ => ?_) (Nat.le_refl _) (fun id _ => ?_)
        fun name id _ => ?_
      · rw [step, Logged.value_pure, hchannel]
        rfl
      · simp only [silences, decide_eq_true_eq]
        exact Listener.Registry.seats_drop
      · rw [step, Logged.value_pure, hchannel, unheard, Listener.Registry.seats_drop]
        simp [silencesOn]
    · cases h

end Traces

/-! ## Runs -/

/-- Nobody listens under an id that is still to be given out. -/
def Unheard (c : Client) : Prop := ∀ id ≥ c.nextListener,
  c.connectionListeners.IsDeaf id ∧ ∀ name, (c.channelOrNew name).stateListeners.IsDeaf id

section Runs

variable {c : Client} {id : ListenerId} {name : String} {later : List Input}

theorem unheard_step (h : Unheard c) (i : Input) : Unheard (c.step i).value := by
  have htraces := traces_step c i
  intro id hid
  obtain ⟨hdeaf, hdeafOn⟩ := h id (htraces.nextListener.trans hid)
  have hspent : id = c.nextListener → (c.step i).value.nextListener = id := fun he =>
    Nat.le_antisymm hid (he ▸ htraces.nextListener)
  refine ⟨?_, fun name => ?_⟩
  · unfold Listener.Registry.IsDeaf at *
    rw [htraces.seats id hspent, hdeaf, ite_self]
  · have hdeaf := hdeafOn name
    unfold Listener.Registry.IsDeaf at *
    rw [htraces.seatsOn name id hspent, hdeaf, ite_self]

theorem unheard_run (options : Options) (words : List UInt64) (inputs : List Input) :
    Unheard ((fresh options words).run inputs).value :=
  run_keeps (P := Unheard) (fun _ i h => unheard_step h i) (c := fresh options words)
    (fun _ _ => ⟨rfl, fun _ => rfl⟩) inputs

/-- A listener of the connection that stays is told of its way, however long the run. -/
theorem path_run (h : c.connectionListeners.Hears id) (hid : id < c.nextListener)
    (hkept : ∀ i ∈ later, silences id i = false) :
    Connection.Path c.connection.state (connectionChanges id (c.run later).log)
      (c.run later).value.connection.state := by
  induction later generalizing c with
  | nil => exact rfl
  | cons i rest ih =>
    have htraces := traces_step c i
    have hhears : (c.step i).value.connectionListeners.Hears id := by
      unfold Listener.Registry.Hears
      rw [htraces.seats id fun he => absurd he (Nat.ne_of_lt hid), hkept i List.mem_cons_self]
      exact h
    rw [run_cons, Logged.log_bind, connectionChanges_append]
    exact Connection.path_append (htraces.path id h) (ih hhears
      (Nat.lt_of_lt_of_le hid htraces.nextListener) fun i hi => hkept i (List.mem_cons_of_mem _ hi))

/-- A listener of a channel that stays is told of its way, until the channel is released. -/
theorem pathOn_run (h : c.HearsOn name id) (hid : id < c.nextListener)
    (hkept : ∀ i ∈ later, silencesOn name id i = false) :
    Channel.Path (c.channelOrNew name).state (channelChanges id (c.run later).log)
      ((c.run later).value.channelOrNew name).state := by
  induction later generalizing c with
  | nil => exact rfl
  | cons i rest ih =>
    have htraces := traces_step c i
    have hi := hkept i List.mem_cons_self
    have hspent : id = c.nextListener → (c.step i).value.nextListener = id := fun he =>
      absurd he (Nat.ne_of_lt hid)
    have hhears : (c.step i).value.HearsOn name id := by
      refine ⟨?_, fun other hne => ?_⟩
      · unfold Listener.Registry.Hears
        rw [htraces.seatsOn name id hspent, hi]
        exact h.1
      · have hdeaf := h.2 other hne
        unfold Listener.Registry.IsDeaf at *
        rw [htraces.seatsOn other id hspent, hdeaf, ite_self]
    rw [run_cons, Logged.log_bind, channelChanges_append]
    exact Channel.path_append (htraces.pathOn name id h hi) (ih hhears
      (Nat.lt_of_lt_of_le hid htraces.nextListener) fun i hi => hkept i (List.mem_cons_of_mem _ hi))

/-- Whoever comes to the connection under the next id is told of its way from then on. -/
theorem path_since (h : Unheard c) (ticket : Ticket)
    (hkept : ∀ i ∈ later, silences c.nextListener i = false) :
    let r := c.run (.command ticket (.onConnection none) :: later)
    Connection.Path c.connection.state (connectionChanges c.nextListener r.log)
      r.value.connection.state :=
  path_run (c := (c.step (.command ticket (.onConnection none))).value)
    (Listener.Registry.hears_on (h c.nextListener (Nat.le_refl _)).1) (Nat.lt_succ_self _) hkept

theorem pathOn_since (h : Unheard c) (ticket : Ticket) (name : String)
    (hkept : ∀ i ∈ later, silencesOn name c.nextListener i = false) :
    let r := c.run (.command ticket (.channel name (.onState none)) :: later)
    Channel.Path (c.channelOrNew name).state (channelChanges c.nextListener r.log)
      (r.value.channelOrNew name).state := by
  have hdeaf := (h c.nextListener (Nat.le_refl _)).2
  let d := (c.step (.command ticket (.channel name (.onState none)))).value
  have hchannel : ∀ other, d.channelOrNew other = if name = other then
      { c.channelOrNew other with
        stateListeners := (c.channelOrNew other).stateListeners.on c.nextListener none }
        else c.channelOrNew other := fun other => channelOrNew_setListeners c name other fun ch =>
    { ch with stateListeners := ch.stateListeners.on c.nextListener none }
  have hself := (hchannel name).trans (if_pos rfl)
  have hhears : d.HearsOn name c.nextListener := by
    refine ⟨?_, fun other hne => ?_⟩
    · rw [hself]
      exact Listener.Registry.hears_on (hdeaf name)
    · rw [hchannel, if_neg (Ne.symm hne)]
      exact hdeaf other
  have hstate : (d.channelOrNew name).state = (c.channelOrNew name).state := by rw [hself]
  exact hstate ▸ pathOn_run hhears (Nat.lt_succ_self _) hkept

end Runs

/-! ## The law -/

/-- Whoever listens to all changes of the connection is told of the way of its state, from the
state at that time to the state at any later one: every step of it, each one allowed, and no other.
The same is true of whoever listens to a channel, until the channel is released. -/
theorem the_changes_told_are_the_way_of_the_state (options : Options) (words : List UInt64)
    (first later : List Input) (ticket : Ticket) (name : String) :
    let c := ((fresh options words).run first).value
    let id := c.nextListener
    let whole := c.run (.command ticket (.onConnection none) :: later)
    let one := c.run (.command ticket (.channel name (.onState none)) :: later)
    (whole.log.head? = some (.resolve ticket (.listener id)) ∧
      (first = [] → c.connection.state = .initialized) ∧
      ((∀ i ∈ later, silences id i = false) → Connection.Path c.connection.state
        (connectionChanges id whole.log) whole.value.connection.state)) ∧
    one.log.head? = some (.resolve ticket (.listener id)) ∧
      (c.channel? name = none → (c.channelOrNew name).state = .initialized) ∧
      ((∀ i ∈ later, silencesOn name id i = false) → Channel.Path (c.channelOrNew name).state
        (channelChanges id one.log) (one.value.channelOrNew name).state) := by
  intro c id whole one
  have hunheard : Unheard c := unheard_run options words first
  refine ⟨⟨rfl, ?_, path_since hunheard ticket⟩, rfl, ?_, pathOn_since hunheard ticket name⟩
  · rintro rfl
    rfl
  · intro hnone
    rw [channelOrNew, hnone]
    rfl

/-- The client connects, and the server greets it and attaches the room. -/
def roomComesUp : List Input :=
  [.command 1 (.channel "room" .attach),
    .link 1 (.message { action := Message.Action.connected.code }),
    .link 1 (.message { action := Message.Action.attached.code, channel := some "room" })]

/-- Both listeners are told how it came, one of the connection and one of the room. -/
theorem the_room_comes_up_step_by_step :
    let r := (fresh keyOptions []).run (.command 0 (.onConnection none) :: roomComesUp)
    let room :=
      (fresh keyOptions []).run (.command 0 (.channel "room" (.onState none)) :: roomComesUp)
    connectionChanges 0 r.log =
        [⟨.initialized, .connecting, none, none⟩, ⟨.connecting, .connected, none, none⟩] ∧
      Connection.Path .initialized (connectionChanges 0 r.log) .connected ∧
      channelChanges 0 room.log =
        [⟨.initialized, .attaching, none, false⟩, ⟨.attaching, .attached, none, false⟩] ∧
      Channel.Path .initialized (channelChanges 0 room.log) .attached := by
  obtain ⟨⟨-, -, hconnection⟩, -, -, hroom⟩ :=
    the_changes_told_are_the_way_of_the_state keyOptions [] [] roomComesUp 0 "room"
  exact ⟨rfl, hconnection (by decide), rfl, hroom (by decide)⟩

end Client

end PresenceClient
