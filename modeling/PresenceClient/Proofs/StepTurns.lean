-- A step of the client is two rounds of turns. In the early round the input does its work;
-- in the late one the timers of the channels fire. Each channel has one turn in each.
import PresenceClient.Proofs.MemberTurns
import PresenceClient.Proofs.StepBooks

namespace PresenceClient.Client

open Channel (Core Cue Turn)

/-! ## Rounds -/

/-- Each channel has a turn, on its own cue. -/
def Turns (cue : String → Cue) (c : Client) (r : Logged Client) : Prop :=
  ∀ name, Turn name c.isConnected (cue name) (c.core name) (firstSent name r.log)
    (r.value.core name) r.value.isConnected

section Turns

variable {cue : String → Cue} {c : Client} {r : Logged Client}

/-- A turn of one channel is a round in which the others do nothing. -/
theorem turns_one {name : String} (h : TurnOn name c.isConnected (cue name) c r)
    (hcue : ∀ other, other ≠ name → cue other = .other) : Turns cue c r := by
  intro other
  by_cases hne : other = name
  · rw [hne]
    exact h.turn
  · rw [core_congr (h.others other hne), h.silent other hne, h.steady, hcue other hne]
    exact .idle idle_other .inl

/-- Nothing happens to any channel. -/
theorem turns_apart (h : Apart c r) (hup : r.value.isConnected = true → c.isConnected = true) :
    Turns (fun _ => .other) c r := by
  intro name
  rw [core_of_channels h.channels, h.silent]
  exact .idle idle_other fun hu => .inl (hup hu)

theorem turns_recue {cue' : String → Cue} (h : Turns cue c r)
    (hcue : ∀ name, cue' name = cue name) : Turns cue' c r := by
  intro name
  rw [hcue name]
  exact h name

theorem turns_from {d : Client} (hd : d.channels = c.channels)
    (hup : d.isConnected = c.isConnected) (h : Turns cue d r) : Turns cue c r := by
  intro name
  have ht := h name
  rwa [core_of_channels hd, hup] at ht

theorem turns_after {x : Logged Client} {f : Client → Logged Client} (hx : Apart c x)
    (hup : x.value.isConnected = c.isConnected) (h : Turns cue x.value (f x.value)) :
    Turns cue c (x >>= f) := by
  intro name
  have ht := turns_from hx.channels hup h name
  rwa [Logged.value_bind, Logged.log_bind, firstSent_append, hx.silent, List.nil_append]

/-- What comes after some effects depends on their outcome only. -/
theorem turns_congr {x : Logged Client} {f g : Client → Logged Client}
    (hfg : f x.value = g x.value) (h : Turns cue c (x >>= g)) : Turns cue c (x >>= f) := by
  have heq : (x >>= f) = x >>= g := by
    ext <;> simp only [Logged.value_bind, Logged.log_bind, hfg]
  rwa [heq]

/-- The connection changes, and then each channel has its turn. -/
theorem turns_visit {x : Logged Client} {f : Client → String → Logged Client}
    (h : c.channels.Ordered) (hx : Apart c x)
    (hf : ∀ d name, d.core name = c.core name → d.isConnected = x.value.isConnected →
      TurnOn name c.isConnected .other d (f d name)) :
    Turns (fun _ => .other) c (x >>= fun d => d.forNames c.channels.keys f) := by
  have hsame : ∀ name, x.value.channel? name = c.channel? name := channel?_of_channels hx.channels
  obtain ⟨hup, hall⟩ := forNames_visits (Table.keys_nodup h) x.value fun d name _ hd hu =>
    (hf d name (core_congr (hd.trans (hsame name))) hu).toAlone
  intro name
  rw [Logged.value_bind, Logged.log_bind, firstSent_append, hx.silent, List.nil_append, hup]
  rcases hall name with ⟨hn, hch, hlog⟩ | ⟨-, d, hd, hu, hch, hlog⟩
  · have hnone : c.channel? name = none := by
      cases hc : c.channel? name with
      | none => rfl
      | some ch => exact absurd (Table.mem_keys_of_get? hc) hn
    rw [hlog, core_of_none hnone, core_of_none (hch.trans ((hsame name).trans hnone))]
    exact .idle idle_other fun _ => .inr (.inl rfl)
  · have hcore : d.core name = c.core name := core_congr (hd.trans (hsame name))
    have hturn := hf d name hcore hu
    have ht := hturn.turn
    rw [hturn.steady, hu, hcore] at ht
    rw [core_congr hch, hlog]
    exact ht

theorem turns_visitAll {x : Logged Client} {f : Client → String → Logged Client}
    (h : c.channels.Ordered) (hx : Apart c x)
    (hf : ∀ d name, d.core name = c.core name → d.isConnected = x.value.isConnected →
      TurnOn name c.isConnected .other d (f d name)) :
    Turns (fun _ => .other) c (x >>= fun d => d.forNames d.channels.keys f) := by
  refine turns_congr (g := fun d => d.forNames c.channels.keys f) ?_ (turns_visit h hx hf)
  rw [hx.channels]

end Turns

/-! ## The connection -/

section Connection

variable {c : Client}

/-- The connection goes down, and the channels follow. -/
theorem turns_goDown {f : Client → String → Logged Client} (h : c.channels.Ordered)
    {next : Connection.State} (hcan : c.connection.state.canBecome next = true)
    (hnext : next ≠ .connected) (reason : Option ErrorInfo) (retryIn : Option Duration)
    (g : Client → Connection) (hg : ∀ d, (g d).state = d.connection.state) (e : ErrorInfo)
    (hf : ∀ d name, d.isConnected = false → TurnOn name c.isConnected .other d (f d name)) :
    Turns (fun _ => .other) c (do
      let c' ← c.become next reason retryIn
      let c' ← { c' with connection := g c' }.failPending e
      c'.forNames c.channels.keys f) := by
  have hstate := state_become (c := c) next reason retryIn
  rw [if_pos hcan] at hstate
  rw [← bind_assoc]
  refine turns_visit h ?_ fun d name _ hu => hf d name ?_
  · exact apart_bind (apart_become _ _ _) fun d =>
      have hs : Apart { d with connection := g d } _ := apart_settle _ _
      ⟨hs.channels, hs.silent⟩
  · rw [hu]
    show ((g (c.become next reason retryIn).value).state == Connection.State.connected) = false
    rw [hg, hstate]
    simpa using hnext

theorem turns_enterSuspended (h : c.channels.Ordered) :
    Turns (fun _ => .other) c c.enterSuspended := by
  refine enterSuspended_cases (fun hcan => ?suspends) fun _ => turns_apart apart_pure id
  refine turns_goDown h hcan (by simp) _ _ (fun d => (d.setTimer (some (Alarm.after d.clock
    c.options.timing.suspendedRetry .retry))).connection) (fun _ => rfl) _ fun d name hdown => ?_
  exact turnOn_suspendUnder (by simp [hdown]) hdown _

theorem turns_failConnection (h : c.channels.Ordered) (e : ErrorInfo) :
    Turns (fun _ => .other) c (c.failConnection e) := by
  refine failConnection_cases (fun hcan => ?fails) fun _ => turns_apart apart_dropLink id
  refine turns_after apart_dropLink rfl ?_
  refine turns_goDown (c := c.dropLink.value) h hcan (by simp) _ _
    (fun d => d.connection.endSession) (fun _ => rfl) _ fun d name hdown => ?_
  exact turnOn_failUnder (by simp [hdown]) e

theorem turns_finishClose (h : c.channels.Ordered) : Turns (fun _ => .other) c c.finishClose := by
  refine finishClose_cases (fun hcan => ?closes) fun _ => turns_apart apart_dropLink id
  refine turns_after apart_dropLink rfl ?_
  refine turns_goDown (c := c.dropLink.value) h hcan (by simp) _ _
    (fun d => { d.connection.endSession with retryAttempts := 0 }) (fun _ => rfl) _
    fun d name hdown => ?_
  exact turnOn_detachOnClose (by simp [hdown]) _

theorem turns_close (h : c.channels.Ordered) : Turns (fun _ => .other) c c.close := by
  refine close_cases (fun _ => turns_apart apart_pure id) (fun hs => ?asks) fun _ _ _ =>
    turns_finishClose h
  refine turns_apart (apart_bind (apart_become _ _ _) fun d =>
    apart_quiet (fun _ => rfl) (apart_same rfl)) fun _ => ?_
  exact isConnected_iff.mpr hs

theorem turns_enterDisconnected (h : c.channels.Ordered) (e : ErrorInfo) :
    Turns (fun _ => .other) c (c.enterDisconnected e) := by
  refine turns_from (d := c.takeWord.2) rfl rfl ?_
  have hx : Apart c.takeWord.2 (c.takeWord.2.become .disconnected (some e) (some c.nextWait)) :=
    apart_become _ _ _
  have hup := @isConnected_become c.takeWord.2 .disconnected (by simp) (some e) (some c.nextWait)
  refine enterDisconnected_cases (fun _ _ => ?keeps) (fun _ _ => ?drops) fun _ =>
    turns_apart apart_pure id
  case keeps => exact turns_apart (apart_bind hx fun _ => apart_same rfl) hup
  case drops =>
    have hset : Apart c.takeWord.2 (c.takeWord.2.become .disconnected (some e) (some c.nextWait) >>=
        fun d => pure (d.setTimer (some (Alarm.after d.clock c.nextWait .retry)))) :=
      apart_bind hx fun _ => apart_same rfl
    have hall := turns_visitAll (c := c.takeWord.2) h hset fun d name _ hu =>
      turnOn_failQueue (fun hc => hup (hu ▸ hc)) e
    rwa [bind_assoc] at hall

theorem turns_handleLoss (h : c.channels.Ordered) (e : ErrorInfo) :
    Turns (fun _ => .other) c (c.handleLoss e) := by
  have hx : Apart c c.loseLink := apart_bind apart_dropLink fun _ => apart_same rfl
  have ho : c.loseLink.value.channels.Ordered := h
  exact handleLoss_cases (fun _ => turns_after hx rfl (turns_enterSuspended ho))
    fun _ => turns_after hx rfl (turns_enterDisconnected ho e)

theorem turns_onDisconnected (h : c.channels.Ordered) (e : Option ErrorInfo) :
    Turns (fun _ => .other) c (c.onDisconnected e) :=
  onDisconnected_cases (fun _ _ => turns_handleLoss h _) fun _ _ _ => turns_failConnection h _

theorem turns_onLinkEnded (h : c.channels.Ordered) (e : Option ErrorInfo) :
    Turns (fun _ => .other) c (c.onLinkEnded e) :=
  onLinkEnded_cases (fun _ _ => turns_handleLoss h _) (fun _ => turns_finishClose h)
    fun _ _ _ => turns_apart apart_pure id

theorem turns_onConnectionTimer (h : c.channels.Ordered) (kind : Connection.Timer) :
    Turns (fun _ => .other) c (c.onConnectionTimer kind) := by
  have ho : (c.setTimer none).channels.Ordered := h
  refine turns_from (d := c.setTimer none) rfl rfl ?_
  refine onConnectionTimer_cases (fun _ _ => turns_handleLoss ho _) (fun _ => ?retries)
    fun _ => turns_finishClose ho
  exact turns_apart apart_startConnecting fun hu => isConnected_startConnecting ▸ hu

theorem turns_fireConnectionTimer (h : c.channels.Ordered) (now : Instant) :
    Turns (fun _ => .other) c (c.fireConnectionTimer now) :=
  fireConnectionTimer_cases (fun _ _ _ => turns_onConnectionTimer h _)
    fun _ => turns_apart apart_pure id

/-- When a link comes up, each channel takes up what it was doing. -/
theorem turns_linkUp {x : Logged Client} (h : c.channels.Ordered)
    (hq : ∀ name, (c.core name).Addressed name) (hdown : c.isConnected = false) (hx : Apart c x)
    (hup : x.value.isConnected = true) (resumed : Bool) :
    Turns (fun _ => .other) c (x >>= fun d => d.linkUp resumed) := by
  have hrenew : ∀ d : Client, (if resumed then d else d.renumbered).channels = d.channels ∧
      (if resumed then d else d.renumbered).isConnected = d.isConnected := by
    intro d
    cases resumed <;> exact ⟨rfl, rfl⟩
  simp only [linkUp_eq]
  rw [← bind_assoc]
  refine turns_visitAll h ?_ fun d name hd hu => ?_
  · exact apart_bind hx fun d => apart_from (hrenew d).1 (apart_resendPending resumed)
  · have hlive : d.isConnected = true := by
      rw [hu, Logged.value_bind, isConnected_resendPending, (hrenew _).2, hup]
    rw [hdown]
    exact turnOn_onLinkUp resumed hlive (hd ▸ hq name)

theorem turns_onConnected (h : c.channels.Ordered)
    (hq : ∀ name, (c.core name).Addressed name) (m : Message) :
    Turns (fun _ => .other) c (c.onConnected m) := by
  have hx : Apart c ((c.greeted m).become .connected m.error none) :=
    apart_from (d := c.greeted m) rfl (apart_become _ _ _)
  have hidle : Apart c ((c.greeted m).become .connected m.error none >>= fun d =>
      pure d.resetIdleTimer) := apart_bind hx fun d => apart_same (resetIdleTimer_same d).1
  refine onConnected_cases (fun hs => ?live) (fun hs => ?comesUp) fun _ _ =>
    turns_apart apart_pure id
  case live => exact turns_apart hidle fun _ => isConnected_iff.mpr hs
  case comesUp =>
    have hdown : c.isConnected = false := by simp [isConnected, Connection.isConnected, hs]
    have hcan : (c.greeted m).connection.state.canBecome .connected = true := by
      rw [show (c.greeted m).connection.state = .connecting from hs]
      rfl
    have hstate := state_become (c := c.greeted m) .connected m.error none
    rw [if_pos hcan] at hstate
    have hlive := (resetIdleTimer_same _).2.2.trans (isConnected_iff.mpr hstate)
    have h := turns_linkUp h hq hdown hidle hlive (c.resumes m)
    rwa [bind_assoc] at h

theorem turns_shutdown (h : c.channels.Ordered) : Turns (fun _ => .other) c c.shutdown := by
  have hquiet : ∀ {x : Logged Unit} {r : Logged Client}, (∀ name, firstSent name x.log = []) →
      Turns (fun _ => .other) c r → Turns (fun _ => .other) c (x >>= fun _ => r) := by
    intro x r hx hr name
    have ht := hr name
    rwa [Logged.value_bind, Logged.log_bind, firstSent_append, hx, List.nil_append]
  refine shutdown_cases fun farewell hsaid => ?_
  refine hquiet ?_ (hquiet (fun _ => rfl) ?_)
  · rcases hsaid with rfl | ⟨rfl, -⟩
    all_goals exact fun _ => rfl
  · exact turns_visitAll h (apart_settle _ _) fun d name _ hu =>
      turnOn_failWaiters (fun hc => hu ▸ hc) _

end Connection

/-! ## The early round -/

/-- Does the client take a message as the server's word that the channel is attached? -/
def takesAttached (c : Client) (name : String) (m : Message) : Bool :=
  Message.Action.ofCode? m.action == some .attached && m.channel == some name &&
    (c.channel? name).any acceptsAttached

/-- What an input is to a channel. -/
def cue (c : Client) (name : String) : Input → Cue
  | .command ticket (.channel other (.publish _ _ _)) =>
    if other = name then .submit ticket else .other
  | .link generation (.message m) =>
    if generation = c.connection.generation ∧ c.takesAttached name m = true then .attached
    else .other
  | _ => .other

/-- Does the client take an input as the word of the server that the channel is attached? -/
def hearsAttached (c : Client) (name : String) : Input → Bool
  | .link generation (.message m) =>
    decide (generation = c.connection.generation) && c.takesAttached name m
  | _ => false

theorem cue_eq_attached {c : Client} {name : String} {i : Input} :
    c.cue name i = .attached ↔ c.hearsAttached name i = true := by
  unfold cue hearsAttached
  split
  · split <;> simp
  · split <;> simp_all
  · split <;> simp_all

section Early

variable {c : Client}

theorem turns_channelCommand (name : String) (ticket : Ticket) (command : ChannelCommand) :
    Turns (fun other => c.cue other (.command ticket (.channel name command))) c
      (c.channelCommand name ticket command) := by
  cases command with
  | publish action clientId data =>
    refine turns_one ?_ fun other hne => if_neg (Ne.symm hne)
    rw [cue, if_pos rfl]
    exact turnOn_publish action clientId data ticket
  | attach => exact turns_one (turnOn_attachChannel _) fun _ _ => rfl
  | detach => exact turns_one (turnOn_detachChannel _) fun _ _ => rfl
  | get query => exact turns_one (turnOn_getMembers query ticket) fun _ _ => rfl
  | subscribe action => exact turns_one (turnOn_subscribe action ticket) fun _ _ => rfl
  | release => exact turns_one turnOn_releaseChannel fun _ _ => rfl
  | unsubscribe id => exact turns_one (turnOn_setListeners fun _ => rfl) fun _ _ => rfl
  | unsubscribeAction action id =>
    exact turns_one (turnOn_setListeners fun _ => rfl) fun _ _ => rfl
  | unsubscribeAll => exact turns_one (turnOn_setListeners fun _ => rfl) fun _ _ => rfl
  | offState id => exact turns_one (turnOn_setListeners fun _ => rfl) fun _ _ => rfl
  | onState filter => exact turns_one (turnOn_onChannelState filter ticket) fun _ _ => rfl
  | _ => exact turns_one ((yields_told fun _ => rfl).idle idle_other id) fun _ _ => rfl

theorem turns_command (h : c.channels.Ordered) (ticket : Ticket) (asked : Command) :
    Turns (fun name => c.cue name (.command ticket asked)) c (c.command ticket asked) := by
  cases asked with
  | connect => exact turns_apart apart_connect fun hu => isConnected_connect ▸ hu
  | close => exact turns_close h
  | queryConnection => exact turns_apart (apart_quiet (fun _ => rfl) apart_pure) id
  | onConnection filter => exact turns_apart (apart_quiet (fun _ => rfl) (apart_same rfl)) id
  | offConnection id => exact turns_apart (apart_same rfl) fun hu => hu
  | channel name command => exact turns_channelCommand name ticket command

theorem turns_onDetached (m : Message) : Turns (fun _ => .other) c (c.onDetached m) := by
  cases hm : m.channel with
  | none =>
    rw [onDetached_of_none hm]
    exact turns_apart apart_pure id
  | some name => exact turns_one (turnOn_onDetached m hm) fun _ _ => rfl

theorem turns_onSync (m : Message) : Turns (fun _ => .other) c (c.onSync m) := by
  cases hm : m.channel with
  | none =>
    rw [onSync_of_none hm]
    exact turns_apart apart_pure id
  | some name => exact turns_one (turnOn_onSync m hm) fun _ _ => rfl

theorem turns_onPresence (m : Message) : Turns (fun _ => .other) c (c.onPresence m) := by
  cases hm : m.channel with
  | none =>
    rw [onPresence_of_none hm]
    exact turns_apart apart_pure id
  | some name => exact turns_one (turnOn_onPresence m hm) fun _ _ => rfl

theorem turns_onError (h : c.channels.Ordered) (m : Message) :
    Turns (fun _ => .other) c (c.onError m) :=
  onError_cases (fun _ _ => turns_one (turnOn_failChannel id _) fun _ _ => rfl)
    fun _ => turns_failConnection h _

theorem turns_onAttached (hq : ∀ name, (c.core name).Addressed name) (m : Message) :
    Turns (fun name => if m.channel = some name ∧ (c.channel? name).any acceptsAttached = true
      then .attached else .other) c (c.onAttached m) := by
  by_cases htaken : ∃ name, m.channel = some name ∧ (c.channel? name).any acceptsAttached = true
  · obtain ⟨name, hm, hany⟩ := htaken
    obtain ⟨ch, hch, ha⟩ := (Option.any_eq_true _ _).mp hany
    refine turns_one ?_ fun other hne => if_neg fun h =>
      hne (Option.some.inj (hm.symm.trans h.1)).symm
    rw [if_pos ⟨hm, hany⟩]
    exact turnOn_onAttached m hm hch ha (hq name)
  · have hno : ∀ name, m.channel = some name → (c.channel? name).any acceptsAttached = false :=
      fun name hm => Bool.eq_false_iff.mpr fun hany => htaken ⟨name, hm, hany⟩
    rw [onAttached_of_ignored hno]
    exact turns_recue (turns_apart apart_pure id) fun other => if_neg fun h => htaken ⟨other, h⟩

/-- A message of the live link. -/
theorem turns_onMessage (h : c.channels.Ordered) (hq : ∀ name, (c.core name).Addressed name)
    (m : Message) :
    Turns (fun name => if c.takesAttached name m = true then .attached else .other) c
      (c.onMessage m) := by
  have hsame := resetIdleTimer_same c
  have htakes : ∀ name, c.takesAttached name m = c.resetIdleTimer.takesAttached name m := by
    intro name
    simp only [takesAttached, channel?, hsame.1]
  have ho : c.resetIdleTimer.channels.Ordered := hsame.1 ▸ h
  have hq' : ∀ name, (c.resetIdleTimer.core name).Addressed name := fun name => by
    rw [core_of_channels hsame.1]
    exact hq name
  simp only [htakes]
  apply turns_from hsame.1 hsame.2.2
  have hother : Message.Action.ofCode? m.action ≠ some .attached → ∀ {r : Logged Client},
      Turns (fun _ => .other) c.resetIdleTimer r →
        Turns (fun name => if c.resetIdleTimer.takesAttached name m = true then .attached
          else .other) c.resetIdleTimer r := by
    intro hne r hr
    exact turns_recue hr fun name => if_neg (by simp [takesAttached, hne])
  refine onMessage_cases (fun ha => hother (by simp [ha]) (turns_onConnected ho hq' m))
    (fun ha => hother (by simp [ha]) (turns_onDisconnected ho m.error))
    (fun ha => hother (by simp [ha]) (turns_finishClose ho))
    (fun ha => hother (by simp [ha]) (turns_onError ho m))
    (fun ha => hother (by simp [ha]) (turns_apart (apart_settle _ _) id))
    (fun ha => hother (by simp [ha]) (turns_apart (apart_settle _ _) id))
    (fun ha => ?attached)
    (fun ha => hother (by simp [ha]) (turns_onDetached m))
    (fun ha => hother (by simp [ha]) (turns_onSync m))
    (fun ha => hother (by simp [ha]) (turns_onPresence m))
    fun hno => hother (hno .attached (by simp)) (turns_apart apart_pure id)
  case attached =>
    have h := turns_onAttached hq' m
    simpa [takesAttached, ha] using h

/-- Listeners are no part of the core. -/
theorem core_dropListener (c : Client) (id : ListenerId) (name : String) :
    (c.dropListener id).core name = c.core name := by
  have hget : (c.dropListener id).channel? name = (c.channel? name).map (unheard id) :=
    Entries.get?_map name (unheard id) c.channels.entries
  rw [core, channelOrNew, hget, core, channelOrNew]
  cases c.channel? name <;> rfl

/-- No input itself gives up a detach. -/
theorem cue_ne_giveUp (c : Client) (name : String) (i : Input) : c.cue name i ≠ .giveUp := by
  unfold cue
  split
  any_goals split
  all_goals simp

/-- The work of an input, before the timers of the channels. -/
def early (c : Client) : Input → Logged Client
  | .timers => c.fireConnectionTimer c.clock
  | i => c.step i

theorem turns_early (h : c.channels.Ordered) (hq : ∀ name, (c.core name).Addressed name)
    (i : Input) : Turns (fun name => c.cue name i) c (c.early i) := by
  cases i with
  | command ticket asked => exact turns_command h ticket asked
  | link generation event =>
    have hearly : c.early (.link generation event) = c.onLinkEvent generation event := rfl
    rw [hearly]
    refine onLinkEvent_cases (fun m hg he => ?message) (fun error _ he => ?ended) fun hg => ?stale
    case message =>
      refine turns_recue (turns_onMessage h hq m) fun name => ?_
      simp only [cue, hg, he, true_and]
    case ended =>
      rw [he]
      exact turns_onLinkEnded h error
    case stale =>
      refine turns_recue (turns_apart apart_pure id) fun name => ?_
      cases event with
      | message m => exact if_neg fun h => hg h.1
      | ended error => rfl
  | clock now => exact turns_apart (apart_same rfl) id
  | timers => exact turns_fireConnectionTimer h c.clock
  | dropListener id =>
    intro name
    have hcore : ((c.early (.dropListener id)).value.core name) = c.core name :=
      core_dropListener c id name
    rw [hcore]
    exact .idle idle_other .inl
  | shutdown => exact turns_shutdown h

end Early

/-! ## The late round -/

/-- The timers of the channels fire, if it is their time. -/
def late (c : Client) (now : Instant) : Input → Logged Client
  | .timers => c.forNames (c.dueChannels now) onChannelTimer
  | _ => pure c

/-- A step is an early round and a late one. -/
theorem step_eq (c : Client) (i : Input) : c.step i = c.early i >>= fun d => d.late c.clock i := by
  cases i with
  | timers => rfl
  | _ => exact (bind_pure _).symm

/-- Is the timer of the channel among those that fire late? -/
def isDue (c : Client) (now : Instant) (name : String) : Input → Bool
  | .timers => (c.dueChannels now).contains name
  | _ => false

/-- What gives a channel its late turn. -/
def lateCue (c : Client) (now : Instant) (name : String) (i : Input) : Cue :=
  if c.isDue now name i && c.givesUp name then .giveUp else .timer

theorem lateCue_cases (c : Client) (now : Instant) (name : String) (i : Input) :
    c.lateCue now name i = .timer ∨ c.lateCue now name i = .giveUp := by
  unfold lateCue
  split
  · exact .inr rfl
  · exact .inl rfl

/-- Does a step give up a detach of the channel? The timer of the channel does, when it finds
the channel detaching on a live link. -/
def undetaches (c : Client) (name : String) (i : Input) : Bool :=
  (c.early i).value.isDue c.clock name i && (c.early i).value.givesUp name

theorem lateCue_eq_giveUp {c : Client} {name : String} {i : Input} :
    (c.early i).value.lateCue c.clock name i = .giveUp ↔ c.undetaches name i = true := by
  unfold lateCue undetaches
  split <;> simp_all

theorem mem_dueChannels {c : Client} (h : c.channels.Ordered) {now : Instant} {name : String} :
    name ∈ c.dueChannels now ↔ ∃ ch alarm, c.channel? name = some ch ∧
      ch.timer = some alarm ∧ alarm.isDue now = true := by
  unfold dueChannels
  simp only [List.mem_map, List.mem_filter]
  constructor
  · rintro ⟨⟨other, ch⟩, ⟨hmem, hdue⟩, rfl⟩
    obtain ⟨alarm, ht, hd⟩ := (Option.any_eq_true _ _).mp hdue
    exact ⟨ch, alarm, Entries.get?_of_mem h hmem, ht, hd⟩
  · rintro ⟨ch, alarm, hch, ht, hd⟩
    exact ⟨(name, ch), ⟨Entries.mem_of_get? hch, by simp [ht, hd]⟩, rfl⟩

theorem turns_late {c : Client} (h : c.channels.Ordered)
    (hfits : ∀ name, (c.core name).Fits c.isConnected) (now : Instant) (i : Input) :
    Turns (fun name => c.lateCue now name i) c (c.late now i) := by
  have hidle : ∀ i, (∀ name, c.isDue now name i = false) →
      Turns (fun name => c.lateCue now name i) c (pure c) := by
    intro i hdue name
    simp only [lateCue, hdue, Bool.false_and]
    exact .idle (by simp) .inl
  cases i with
  | timers =>
    have hnodup : (c.dueChannels now).Nodup :=
      (Table.keys_nodup h).sublist (List.filter_sublist.map _)
    have hturn : ∀ d name, name ∈ c.dueChannels now → d.channel? name = c.channel? name →
        d.isConnected = c.isConnected →
          TurnOn name c.isConnected (c.timerCue name) d (d.onChannelTimer name) := by
      intro d name hn hd hu
      obtain ⟨ch, alarm, hch, ht, -⟩ := (mem_dueChannels h).mp hn
      have hcore : d.core name = c.core name := core_congr hd
      have hcue : d.timerCue name = c.timerCue name := by
        rw [timerCue, timerCue, givesUp, givesUp, hcore, hu]
      rw [← hu, ← hcue]
      exact turnOn_onChannelTimer (hd.trans hch) ht (by rw [hcore, hu]; exact hfits name)
    obtain ⟨hup, hall⟩ := forNames_visits hnodup c fun d name hn hd hu =>
      (hturn d name hn hd hu).toAlone
    intro name
    have hdue : c.isDue now name .timers = (c.dueChannels now).contains name := rfl
    unfold late
    beta_reduce
    rw [hup]
    rcases hall name with ⟨hn, hch, hlog⟩ | ⟨hn, d, hd, hu, hch, hlog⟩
    · have hnot : (c.dueChannels now).contains name = false := by simpa using hn
      rw [hlog, core_congr hch, lateCue, hdue, hnot]
      exact .idle (by simp) .inl
    · have hone := hturn d name hn hd hu
      have ht := hone.turn
      rw [hone.steady, hu, core_congr hd] at ht
      rw [hlog, core_congr hch, lateCue, hdue, List.contains_iff_mem.mpr hn]
      exact ht
  | _ => exact hidle _ fun _ => rfl

end PresenceClient.Client
