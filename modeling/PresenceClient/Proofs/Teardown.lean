-- What a connection that goes down leaves of its channels. It goes through all of them, and
-- each is left as it would be if there were no other.
import PresenceClient.Proofs.ClientTurns
import PresenceClient.Proofs.ConnectionSteps
import PresenceClient.Proofs.TicketLaws

namespace PresenceClient

/-! ## What becomes of a channel -/

namespace Channel

/-- A channel fails with its connection. Out of use, it only loses what is queued. -/
structure FailsWith (error : ErrorInfo) (ch ch' : Channel) : Prop where
  inUse : ch.state.isResting = false → ch'.state = .failed ∧ ch'.errorReason = some error ∧
    ch'.roster = {} ∧ ch'.timer = none ∧ ch'.core.Idle
  resting : ch.state.isResting = true → ch' = { ch with queue := {} }

/-- A channel waits for the connection to come back, and keeps nothing to send till then. -/
def IsSuspended (ch : Channel) : Prop :=
  ch.queue.entries = [] ∧ ch.state ≠ .attached ∧ ch.state ≠ .attaching

/-- A channel is out of use, and nobody waits there. -/
def IsOver (ch : Channel) : Prop := ch.core.Idle ∧ ch.state.isResting = true

/-! A channel that is not there counts as new, and what goes down leaves it so. -/

theorem failsWith_fresh (e : ErrorInfo) : FailsWith e {} {} :=
  ⟨fun h => absurd h (by decide), fun _ => rfl⟩

theorem isSuspended_fresh : IsSuspended {} := ⟨rfl, by decide, by decide⟩

theorem isOver_fresh : IsOver {} := ⟨⟨rfl, rfl, rfl, rfl⟩, rfl⟩

variable (ch : Channel)

variable {ch} in
theorem isSuspended_of_state (hq : ch.queue.entries = []) (hs : ch.state = .suspended) :
    ch.IsSuspended := ⟨hq, by simp [hs], by simp [hs]⟩

theorem become_of_canBecome {next : State} (h : ch.state.canBecome next = true)
    (reason : Option ErrorInfo) (resumed : Bool) : (ch.become next reason resumed).value =
      { ch with
        state := next
        errorReason := reason <|> ch.errorReason
        stateListeners := ch.stateListeners.prune } :=
  become_cases (fun _ => rfl) fun hno => absurd (h.symm.trans hno) nofun

theorem isOver_detachOnClose (e : ErrorInfo) : (Client.detachOnClose e ch).value.IsOver := by
  have hended : ∀ {s : State}, ch.state = s → s.canBecome .detached = true →
      (ch.enterDetached none e).value.IsOver := by
    intro s hs hcan
    have hcore : (ch.enterDetached none e).value.core = ch.core.ended .detached :=
      Client.core_enterDetached (hs ▸ hcan) none e
    refine ⟨hcore ▸ idle_cleared ch.core, ?_⟩
    show (ch.enterDetached none e).value.core.state.isResting = true
    rw [hcore]
    rfl
  refine Client.detachOnClose_cases (fun hs => ?used) fun hs => ?unused
  case used => rcases hs with hs | hs | hs | hs <;> exact hended hs rfl
  case unused =>
    refine ⟨idle_cleared ch.core, ?_⟩
    show ch.state.isResting = true
    rcases hs with hs | hs | hs <;> rw [hs] <;> rfl

end Channel

namespace Client

open Channel (FailsWith IsSuspended IsOver)
open Logged (tell)

variable {c : Client}

/-! ## One channel -/

/-- What a function brings about on every channel it brings about on the channel of the name. -/
theorem channelOrNew_onChannel {P : Channel → Prop} (name : String) (f : Channel → Logged Channel)
    (hfresh : P {}) (hf : ∀ ch, P (f ch).value) :
    P ((c.onChannel name f).value.channelOrNew name) := by
  refine onChannel_cases (fun hnone => ?absent) fun ch hch => ?there
  case absent =>
    show P (c.channelOrNew name)
    rw [channelOrNew, hnone]
    exact hfresh
  case there =>
    show P ((c.setChannel name (f ch).value).channelOrNew name)
    rw [channelOrNew_setChannel_self]
    exact hf ch

theorem failsWith_failChannel {name : String} {ch : Channel} (hch : c.channel? name = some ch)
    (hs : ch.state.isResting = false) (e : ErrorInfo) :
    FailsWith e ch ((c.failChannel name e).value.channelOrNew name) := by
  have hcan : ch.state.canBecome .failed = true := by
    cases h : ch.state <;> simp_all [Channel.State.isResting, Channel.State.canBecome]
  refine failChannel_cases (fun hidle => ?idle) fun ch' hch' _ => ?fails
  case idle => simp [hidle ch hch, Channel.State.isResting] at hs
  case fails =>
    cases hch.symm.trans hch'
    show FailsWith e ch ((c.setChannel name _).channelOrNew name)
    rw [channelOrNew_setChannel_self]
    unfold toFailed
    rw [Logged.value_bind,
      Channel.become_of_canBecome { ch with timer := none, serial := none } hcan]
    exact ⟨fun _ => ⟨rfl, rfl, rfl, rfl, rfl, rfl, rfl, rfl⟩,
      fun hr => absurd (hs.symm.trans hr) Bool.false_ne_true⟩

theorem failsWith_failUnder (e : ErrorInfo) (name : String) :
    FailsWith e (c.channelOrNew name) ((failUnder e c name).value.channelOrNew name) := by
  refine failUnder_cases (fun hnone => ?absent) (fun ch hch hs => ?used)
    fun ch hch h1 h2 h3 h4 => ?unused
  case absent =>
    show FailsWith e (c.channelOrNew name) (c.channelOrNew name)
    rw [channelOrNew, hnone]
    exact Channel.failsWith_fresh e
  case used =>
    rw [channelOrNew_of_some hch]
    refine failsWith_failChannel hch ?_ e
    rcases hs with hs | hs | hs | hs <;> rw [hs] <;> rfl
  case unused =>
    have hrest : ch.state.isResting = true := by
      cases hs : ch.state <;> simp_all [Channel.State.isResting]
    rw [channelOrNew_of_some hch, onChannel_of_some hch]
    show FailsWith e ch ((c.setChannel name (ch.failQueue e).value).channelOrNew name)
    rw [channelOrNew_setChannel_self]
    exact ⟨fun hs => absurd (hs.symm.trans hrest) Bool.false_ne_true, fun _ => rfl⟩

theorem isSuspended_suspendChannel {name : String} {ch : Channel}
    (hch : c.channel? name = some ch) (hcan : ch.state.canBecome .suspended = true)
    (e : ErrorInfo) : ((c.suspendChannel name e false).value.channelOrNew name).IsSuspended := by
  rw [suspendChannel_eq, onChannel_of_some hch]
  refine suspendedChannel_cases (fun _ => ?_) fun hno => absurd (hcan.symm.trans hno) nofun
  show ((c.setChannel name _).channelOrNew name).IsSuspended
  rw [channelOrNew_setChannel_self]
  unfold toSuspended
  rw [Logged.value_bind, Channel.become_of_canBecome ch hcan]
  exact Channel.isSuspended_of_state rfl rfl

theorem isSuspended_suspendUnder (e : ErrorInfo) (name : String) :
    ((suspendUnder e c name).value.channelOrNew name).IsSuspended := by
  refine suspendUnder_cases (fun hnone => ?absent) (fun ch hch hs => ?used)
    fun ch hch h1 h2 => ?unused
  case absent =>
    show (c.channelOrNew name).IsSuspended
    rw [channelOrNew, hnone]
    exact Channel.isSuspended_fresh
  case used =>
    refine isSuspended_suspendChannel hch ?_ e
    rcases hs with hs | hs <;> rw [hs] <;> rfl
  case unused =>
    rw [onChannel_of_some hch]
    show ((c.setChannel name (ch.failQueue e).value).channelOrNew name).IsSuspended
    rw [channelOrNew_setChannel_self]
    exact ⟨rfl, h1, h2⟩

/-! ## All channels -/

/-- A client that goes through all its channels leaves each as it would leave that one. -/
theorem forNames_each {f : Client → String → Logged Client} {P : Channel → Channel → Prop}
    (h : c.channels.Ordered) {d : Client} (hd : d.channels = c.channels) (hfresh : P {} {})
    (halone : ∀ b name, b.isConnected = d.isConnected → Alone name b (f b name))
    (hf : ∀ b name, P (b.channelOrNew name) ((f b name).value.channelOrNew name)) (name : String) :
    P (c.channelOrNew name) ((d.forNames c.channels.keys f).value.channelOrNew name) := by
  have hsame : d.channel? name = c.channel? name := channel?_of_channels hd name
  obtain ⟨-, hall⟩ := forNames_visits (Table.keys_nodup h) d fun b name _ _ hup => halone b name hup
  rcases hall name with ⟨hn, hch, -⟩ | ⟨-, b, hb, -, hch, -⟩
  · have hnone : c.channel? name = none := by
      rw [← Option.not_isSome_iff_eq_none]
      intro hsome
      obtain ⟨ch, hch⟩ := Option.isSome_iff_exists.mp hsome
      exact hn (Table.mem_keys_of_get? hch)
    rw [channelOrNew, channelOrNew, hch, hsame, hnone]
    exact hfresh
  · have hone := hf b name
    rwa [channelOrNew, hb, hsame, channelOrNew, ← hch] at hone

theorem forNames_keeps {f : Client → String → Logged Client} {P : Client → Prop}
    (hf : ∀ d name, P d → P (f d name).value) (names : List String) (h : P c) :
    P (c.forNames names f).value := by
  unfold forNames
  induction names generalizing c with
  | nil => exact h
  | cons name rest ih => exact ih (hf c name h)

/-! ## The whole way down -/

/-- What is settled leaves nothing where nothing was. -/
theorem settle_nil {p : Pending} (h : p.entries = []) (test : Unacked → Bool) (reply : Reply) :
    (p.settle test reply).value.entries = [] := by
  show p.entries.filter _ = []
  rw [h]
  rfl

theorem failAll_nil (p : Pending) (e : ErrorInfo) : (p.failAll e).value.entries = [] := by
  simp [Pending.failAll, Pending.settle, Pending.without]

theorem pending_failUnder {name : String} (e : ErrorInfo) (h : c.pending.entries = []) :
    (failUnder e c name).value.pending.entries = [] := by
  refine failUnder_cases (fun _ => h) (fun _ _ _ => ?used) fun _ _ _ _ _ _ => ?unused
  case used =>
    exact failChannel_cases (fun _ => h) fun _ _ _ =>
      settle_nil h (Pending.onChannel name) (.failed (.service e))
  case unused =>
    rw [pending_onChannel]
    exact h

theorem pending_suspendUnder (c : Client) (name : String) (e : ErrorInfo) :
    (suspendUnder e c name).value.pending = c.pending :=
  suspendUnder_cases (fun _ => rfl) (fun _ _ _ => pending_onChannel _ _ _) fun _ _ _ _ =>
    pending_onChannel _ _ _

section Down

variable {f : Client → String → Logged Client} {e : ErrorInfo}

/-- The connection goes down, what awaits an acknowledgement fails, and then the channels have
their part. -/
theorem goDown_visits (next : Connection.State) (reason : Option ErrorInfo)
    (retryIn : Option Duration) (g : Client → Connection) (names : List String) :
    ∃ d : Client, d.channels = c.channels ∧ d.pending.entries = [] ∧
      d.connection = g (c.become next reason retryIn).value ∧ (do
        let c ← c.become next reason retryIn
        let c ← { c with connection := g c }.failPending e
        c.forNames names f : Logged Client).value = (d.forNames names f).value :=
  ⟨({ (c.become next reason retryIn).value with
      connection := g (c.become next reason retryIn).value }.failPending e).value,
    (apart_become next reason retryIn).channels, failAll_nil _ e, rfl, rfl⟩

theorem failConnection_down (h : c.channels.Ordered)
    (hs : c.connection.state.canBecome .failed = true) :
    (c.failConnection e).value.pending.entries = [] ∧ ∀ name,
      FailsWith e (c.channelOrNew name) ((c.failConnection e).value.channelOrNew name) := by
  obtain ⟨d, hd, hp, -, hvisits⟩ := goDown_visits (c := c.dropLink.value) (e := e)
    (f := failUnder e) .failed (some e) none (fun c => c.connection.endSession) c.channels.keys
  have hvalue : (c.failConnection e).value = (d.forNames c.channels.keys (failUnder e)).value :=
    failConnection_cases (fun _ => hvisits) fun hno => absurd (hs.symm.trans hno) nofun
  rw [hvalue]
  refine ⟨forNames_keeps (P := fun b => b.pending.entries = [])
    (fun b name hb => pending_failUnder e hb) _ hp, ?_⟩
  exact forNames_each h hd (Channel.failsWith_fresh e)
    (fun b name _ => (turnOn_failUnder (fun _ => rfl) e).toAlone) fun b name =>
      failsWith_failUnder e name

theorem enterSuspended_down (h : c.channels.Ordered)
    (hs : c.connection.state.canBecome .suspended = true) :
    c.enterSuspended.value.pending.entries = [] ∧ ∀ name,
      (c.enterSuspended.value.channelOrNew name).IsSuspended := by
  let error := Cause.unavailable.info
  let wait := c.options.timing.suspendedRetry
  let rest : Client → Connection := fun d =>
    { d.connection with timer := some (Alarm.after d.clock wait .retry) }
  obtain ⟨d, hd, hp, hk, hvisits⟩ := goDown_visits (c := c) (e := error) (f := suspendUnder error)
    .suspended (some error) (some wait) rest c.channels.keys
  have hvalue :
      c.enterSuspended.value = (d.forNames c.channels.keys (suspendUnder error)).value :=
    enterSuspended_cases (fun _ => hvisits) fun hno => absurd (hs.symm.trans hno) nofun
  have hdown : d.isConnected = false := by
    have hstate : (rest (c.become .suspended (some error) (some wait)).value).state = .suspended :=
      (state_become _ _ _).trans (if_pos hs)
    simp [isConnected, Connection.isConnected, hk, hstate]
  have hpending := pending_forNames (f := suspendUnder error)
    (fun b name => pending_suspendUnder b name error) c.channels.keys d
  rw [hvalue]
  refine ⟨(congrArg Pending.entries hpending).trans hp, fun name => ?_⟩
  exact forNames_each (P := fun _ ch => ch.IsSuspended) h hd Channel.isSuspended_fresh
    (fun b _ hup => (turnOn_suspendUnder (fun _ => rfl) (hup.trans hdown) error).toAlone)
    (fun b other => isSuspended_suspendUnder error other) name

theorem finishClose_down (h : c.channels.Ordered)
    (hs : c.connection.state.canBecome .closed = true) :
    c.finishClose.value.pending.entries = [] ∧ ∀ name,
      (c.finishClose.value.channelOrNew name).IsOver := by
  let error := Cause.connectionClosed.info
  let detach : Client → String → Logged Client := fun d name =>
    d.onChannel name (detachOnClose error)
  obtain ⟨d, hd, hp, -, hvisits⟩ := goDown_visits (c := c.dropLink.value) (e := error) (f := detach)
    .closed none none (fun c => { c.connection.endSession with retryAttempts := 0 }) c.channels.keys
  have hvalue : c.finishClose.value = (d.forNames c.channels.keys detach).value :=
    finishClose_cases (fun _ => hvisits) fun hno => absurd (hs.symm.trans hno) nofun
  have hpending := pending_forNames (f := detach) (fun b name => pending_onChannel b name _)
    c.channels.keys d
  rw [hvalue]
  refine ⟨(congrArg Pending.entries hpending).trans hp, fun name => ?_⟩
  exact forNames_each (P := fun _ ch => ch.IsOver) h hd Channel.isOver_fresh
    (fun b _ _ => (turnOn_detachOnClose (fun _ => rfl) error).toAlone)
    (fun b other => channelOrNew_onChannel other _ Channel.isOver_fresh fun ch =>
      ch.isOver_detachOnClose error) name

/-- Where operations are not kept while the connection is away, none is left in a queue. -/
theorem enterDisconnected_down (h : c.channels.Ordered)
    (hs : c.connection.state.canBecome .disconnected = true)
    (hq : c.options.queueMessages = false) (name : String) :
    ((c.enterDisconnected e).value.channelOrNew name).queue.entries = [] := by
  let fail : Client → String → Logged Client := fun d name =>
    d.onChannel name fun ch => ch.failQueue e
  let x := c.takeWord.2.become .disconnected (some e) (some c.nextWait)
  let d := x.value.setTimer (some (Alarm.after x.value.clock c.nextWait .retry))
  have hchannels : d.channels = c.channels := (apart_become (c := c.takeWord.2) _ _ _).channels
  have hvalue : (c.enterDisconnected e).value = (d.forNames d.channels.keys fail).value :=
    enterDisconnected_cases (fun _ hkept => absurd (hq.symm.trans hkept) nofun) (fun _ _ => rfl)
      fun hno => absurd (hs.symm.trans hno) nofun
  rw [hvalue]
  exact forNames_each (P := fun _ ch => ch.queue.entries = []) (hchannels ▸ h) rfl rfl
    (fun b _ _ => (turnOn_failQueue (fun _ => rfl) e).toAlone)
    (fun b other => channelOrNew_onChannel (P := fun ch => ch.queue.entries = []) other _ rfl
      fun _ => rfl) name

end Down

end Client

end PresenceClient
