-- What the alarms of a client go through when one of them goes off. That one is taken away and
-- may be set anew, to a wait. No other alarm is set, and the timer of a channel does not even
-- touch another one.
import PresenceClient.Proofs.ChannelReach
import PresenceClient.Proofs.ConnectionFrames

namespace PresenceClient

open Logged (tell)

/-! ## Alarms -/

/-- Who waits for a time. -/
inductive Waker where
  | connection
  | channel (name : String)
deriving DecidableEq

/-- What can be waited for. -/
def Waker.Kind : Waker → Type
  | connection => Connection.Timer
  | channel _ => Channel.Timer

namespace Client

/-- The alarm that is set. -/
def alarm? (c : Client) : (w : Waker) → Option (Alarm w.Kind)
  | .connection => c.connection.timer
  | .channel name => (c.channel? name).bind (·.timer)

/-- The alarm goes off, whether its time has come or not. -/
def fire (c : Client) : Waker → Logged Client
  | .connection => match c.connection.timer with
    | some alarm => c.onConnectionTimer alarm.kind
    | none => pure c
  | .channel name => c.onChannelTimer name

/-- To which waits an alarm may be set anew once it has gone off. -/
def waits (c : Client) : Waker → List Duration
  | .connection =>
    [c.options.timing.connectTimeout, c.options.timing.suspendedRetry,
      Backoff.delay c.options.timing.disconnectedRetry (c.connection.retryAttempts + 1)
        c.takeWord.1]
  | .channel _ => [c.options.timing.requestTimeout, c.options.timing.channelRetry]

/-! ## What is set anew -/

/-- No alarm is set but the one that is named, and that to one of some waits. -/
structure Winds (w : Waker) (waits : List Duration) (c : Client) (r : Logged Client) : Prop where
  options : r.value.options = c.options
  clock : r.value.clock = c.clock
  alarms : ∀ v (a : Alarm v.Kind), r.value.alarm? v = some a →
    c.alarm? v = some a ∨ v = w ∧ ∃ wait ∈ waits, a.due = c.clock + wait

section Rules

variable {c d : Client} {r : Logged Client} {name : String} {ch : Channel} {w v : Waker}
  {waits : List Duration}

theorem alarm?_congr (h : d.channel? name = c.channel? name) :
    d.alarm? (.channel name) = c.alarm? (.channel name) := by
  simp only [alarm?, h]

theorem alarm?_of_channels (hch : d.channels = c.channels)
    (ht : d.connection.timer = c.connection.timer) (v : Waker) : d.alarm? v = c.alarm? v := by
  cases v with
  | connection => exact ht
  | channel name => exact alarm?_congr (channel?_of_channels hch name)

theorem alarm?_of_some (h : c.channel? name = some ch) :
    c.alarm? (.channel name) = ch.timer := by
  rw [alarm?, h]
  rfl

theorem alarm?_setChannel_self : (c.setChannel name ch).alarm? (.channel name) = ch.timer :=
  alarm?_of_some (channel?_setChannel_self c name ch)

theorem alarm?_setChannel_ne (h : v ≠ .channel name) :
    (c.setChannel name ch).alarm? v = c.alarm? v := by
  cases v with
  | connection => rfl
  | channel other =>
    exact alarm?_congr (channel?_setChannel_ne c name ch fun he => h (he ▸ rfl))

theorem winds_same (ho : r.value.options = c.options) (hc : r.value.clock = c.clock)
    (hch : r.value.channels = c.channels)
    (ht : r.value.connection.timer = c.connection.timer) : Winds w waits c r :=
  ⟨ho, hc, fun v _ ha => .inl ((alarm?_of_channels hch ht v).symm.trans ha)⟩

/-- The connection's alarm may be taken away. -/
theorem winds_disarmed (ho : d.options = c.options) (hc : d.clock = c.clock)
    (hch : d.channels = c.channels) (ht : d.connection.timer = none) :
    Winds w waits c (pure d) := by
  refine ⟨ho, hc, fun v a ha => ?_⟩
  cases v with
  | connection => cases ht.symm.trans ha
  | channel name => exact .inl ((alarm?_congr (channel?_of_channels hch name)).symm.trans ha)

theorem winds_pure : Winds w waits c (pure c) := winds_same rfl rfl rfl rfl

/-- What comes later starts from the alarms that it finds. -/
theorem winds_from (h2 : Winds w waits d r) (h1 : Winds w waits c (pure d)) :
    Winds w waits c r := by
  refine ⟨h2.options.trans h1.options, h2.clock.trans h1.clock, fun v a ha => ?_⟩
  rcases h2.alarms v a ha with hd | ⟨hv, wait, hwait, hdue⟩
  · exact h1.alarms v a hd
  · exact .inr ⟨hv, wait, hwait, hdue.trans (congrArg (· + wait) h1.clock)⟩

/-- No effect sets an alarm. -/
theorem winds_quiet {α : Type} {x : Logged α} {f : α → Logged Client}
    (h : Winds w waits c (f x.value)) : Winds w waits c (x >>= f) := ⟨h.options, h.clock, h.alarms⟩

theorem winds_bind {x : Logged Client} {f : Client → Logged Client} (h1 : Winds w waits c x)
    (h2 : Winds w waits x.value (f x.value)) : Winds w waits c (x >>= f) :=
  winds_quiet (winds_from h2 ⟨h1.options, h1.clock, h1.alarms⟩)

theorem winds_foldlM {α : Type} {f : Client → α → Logged Client}
    (hf : ∀ d x, Winds w waits d (f d x)) (xs : List α) : Winds w waits c (xs.foldlM f c) := by
  induction xs generalizing c with
  | nil => exact winds_pure
  | cons x rest ih => exact winds_bind (hf c x) ih

/-- A channel keeps its alarm or loses it, or it is the one whose alarm may be set. -/
theorem winds_put (h : ∀ a, ch.timer = some a → c.alarm? (.channel name) = some a ∨
      Waker.channel name = w ∧ ∃ wait ∈ waits, a.due = c.clock + wait) :
    Winds w waits c (pure (c.setChannel name ch)) := by
  refine ⟨rfl, rfl, fun v a ha => ?_⟩
  by_cases hv : v = .channel name
  · subst hv
    exact h a (alarm?_setChannel_self.symm.trans ha)
  · exact .inl ((alarm?_setChannel_ne hv).symm.trans ha)

theorem winds_onChannel {f : Channel → Logged Channel}
    (hf : ∀ ch a, (f ch).value.timer = some a → ch.timer = some a ∨
      Waker.channel name = w ∧ ∃ wait ∈ waits, a.due = c.clock + wait) :
    Winds w waits c (c.onChannel name f) :=
  onChannel_cases (fun _ => winds_pure) fun ch hch => winds_quiet (winds_put fun a ha =>
    (hf ch a ha).imp_left fun ht => (alarm?_of_some hch).trans ht)

/-- The connection's alarm is set to a wait. -/
theorem winds_setTimer {wait : Duration} (hwait : wait ∈ waits) (kind : Connection.Timer) :
    Winds .connection waits c (pure (c.setTimer (some (Alarm.after c.clock wait kind)))) := by
  refine ⟨rfl, rfl, fun v a ha => ?_⟩
  cases v with
  | connection =>
    cases ha
    exact .inr ⟨rfl, wait, hwait, rfl⟩
  | channel name => exact .inl ha

end Rules

/-! ## The channels -/

section Channels

variable {c : Client} {name : String} {ch : Channel} {w : Waker} {waits : List Duration}

theorem timer_become (ch : Channel) (next : Channel.State) (reason : Option ErrorInfo)
    (resumed : Bool) :
    (ch.become next reason resumed).value.timer = ch.timer :=
  Channel.become_cases (fun _ => rfl) fun _ => rfl

theorem winds_failQueue (e : ErrorInfo) :
    Winds w waits c (c.onChannel name fun ch => ch.failQueue e) :=
  winds_onChannel fun _ _ => .inl

theorem winds_suspendChannel (e : ErrorInfo) (retry : Bool)
    (hretry : retry = true →
      Waker.channel name = w ∧ c.options.timing.channelRetry ∈ waits) :
    Winds w waits c (c.suspendChannel name e retry) := by
  rw [suspendChannel_eq]
  refine winds_onChannel fun ch a => ?_
  refine suspendedChannel_cases (fun _ ha => ?suspends) fun _ => .inl
  have ht : c.retryAlarm retry = some a := ha
  cases retry with
  | true =>
    obtain ⟨hw, hwait⟩ := hretry rfl
    cases ht
    exact .inr ⟨hw, _, hwait, rfl⟩
  | false => cases ht

theorem winds_suspendUnder (e : ErrorInfo) : Winds w waits c (suspendUnder e c name) :=
  suspendUnder_cases (fun _ => winds_pure) (fun _ _ _ => winds_suspendChannel e false nofun)
    fun _ _ _ _ => winds_failQueue e

theorem winds_detachOnClose (e : ErrorInfo) :
    Winds w waits c (c.onChannel name (detachOnClose e)) := by
  refine winds_onChannel fun ch a => ?_
  refine detachOnClose_cases (fun _ ha => ?used) fun _ => .inl
  have hdetached : (ch.enterDetached none e).value.timer = none :=
    timer_become { ch with timer := none } .detached none false
  cases hdetached.symm.trans ha

/-- The alarm of the channel is taken away and set to the time of an answer. -/
theorem winds_sendAttach (hwait : c.options.timing.requestTimeout ∈ waits) :
    Winds (.channel name) waits c (c.sendAttach name) := by
  refine sendAttach_cases (fun _ => winds_pure) fun ch _ => ?_
  refine winds_quiet (winds_put fun a ha => .inr ⟨rfl, _, hwait, ?_⟩)
  cases ha
  rfl

/-- On a live link a suspended channel asks for an attach, and is not refused. -/
theorem winds_attachChannel (hup : c.isConnected = true) (hch : c.channel? name = some ch)
    (hs : ch.state = .suspended) (hwait : c.options.timing.requestTimeout ∈ waits) :
    Winds (.channel name) waits c (c.attachChannel name []) := by
  have hstate : c.connection.state = .connected := isConnected_iff.mp hup
  have hnew : c.channelOrNew name = ch := channelOrNew_of_some hch
  have hrefusal : c.attachRefusal = none := by rw [attachRefusal, hstate]
  have hset : ∀ {d : Client} {ch' : Channel}, d.channel? name = some ch → ch'.timer = ch.timer →
      Winds (.channel name) waits d (pure (d.setChannel name ch')) := fun hd ht =>
    winds_put fun a ha => .inl ((alarm?_of_some hd).trans (ht.symm.trans ha))
  refine attachChannel_cases (fun h => ?done) (fun h => ?joins) (fun _ h => ?refused)
    fun _ _ _ => ?begins
  case done => cases hs.symm.trans (hnew ▸ h)
  case joins => cases hs.symm.trans (hnew ▸ h)
  case refused => cases hrefusal.symm.trans h
  case begins =>
    refine winds_from (d := c.ensureChannel name) ?_ (hset hch (congrArg Channel.timer hnew))
    rw [hnew]
    have hch' : (c.ensureChannel name).channel? name = some ch :=
      (channel?_ensureChannel c name).trans (congrArg some hnew)
    have ht : (toAttaching [] ch).value.timer = ch.timer := timer_become _ _ _ _
    refine beginAttach_cases (fun _ => ?live) (fun h => ?first) fun h _ => absurd hstate h
    case live => exact winds_quiet (winds_from (winds_sendAttach hwait) (hset hch' ht))
    case first => cases hstate.symm.trans h

theorem winds_detachTimedOut : Winds w waits c (c.onChannel name detachTimedOut) :=
  winds_onChannel fun _ _ ha => .inl ((timer_become _ .attached _ false).symm.trans ha)

/-! ## What goes off -/

/-- The channel's alarm is taken away first. -/
theorem winds_onChannelTimer (hch : c.channel? name = some ch) (ht : ch.timer.isSome = true) :
    Winds (.channel name) (c.waits (.channel name)) (c.setChannel name { ch with timer := none })
      (c.onChannelTimer name) := by
  obtain ⟨alarm, ht⟩ := Option.isSome_iff_exists.mp ht
  refine onChannelTimer_cases (fun hunset => ?unset) (fun ch' _ hch' _ _ => ?attach)
    (fun ch' _ hch' _ _ _ => ?detach) (fun ch' _ hch' _ _ hs hup => ?reattach)
    fun ch' _ hch' _ _ => ?gone
  case unset => cases ht.symm.trans (hunset ch hch)
  all_goals cases hch.symm.trans hch'
  case attach =>
    exact winds_suspendChannel _ true fun _ => ⟨rfl, by simp [Client.waits, setChannel]⟩
  case detach => exact winds_detachTimedOut
  case reattach =>
    exact winds_attachChannel hup (channel?_setChannel_self c name _) hs
      (by simp [Client.waits, setChannel])
  case gone => exact winds_pure

end Channels

/-! ## The connection -/

section Connection

variable {c : Client} {waits : List Duration} {w : Waker}

theorem winds_become (next : Connection.State) (reason : Option ErrorInfo)
    (retryIn : Option Duration) : Winds w waits c (c.become next reason retryIn) :=
  become_cases (fun _ => winds_quiet (winds_same rfl rfl rfl rfl)) fun _ => winds_pure

theorem winds_dropLink : Winds w waits c c.dropLink := winds_same rfl rfl rfl rfl

theorem winds_startConnecting (hwait : c.options.timing.connectTimeout ∈ waits) :
    Winds .connection waits c c.startConnecting := by
  refine startConnecting_cases (fun _ => ?opens) fun _ => winds_pure
  have hbecome : Winds .connection waits c (c.become .connecting none none) := winds_become _ _ _
  refine winds_bind hbecome (winds_bind winds_dropLink (winds_quiet (winds_setTimer ?_ _)))
  change (c.become .connecting none none).value.options.timing.connectTimeout ∈ waits
  rwa [hbecome.options]

theorem winds_failPending (e : ErrorInfo) : Winds w waits c (c.failPending e) :=
  winds_same rfl rfl rfl rfl

theorem winds_enterSuspended (hwait : c.options.timing.suspendedRetry ∈ waits) :
    Winds .connection waits c c.enterSuspended := by
  refine enterSuspended_cases (fun _ => ?suspends) fun _ => winds_pure
  have hbecome : Winds .connection waits c (c.become .suspended (some Cause.unavailable.info)
      (some c.options.timing.suspendedRetry)) := winds_become _ _ _
  exact winds_bind hbecome (winds_bind (winds_from (winds_failPending _) (winds_setTimer hwait _))
    (winds_foldlM (fun _ _ => winds_suspendUnder _) _))

theorem winds_enterDisconnected (e : ErrorInfo) (hwait : c.nextWait ∈ waits) :
    Winds .connection waits c (c.enterDisconnected e) := by
  refine winds_from (d := c.takeWord.2) ?_ (winds_same rfl rfl rfl rfl)
  refine enterDisconnected_cases (fun _ _ => ?keeps) (fun _ _ => ?drops) fun _ => winds_pure
  all_goals refine winds_bind (winds_become _ _ _) ?_
  case keeps => exact winds_setTimer hwait _
  case drops =>
    exact winds_from (winds_foldlM (fun _ _ => winds_failQueue e) _) (winds_setTimer hwait _)

theorem winds_loseLink : Winds w waits c c.loseLink :=
  winds_bind winds_dropLink (winds_same rfl rfl rfl rfl)

theorem winds_handleLoss (e : ErrorInfo) (hsuspended : c.options.timing.suspendedRetry ∈ waits)
    (hdelay : Backoff.delay c.options.timing.disconnectedRetry (c.connection.retryAttempts + 1)
      c.takeWord.1 ∈ waits) : Winds .connection waits c (c.handleLoss e) :=
  handleLoss_cases (fun _ => winds_bind winds_loseLink (winds_enterSuspended hsuspended))
    fun _ => winds_bind winds_loseLink (winds_enterDisconnected e hdelay)

theorem winds_finishClose : Winds .connection waits c c.finishClose :=
  finishClose_cases
    (fun _ => winds_bind winds_dropLink (winds_bind (winds_become _ _ _) (winds_bind
      (winds_from (winds_failPending _) (winds_disarmed rfl rfl rfl rfl))
      (winds_foldlM (fun _ _ => winds_detachOnClose _) _))))
    fun _ => winds_dropLink

/-- The connection's alarm is taken away first. -/
theorem winds_onConnectionTimer (kind : Connection.Timer) :
    Winds .connection (c.waits .connection) (c.setTimer none) (c.onConnectionTimer kind) := by
  have hloss : ∀ e, Winds .connection (c.waits .connection) (c.setTimer none)
      ((c.setTimer none).handleLoss e) := fun e =>
    winds_handleLoss e (by simp [Client.waits, setTimer])
      (by simp [Client.waits, setTimer, takeWord])
  exact onConnectionTimer_cases (fun _ _ => hloss _)
    (fun _ => winds_startConnecting (by simp [Client.waits, setTimer])) fun _ => winds_finishClose

end Connection

end Client

end PresenceClient
