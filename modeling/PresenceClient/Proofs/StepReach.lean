-- How far the connection reaches. It may touch every channel that the client has, but it makes
-- no new one, and whatever it does to the link fits the generations. With this, the history of
-- the link is known over every run that has not come to its end.
import PresenceClient.Proofs.ChannelReach
import PresenceClient.Proofs.WaitingLaws

namespace PresenceClient

/-- All that a client has is in the scope. -/
structure Scope.Holds (s : Scope) (c : Client) : Prop where
  covers : ∀ name, (c.channel? name).isSome = true → s.Covers name
  unacked : ∀ channel, s.unacked channel = true

theorem Scope.holds_present (c : Client) : (present c).Holds c :=
  ⟨fun _ h => ⟨h, rfl⟩, fun _ => rfl⟩

/-- Only the channels of the client matter. -/
theorem Scope.Holds.of_channels {s : Scope} {c d : Client} (h : s.Holds c)
    (hch : d.channels = c.channels) : s.Holds d :=
  ⟨fun name hsome => h.covers name (by rwa [← Client.channel?_of_channels hch name]), h.unacked⟩

namespace Client

variable {s : Scope} {c : Client} {r : Logged Client}

/-- What stays within the scope leaves all of the client there. -/
theorem Reaches.holds (h : Reaches s c r) (hs : s.Holds c) : s.Holds r.value := by
  refine ⟨fun name hsome => ⟨?_, hs.unacked _⟩, hs.unacked⟩
  refine Classical.byContradiction fun hn => hn (hs.covers name ?_).named
  rwa [← h.channels name hn]

section Rules

theorem reaches_then {x : Logged Client} {f : Client → Logged Client} (hs : s.Holds c)
    (h1 : Reaches s c x) (h2 : ∀ d, s.Holds d → Reaches s d (f d)) : Reaches s c (x >>= f) :=
  reaches_bind h1 (h2 _ (h1.holds hs))

/-- What awaits an acknowledgement may change at will. -/
theorem reaches_anew {connection : Connection} {pending : Pending} (hs : s.Holds c)
    (hg : connection.generation = c.connection.generation) (h : Reaches s
      { c with connection := connection, pending := pending } r) : Reaches s c r := by
  refine ⟨h.channels, h.pending.trans ?_, hg ▸ h.links⟩
  simp [Pending.without, Scope.owns, hs.unacked]

theorem reaches_forNames {f : Client → String → Logged Client} (hs : s.Holds c)
    (hf : ∀ d name, s.Holds d → Reaches s d (f d name)) (names : List String) :
    Reaches s c (c.forNames names f) := by
  unfold forNames
  induction names generalizing c with
  | nil => exact reaches_pure
  | cons name rest ih => exact reaches_then hs (hf c name hs) fun d hd => ih hd

theorem reaches_settleAny (hs : s.Holds c) (test : Unacked → Bool) (reply : Reply) :
    Reaches s c (do
      let pending ← c.pending.settle test reply
      pure { c with pending := pending }) := reaches_settle fun _ _ => hs.unacked _

end Rules

/-! ## Small steps of the connection -/

theorem reaches_dropLink : Reaches s c c.dropLink := ⟨fun _ _ => rfl, rfl, .dropped .rest⟩

theorem generation_resetIdleTimer :
    c.resetIdleTimer.connection.generation = c.connection.generation :=
  resetIdleTimer_cases (fun _ => rfl) fun _ => rfl

theorem reaches_resetIdleTimer (h : Reaches s c.resetIdleTimer r) : Reaches s c r :=
  reaches_from c.resetIdleTimer c.resetIdleTimer_same.1 c.resetIdleTimer_same.2.1
    generation_resetIdleTimer h

/-! ## Going down -/

/-- The connection goes to a state, all that was sent is settled, and the channels follow. -/
theorem reaches_goDown {f : Client → String → Logged Client} (hs : s.Holds c)
    (next : Connection.State) (reason : Option ErrorInfo) (retryIn : Option Duration)
    {g : Client → Connection} (hg : ∀ d, (g d).generation = d.connection.generation)
    (e : ErrorInfo) (hf : ∀ d name, s.Holds d → Reaches s d (f d name)) (names : List String) :
    Reaches s c (do
      let c ← c.become next reason retryIn
      let c ← { c with connection := g c }.failPending e
      c.forNames names f) := by
  refine reaches_then hs (reaches_become next reason retryIn) fun d hd => ?_
  have hd' : s.Holds { d with connection := g d } := hd.of_channels rfl
  refine reaches_from { d with connection := g d } rfl rfl (hg d) ?_
  exact reaches_then hd' (reaches_settleAny hd' _ _) fun b hb => reaches_forNames hb hf names

theorem reaches_enterSuspended (hs : s.Holds c) : Reaches s c c.enterSuspended :=
  enterSuspended_cases
    (fun _ => reaches_goDown hs _ _ _ (g := fun d => (d.setTimer (some (Alarm.after d.clock
      c.options.timing.suspendedRetry .retry))).connection) (fun _ => rfl) _
      (fun _ name hd => reaches_suspendUnder (hd.covers name) _) _)
    fun _ => reaches_pure

theorem reaches_failConnection (hs : s.Holds c) (e : ErrorInfo) :
    Reaches s c (c.failConnection e) :=
  failConnection_cases
    (fun _ => reaches_then hs reaches_dropLink fun _ hd => reaches_goDown hd _ _ _
      (g := fun d => d.connection.endSession) (fun _ => rfl) _
      (fun _ name hd => reaches_failUnder (hd.covers name) e) _)
    fun _ => reaches_dropLink

theorem reaches_finishClose (hs : s.Holds c) : Reaches s c c.finishClose :=
  finishClose_cases
    (fun _ => reaches_then hs reaches_dropLink fun _ hd => reaches_goDown hd _ _ _
      (g := fun d => { d.connection.endSession with retryAttempts := 0 }) (fun _ => rfl) _
      (fun _ name hd => reaches_onChannel (hd.covers name) fun ch => ch.relinked_detachOnClose _) _)
    fun _ => reaches_dropLink

theorem reaches_close (hs : s.Holds c) : Reaches s c c.close :=
  close_cases (fun _ => reaches_pure)
    (fun _ => reaches_bind (reaches_become _ _ _) (reaches_quiet rfl (reaches_same rfl rfl rfl)))
    fun _ _ _ => reaches_finishClose hs

theorem reaches_enterDisconnected (hs : s.Holds c) (e : ErrorInfo) :
    Reaches s c (c.enterDisconnected e) := by
  refine reaches_from c.takeWord.2 rfl rfl rfl ?_
  have hs' : s.Holds c.takeWord.2 := hs.of_channels rfl
  refine enterDisconnected_cases (fun _ _ => ?keeps) (fun _ _ => ?drops) fun _ => reaches_pure
  all_goals refine reaches_then hs' (reaches_become _ _ _) fun d hd => ?_
  case keeps => exact reaches_same rfl rfl rfl
  case drops =>
    have hd' : s.Holds (d.setTimer (some (Alarm.after d.clock c.nextWait .retry))) :=
      hd.of_channels rfl
    refine reaches_from (d.setTimer (some (Alarm.after d.clock c.nextWait .retry))) rfl rfl rfl
      (reaches_forNames hd' (fun _ name hb => ?_) _)
    exact reaches_onChannel (hb.covers name) fun ch => ch.relinked_failQueue e

theorem reaches_loseLink (hs : s.Holds c) : Reaches s c c.loseLink :=
  reaches_then hs reaches_dropLink fun _ _ => reaches_same rfl rfl rfl

theorem reaches_handleLoss (hs : s.Holds c) (e : ErrorInfo) : Reaches s c (c.handleLoss e) :=
  handleLoss_cases
    (fun _ => reaches_then hs (reaches_loseLink hs) fun _ hd => reaches_enterSuspended hd)
    fun _ => reaches_then hs (reaches_loseLink hs) fun _ hd => reaches_enterDisconnected hd e

theorem reaches_onDisconnected (hs : s.Holds c) (e : Option ErrorInfo) :
    Reaches s c (c.onDisconnected e) :=
  onDisconnected_cases (fun _ _ => reaches_handleLoss hs _)
    fun _ _ _ => reaches_failConnection hs _

theorem reaches_onLinkEnded (hs : s.Holds c) (e : Option ErrorInfo) :
    Reaches s c (c.onLinkEnded e) :=
  onLinkEnded_cases (fun _ _ => reaches_handleLoss hs _) (fun _ => reaches_finishClose hs)
    fun _ _ _ => reaches_pure

theorem reaches_onConnectionTimer (hs : s.Holds c) (kind : Connection.Timer) :
    Reaches s c (c.onConnectionTimer kind) := by
  have hs' : s.Holds (c.setTimer none) := hs.of_channels rfl
  exact reaches_from (c.setTimer none) rfl rfl rfl
    (onConnectionTimer_cases (fun _ _ => reaches_handleLoss hs' _)
      (fun _ => reaches_startConnecting) fun _ => reaches_finishClose hs')

theorem reaches_fireConnectionTimer (hs : s.Holds c) (now : Instant) :
    Reaches s c (c.fireConnectionTimer now) :=
  fireConnectionTimer_cases (fun _ _ _ => reaches_onConnectionTimer hs _) fun _ => reaches_pure

theorem reaches_fireTimers (hs : s.Holds c) (now : Instant) : Reaches s c (c.fireTimers now) :=
  reaches_then hs (reaches_fireConnectionTimer hs now) fun _ hd =>
    reaches_forNames hd (fun _ name hb => reaches_onChannelTimer (hb.covers name)) _

/-! ## Coming up -/

theorem reaches_resend (hs : s.Holds c) (resumed : Bool) (e : Unacked) :
    Reaches s c (resend resumed c e) := by
  have hg : (if resumed then c.connection else c.connection.takeSerial).generation =
      c.connection.generation := by cases resumed <;> rfl
  exact reaches_quiet rfl (reaches_anew hs hg reaches_pure)

theorem reaches_resendPending (hs : s.Holds c) (resumed : Bool) :
    Reaches s c (c.resendPending resumed) := by
  have hall : ∀ (es : List Unacked) (d : Client), s.Holds d →
      Reaches s d (es.foldlM (resend resumed) d) := by
    intro es
    induction es with
    | nil => exact fun d _ => reaches_pure
    | cons e rest ih => exact fun d hd => reaches_then hd (reaches_resend hd resumed e) ih
  exact reaches_anew hs rfl (hall c.pending.entries _ (hs.of_channels rfl))

theorem reaches_linkUp (hs : s.Holds c) (resumed : Bool) : Reaches s c (c.linkUp resumed) := by
  have hup : ∀ (b : Bool) (d : Client), s.Holds d → Reaches s d (do
      let d ← d.resendPending b
      d.forNames d.channels.keys (onLinkUp b)) := fun b d hd =>
    reaches_then hd (reaches_resendPending hd b) fun d hd => reaches_forNames hd
      (fun d name hd => reaches_onLinkUp b (hd.covers name) fun q _ => hd.unacked _) _
  exact linkUp_cases (fun _ => hup true c hs) fun _ =>
    reaches_from c.renumbered rfl rfl rfl (hup false _ (hs.of_channels rfl))

theorem reaches_onConnected (hs : s.Holds c) (m : Message) : Reaches s c (c.onConnected m) := by
  have hgreeted : Reaches s c ((c.greeted m).become .connected m.error none) :=
    reaches_from (c.greeted m) rfl rfl rfl (reaches_become _ _ _)
  refine onConnected_cases (fun _ => ?live) (fun _ => ?comesUp) fun _ _ => reaches_pure
  all_goals refine reaches_then hs hgreeted fun d hd => reaches_resetIdleTimer ?_
  case live => exact reaches_pure
  case comesUp => exact reaches_linkUp (hd.of_channels (resetIdleTimer_same d).1) _

/-! ## Messages -/

/-- A message for a channel reaches as far as the channel that it names. -/
theorem reaches_addressed {m : Message} {f : Logged Client} (hs : s.Holds c)
    (hnone : m.channel = none → f = pure c)
    (hsome : ∀ name, m.channel = some name →
      ((c.channel? name).isSome = true → s.Covers name) → Reaches s c f) : Reaches s c f := by
  cases hm : m.channel with
  | none =>
    rw [hnone hm]
    exact reaches_pure
  | some name => exact hsome name hm (hs.covers name)

theorem reaches_onError (hs : s.Holds c) (m : Message) : Reaches s c (c.onError m) :=
  onError_cases (fun name _ => reaches_failChannel (hs.covers name) _)
    fun _ => reaches_failConnection hs _

theorem reaches_onMessage (hs : s.Holds c) (m : Message) : Reaches s c (c.onMessage m) := by
  have hd : s.Holds c.resetIdleTimer := hs.of_channels (resetIdleTimer_same c).1
  apply reaches_resetIdleTimer
  exact onMessage_cases (fun _ => reaches_onConnected hd m)
    (fun _ => reaches_onDisconnected hd m.error) (fun _ => reaches_finishClose hd)
    (fun _ => reaches_onError hd m) (fun _ => reaches_settleAny hd _ _)
    (fun _ => reaches_settleAny hd _ _)
    (fun _ => reaches_addressed hd onAttached_of_none fun name hm hcovers =>
      reaches_onAttached hm hcovers fun q _ => hd.unacked _)
    (fun _ => reaches_addressed hd onDetached_of_none fun name hm hcovers =>
      reaches_onDetached hm hcovers)
    (fun _ => reaches_addressed hd onSync_of_none fun name hm hcovers => reaches_onSync hm hcovers)
    (fun _ => reaches_addressed hd onPresence_of_none fun name hm hcovers =>
      reaches_onPresence hm hcovers)
    fun _ => reaches_pure

theorem reaches_onLinkEvent (hs : s.Holds c) (generation : Nat) (event : LinkEvent) :
    Reaches s c (c.onLinkEvent generation event) :=
  onLinkEvent_cases (fun m _ _ => reaches_onMessage hs m)
    (fun error _ _ => reaches_onLinkEnded hs error) fun _ => reaches_pure

/-! ## Steps -/

/-- Whatever a step does to the link fits the generations, until the client comes to its end. -/
theorem relinks_step {i : Input} (hi : i ≠ .shutdown) :
    Relinks c.connection.generation (relinked (c.step i).log)
      (c.step i).value.connection.generation := by
  have hs := Scope.holds_present c
  cases i with
  | command ticket asked =>
    cases asked with
    | connect => exact (reaches_connect (s := .present c)).links
    | close => exact (reaches_close hs).links
    | channel name command =>
      exact (reaches_channelCommand (Scope.covers_ofChannel name) ticket command).links
    | _ => exact .rest
  | link generation event => exact (reaches_onLinkEvent hs generation event).links
  | clock now => exact .rest
  | timers => exact (reaches_fireTimers hs c.clock).links
  | dropListener id => exact .rest
  | shutdown => exact absurd rfl hi

/-- The history of the link fits the generations over every run that has not come to its end. -/
theorem relinks_run (c : Client) {inputs : List Input} (h : .shutdown ∉ inputs) :
    Relinks c.connection.generation (relinked (c.run inputs).log)
      (c.run inputs).value.connection.generation := by
  induction inputs generalizing c with
  | nil => exact .rest
  | cons i rest ih =>
    rw [run_cons, Logged.log_bind, relinked_append]
    refine relinks_append (relinks_step fun hi => h (hi ▸ List.mem_cons_self)) ?_
    exact ih _ fun hmem => h (List.mem_cons_of_mem i hmem)

end Client

end PresenceClient
