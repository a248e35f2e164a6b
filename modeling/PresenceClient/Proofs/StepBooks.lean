-- The books of the connection, and of a step as a whole: a step answers or parks what it is
-- handed, and loses nothing of what was parked before.
import PresenceClient.Proofs.ChannelBooks

namespace PresenceClient.Client

open Logged (tell)

variable {c : Client} (name : String)

/-! ## The connection -/

/-- What is sent again waits as before. -/
theorem balances_resend (resumed : Bool) (es : List Unacked) (h : c.channels.Ordered) :
    Balances (es.flatMap fun e => e.responder.tickets) c (es.foldlM (resend resumed) c) := by
  induction es generalizing c with
  | nil => exact balances_pure h
  | cons e rest ih =>
    refine balances_bind ⟨h, fun t => ?_⟩ ih
    simp only [resend, Logged.log_bind, Logged.log_tell, Logged.log_pure, Logged.value_bind,
      Logged.value_pure, load, pendingTickets, Pending.push, List.flatMap_append,
      List.flatMap_singleton, List.count_append]
    have hsent : ∀ m, answered [Effect.send m (.again e.responder)] = [] := fun _ => rfl
    simp only [hsent, List.append_nil, List.count_nil]
    omega

theorem balances_resendPending (resumed : Bool) (h : c.channels.Ordered) :
    Balances [] c (c.resendPending resumed) := by
  have hs : Balances (pendingTickets c.pending) { c with pending := {} }
      (c.resendPending resumed) := balances_resend resumed c.pending.entries h
  refine ⟨hs.ordered, fun t => ?_⟩
  have hcount := hs.count t
  have hnone : pendingTickets {} = [] := rfl
  simp only [load, hnone, List.count_nil] at hcount ⊢
  omega

theorem balances_linkUp (resumed : Bool) (h : c.channels.Ordered) :
    Balances [] c (c.linkUp resumed) := by
  have hrest : ∀ (b : Bool) (d : Client), d.channels.Ordered → Balances [] d (do
      let c ← d.resendPending b
      c.forNames c.channels.keys (onLinkUp b)) := fun b d ho =>
    balances_then (balances_resendPending b ho) fun c' =>
      balances_forNames (fun c name => balances_onLinkUp name b) c'.channels.keys
  exact linkUp_cases (fun _ => hrest true c h) fun _ =>
    balances_from c.renumbered rfl rfl h (hrest false _)

theorem balances_resetIdleTimer {a : List Ticket} {r : Logged Client} (h : c.channels.Ordered)
    (hr : c.resetIdleTimer.channels.Ordered → Balances a c.resetIdleTimer r) : Balances a c r :=
  balances_from c.resetIdleTimer c.resetIdleTimer_same.1 c.resetIdleTimer_same.2.1 h hr

theorem balances_onConnected (h : c.channels.Ordered) (m : Message) :
    Balances [] c (c.onConnected m) := by
  refine onConnected_cases (fun _ => ?live) (fun _ => ?comesUp) fun _ _ => balances_pure h
  all_goals
    refine balances_from (c.greeted m) rfl rfl h fun ho => ?_
    refine balances_then (balances_become ho _ _ _) fun c1 h1 => ?_
  case live => exact balances_resetIdleTimer h1 balances_pure
  case comesUp => exact balances_resetIdleTimer h1 fun ho => balances_linkUp _ ho

theorem balances_failQueue (h : c.channels.Ordered) (e : ErrorInfo) :
    Balances [] c (c.onChannel name fun ch => ch.failQueue e) := by
  apply balances_onChannel h
  intro t
  simp only [Channel.failQueue_spec, Channel.Core.count_parked, queueTickets_nil, List.count_nil]
  omega

/-- The connection goes to a state in which nothing is acknowledged, and the channels follow. -/
theorem balances_goDown {f : Client → String → Logged Client} (h : c.channels.Ordered)
    (next : Connection.State) (reason : Option ErrorInfo) (retryIn : Option Duration)
    (g : Client → Connection) (e : ErrorInfo) (names : List String)
    (hf : ∀ c name, c.channels.Ordered → Balances [] c (f c name)) :
    Balances [] c (do
      let c ← c.become next reason retryIn
      let c ← { c with connection := g c }.failPending e
      c.forNames names f) := by
  apply balances_then (balances_become h next reason retryIn)
  intro c1 h1
  refine balances_from { c1 with connection := g c1 } rfl rfl h1 fun ho => ?_
  exact balances_then (balances_failPending ho e) fun c2 => balances_forNames hf names

theorem balances_suspendUnder (h : c.channels.Ordered) (e : ErrorInfo) :
    Balances [] c (suspendUnder e c name) :=
  suspendUnder_cases (fun _ => balances_pure h) (fun _ _ _ => balances_suspendChannel name h _ _)
    fun _ _ _ _ => balances_failQueue name h _

theorem balances_enterSuspended (h : c.channels.Ordered) : Balances [] c c.enterSuspended :=
  enterSuspended_cases
    (fun _ => balances_goDown h _ _ _ _ _ _ fun _ name ho => balances_suspendUnder name ho _)
    fun _ => balances_pure h

theorem balances_failUnder (h : c.channels.Ordered) (e : ErrorInfo) :
    Balances [] c (failUnder e c name) :=
  failUnder_cases (fun _ => balances_pure h) (fun _ _ _ => balances_failChannel name h _)
    fun _ _ _ _ _ _ => balances_failQueue name h _

theorem balances_failConnection (h : c.channels.Ordered) (e : ErrorInfo) :
    Balances [] c (c.failConnection e) :=
  failConnection_cases
    (fun _ => balances_then (balances_dropLink h) fun _ h1 =>
      balances_goDown h1 _ _ _ _ _ _ fun _ name ho => balances_failUnder name ho e)
    fun _ => balances_dropLink h

theorem balances_failWaiters (h : c.channels.Ordered) (e : ErrorInfo) :
    Balances [] c (c.onChannel name fun ch => ch.failWaiters e) := by
  apply balances_onChannel h
  intro t
  simp only [Channel.failWaiters_spec, Channel.Core.parked_cleared, List.count_nil, Nat.add_zero]

theorem balances_detachOnClose (h : c.channels.Ordered) (e : ErrorInfo) :
    Balances [] c (c.onChannel name (detachOnClose e)) := by
  refine balances_onChannel h fun t => ?_
  refine detachOnClose_cases (fun _ => count_enterDetached _ _ _ t) fun _ => ?unused
  simp only [Channel.failWaiters_spec, Channel.Core.parked_cleared, List.count_nil, Nat.add_zero]

theorem balances_finishClose (h : c.channels.Ordered) : Balances [] c c.finishClose :=
  finishClose_cases
    (fun _ => balances_then (balances_dropLink h) fun _ h1 =>
      balances_goDown h1 _ _ _ _ _ _ fun _ name ho => balances_detachOnClose name ho _)
    fun _ => balances_dropLink h

theorem balances_close (h : c.channels.Ordered) : Balances [] c c.close :=
  close_cases (fun _ => balances_pure h)
    (fun _ => balances_then (balances_become h _ _ _) fun _ h1 =>
      balances_quiet rfl (balances_same h1 rfl rfl))
    fun _ _ _ => balances_finishClose h

theorem balances_enterDisconnected (h : c.channels.Ordered) (e : ErrorInfo) :
    Balances [] c (c.enterDisconnected e) := by
  refine balances_from c.takeWord.2 rfl rfl h fun ho => ?_
  refine enterDisconnected_cases (fun _ _ => ?keeps) (fun _ _ => ?drops) fun _ => balances_pure ho
  all_goals refine balances_then (balances_become ho _ _ _) fun c1 h1 => ?_
  case keeps => exact balances_same h1 rfl rfl
  case drops =>
    exact balances_setTimer _ h1
      (balances_forNames (fun c name ho => balances_failQueue name ho e) _)

theorem balances_loseLink (h : c.channels.Ordered) : Balances [] c c.loseLink :=
  balances_then (balances_dropLink h) fun _ h1 => balances_same h1 rfl rfl

theorem balances_handleLoss (h : c.channels.Ordered) (e : ErrorInfo) :
    Balances [] c (c.handleLoss e) :=
  handleLoss_cases
    (fun _ => balances_then (balances_loseLink h) fun _ => balances_enterSuspended)
    fun _ => balances_then (balances_loseLink h) fun _ h1 => balances_enterDisconnected h1 e

theorem balances_onDisconnected (h : c.channels.Ordered) (e : Option ErrorInfo) :
    Balances [] c (c.onDisconnected e) :=
  onDisconnected_cases (fun _ _ => balances_handleLoss h _)
    fun _ _ _ => balances_failConnection h _

theorem balances_onLinkEnded (h : c.channels.Ordered) (e : Option ErrorInfo) :
    Balances [] c (c.onLinkEnded e) :=
  onLinkEnded_cases (fun _ _ => balances_handleLoss h _) (fun _ => balances_finishClose h)
    fun _ _ _ => balances_pure h

theorem balances_onConnectionTimer (h : c.channels.Ordered) (kind : Connection.Timer) :
    Balances [] c (c.onConnectionTimer kind) :=
  balances_setTimer none h fun ho =>
    onConnectionTimer_cases (fun _ _ => balances_handleLoss ho _)
      (fun _ => balances_startConnecting ho) fun _ => balances_finishClose ho

/-! ## Steps -/

theorem balances_channelCommand (h : c.channels.Ordered) (ticket : Ticket)
    (command : ChannelCommand) :
    Balances (Input.command ticket (.channel name command)).tickets c
      (c.channelCommand name ticket command) := by
  cases command with
  | attach => exact balances_attachChannel name h [.caller ticket]
  | detach => exact balances_detachChannel name h (.caller ticket)
  | publish action clientId data => exact balances_publish name h action clientId data ticket
  | get query => exact balances_getMembers name h query ticket
  | subscribe action => exact balances_subscribe name h action ticket
  | release => exact balances_releaseChannel name h
  | unsubscribe id => exact balances_listen name h rfl
  | unsubscribeAction action id => exact balances_listen name h rfl
  | unsubscribeAll => exact balances_listen name h rfl
  | offState id => exact balances_listen name h rfl
  | onState filter => exact balances_register name h ticket _ rfl
  | _ => exact balances_answer ticket _ (balances_listen name h rfl)

theorem balances_command (h : c.channels.Ordered) (ticket : Ticket) (asked : Command) :
    Balances (Input.command ticket asked).tickets c (c.command ticket asked) := by
  cases asked with
  | connect => exact balances_connect h
  | close => exact balances_close h
  | queryConnection => exact balances_answer ticket _ (balances_pure h)
  | onConnection filter => exact balances_answer ticket _ (balances_same h rfl rfl)
  | offConnection id => exact balances_same h rfl rfl
  | channel name command => exact balances_channelCommand name h ticket command

theorem balances_onError (h : c.channels.Ordered) (m : Message) :
    Balances [] c (c.onError m) :=
  onError_cases (fun name _ => balances_failChannel name h _) fun _ => balances_failConnection h _

theorem balances_onMessage (h : c.channels.Ordered) (m : Message) :
    Balances [] c (c.onMessage m) :=
  balances_resetIdleTimer h fun ho =>
    onMessage_cases (fun _ => balances_onConnected ho m)
      (fun _ => balances_onDisconnected ho m.error) (fun _ => balances_finishClose ho)
      (fun _ => balances_onError ho m) (fun _ => balances_settle ho _ _)
      (fun _ => balances_settle ho _ _) (fun _ => balances_onAttached ho m)
      (fun _ => balances_onDetached ho m) (fun _ => balances_onSync ho m)
      (fun _ => balances_onPresence ho m) fun _ => balances_pure ho

theorem balances_onLinkEvent (h : c.channels.Ordered) (generation : Nat) (event : LinkEvent) :
    Balances [] c (c.onLinkEvent generation event) :=
  onLinkEvent_cases (fun m _ _ => balances_onMessage h m)
    (fun error _ _ => balances_onLinkEnded h error) fun _ => balances_pure h

theorem balances_fireConnectionTimer (h : c.channels.Ordered) (now : Instant) :
    Balances [] c (c.fireConnectionTimer now) :=
  fireConnectionTimer_cases (fun _ _ _ => balances_onConnectionTimer h _) fun _ => balances_pure h

theorem balances_fireTimers (h : c.channels.Ordered) (now : Instant) :
    Balances [] c (c.fireTimers now) :=
  balances_then (balances_fireConnectionTimer h now) fun c1 => balances_forNames
    (fun _ name ho => balances_onChannelTimer name ho) (c1.dueChannels now)

/-- Nobody waits as a listener. -/
theorem balances_dropListener (h : c.channels.Ordered) (id : ListenerId) :
    Balances [] c (pure (c.dropListener id)) := by
  have hweight : ∀ t, (c.dropListener id).channels.weight (fun ch => ch.core.parked.count t) =
      c.channels.weight fun ch => ch.core.parked.count t := fun t =>
    Entries.weight_map (fun ch : Channel => ch.core.parked.count t) (unheard id) c.channels.entries
  refine ⟨Entries.ascending_map (unheard id) h, fun t => ?_⟩
  rw [Logged.log_pure, Logged.value_pure, load, hweight]
  rfl

theorem balances_shutdown (h : c.channels.Ordered) : Balances [] c c.shutdown := by
  refine shutdown_cases fun farewell hsaid => ?_
  have hquiet : answered farewell.log = [] := by
    rcases hsaid with rfl | ⟨rfl, -⟩
    all_goals rfl
  refine balances_quiet hquiet (balances_quiet rfl ?_)
  exact balances_then (balances_failPending h _) fun c1 => balances_forNames
    (fun c name ho => balances_failWaiters name ho _) c1.channels.keys

/-- One step answers or parks what it is handed, and nothing else changes hands. -/
theorem balances_step (h : c.channels.Ordered) (i : Input) : Balances i.tickets c (c.step i) := by
  cases i with
  | command ticket asked => exact balances_command h ticket asked
  | link generation event => exact balances_onLinkEvent h generation event
  | clock now => exact balances_same h rfl rfl
  | timers => exact balances_fireTimers h c.clock
  | dropListener id => exact balances_dropListener h id
  | shutdown => exact balances_shutdown h

end PresenceClient.Client
