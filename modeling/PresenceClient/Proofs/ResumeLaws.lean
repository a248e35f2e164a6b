-- The law of resuming. Every link that a step opens is opened with what the client has before the
-- step. So it asks for the session of the key that the server gave last, as long as that session
-- lasts and always then, and for none once the connection was closed or has failed.
import PresenceClient.Proofs.SessionBooks

namespace PresenceClient.Client

open Connection (Accords)

/-! ## What links are opened with -/

/-- Every link is opened with what the client would open one with now. -/
def Dials (c : Client) (r : Logged Client) : Prop :=
  ∀ generation params, .openLink generation params ∈ r.log → params = c.linkParams

section Dials

variable {c d : Client} {r : Logged Client} {name : String}

theorem dials_of_none (h : opened r.log = []) : Dials c r := fun _ _ hmem =>
  absurd (h ▸ mem_opened hmem) List.not_mem_nil

theorem Rests.dials (h : Rests c r) : Dials d r := dials_of_none h.opened

theorem dials_from (h : Dials d r) (hp : d.linkParams = c.linkParams) : Dials c r :=
  fun generation params hmem => (h generation params hmem).trans hp

theorem dials_quiet {α : Type} {x : Logged α} {f : α → Logged Client} (hx : opened x.log = [])
    (h : Dials c (f x.value)) : Dials c (x >>= f) := fun generation params hmem =>
  (List.mem_append.mp hmem).elim (fun hmem => absurd (hx ▸ mem_opened hmem) List.not_mem_nil)
    (h generation params)

theorem dials_rests {x : Logged Client} {f : Client → Logged Client} (h : Dials c x)
    (hf : Rests x.value (f x.value)) : Dials c (x >>= f) := fun generation params hmem =>
  (List.mem_append.mp hmem).elim (h generation params) (hf.dials generation params)

/-! ## Commands and timers -/

/-- Entering the state and giving up the old link change nothing that a link is opened with. -/
theorem dials_startConnecting : Dials c c.startConnecting := by
  refine startConnecting_cases (fun hs => ?opens) fun _ => rests_pure.dials
  case opens =>
    have hparams : (c.become .connecting none none).value.linkParams = c.linkParams :=
      become_cases (fun _ => rfl) fun _ => rfl
    refine dials_quiet (leads_become hs none none).opened ?_
    refine dials_quiet leads_dropLink.opened fun generation params hmem => ?_
    cases List.mem_singleton.mp hmem
    exact hparams

theorem dials_connect : Dials c c.connect :=
  connect_cases (fun _ => rests_pure.dials) fun _ _ _ => dials_startConnecting

/-- The first attach connects. -/
theorem dials_attachChannel (waiters : List Responder) :
    Dials c (c.attachChannel name waiters) := by
  have hbegins : ∀ {f : Channel → Logged Client},
      Dials c (f (toAttaching waiters (c.channelOrNew name)).value) →
        Dials c (toAttaching waiters (c.channelOrNew name) >>= f) := fun h =>
    dials_quiet (Channel.hushed_toAttaching _ waiters).mute.opened h
  exact attachChannel_cases (fun _ => (rests_answered (mute_resolveEach waiters id .done)).dials)
    (fun _ => dials_of_none rfl) (fun _ _ => (rests_answered (mute_resolveEach _ id _)).dials)
    fun _ _ _ => beginAttach_cases (fun _ => hbegins rests_sendAttach.dials)
      (fun _ => hbegins (dials_from dials_connect rfl)) fun _ _ => hbegins (dials_of_none rfl)

theorem dials_queueMessage (m : Message) (ticket : Ticket) :
    Dials c (c.queueMessage name m ticket) :=
  queueMessage_cases (fun _ => dials_from (dials_attachChannel []) rfl) fun _ _ _ =>
    dials_of_none rfl

theorem dials_publish (action : Presence.Action) (clientId : Option String) (data : Payload)
    (ticket : Ticket) : Dials c (c.publish name action clientId data ticket) :=
  publish_cases (fun _ => dials_of_none rfl) (fun _ _ => dials_of_none rfl)
    (fun _ _ _ _ _ => (rests_sendForAck _ _).dials)
    fun _ _ _ _ _ _ => dials_from (dials_queueMessage _ ticket) rfl

theorem dials_getMembers (query : MemberQuery) (ticket : Ticket) :
    Dials c (c.getMembers name query ticket) :=
  getMembers_cases (fun _ _ => dials_of_none rfl) (fun _ => dials_of_none rfl)
    (fun _ => dials_of_none rfl)
    (fun _ _ _ => (rests_onChannel fun ch => Channel.hushed_failGets ch _).dials)
    fun _ _ => dials_from (dials_attachChannel []) rfl

theorem dials_subscribe (filter : Option Presence.Action) (ticket : Ticket) :
    Dials c (c.subscribe name filter ticket) :=
  subscribe_cases (fun _ _ => dials_of_none rfl)
    (fun _ _ => dials_rests (dials_from (dials_attachChannel []) rfl)
      (rests_addPresenceListener filter ticket))
    fun _ _ _ => dials_of_none rfl

theorem dials_channelCommand (ticket : Ticket) (command : ChannelCommand) :
    Dials c (c.channelCommand name ticket command) := by
  cases command with
  | attach => exact dials_attachChannel _
  | detach => exact (rests_detachChannel _).dials
  | publish action clientId data => exact dials_publish action clientId data ticket
  | get query => exact dials_getMembers query ticket
  | subscribe action => exact dials_subscribe action ticket
  | release => exact rests_releaseChannel.dials
  | _ => exact dials_of_none rfl

theorem opened_finishClose : opened c.finishClose.log = [] := by
  cases hs : c.connection.state.canBecome .closed with
  | true => exact (leads_finishClose hs).opened
  | false => exact (leads_finishClose_refused hs).opened

theorem opened_close : opened c.close.log = [] := by
  refine close_cases (fun _ => rfl) (fun hs => ?asks) fun _ _ _ => opened_finishClose
  case asks =>
    have hcan : c.connection.state.canBecome .closing = true := by rw [hs]; rfl
    rw [Logged.log_bind, opened_append, (leads_become hcan none none).opened]
    rfl

theorem dials_command (ticket : Ticket) (asked : Command) : Dials c (c.command ticket asked) := by
  cases asked with
  | connect => exact dials_connect
  | close => exact dials_of_none opened_close
  | channel name command => exact dials_channelCommand ticket command
  | _ => exact dials_of_none rfl

/-- Of what the connection waits for, only the time of the next attempt opens a link. -/
theorem dials_onConnectionTimer (kind : Connection.Timer) :
    Dials c (c.onConnectionTimer kind) := by
  have hloss : ∀ reason, Dials c ((c.setTimer none).handleLoss reason) := fun reason => by
    obtain ⟨links, k, hl, ht⟩ := steers_handleLoss (c := c.setTimer none) reason
    exact dials_of_none (hl.opened.trans (by_contra fun ho => (Connection.of_opens ht ho).1 rfl))
  exact onConnectionTimer_cases (fun reason _ => hloss reason)
    (fun _ => dials_from dials_startConnecting rfl) fun _ => dials_of_none opened_finishClose

theorem dials_fireTimers (now : Instant) : Dials c (c.fireTimers now) := by
  refine dials_rests ?_ (rests_foldlM (fun _ _ => rests_onChannelTimer) _)
  exact fireConnectionTimer_cases (fun _ _ _ => dials_onConnectionTimer _) fun _ =>
    rests_pure.dials

theorem dials_step (h : c.connection.Timed) (i : Input) : Dials c (c.step i) := by
  have hturn := (step_turn h i).2
  cases i with
  | command ticket asked => exact dials_command ticket asked
  | link generation event =>
    exact dials_of_none (by_contra fun ho => (Connection.of_opens hturn ho).1 rfl)
  | timers => exact dials_fireTimers c.clock
  | shutdown => exact rests_shutdown.dials
  | _ => exact dials_of_none rfl

end Dials

/-! ## The session that a link is to resume -/

theorem resumeKey_eq_some {c : Client} {key : String} :
    c.resumeKey = some key ↔ c.connection.key = some key ∧
      ∀ lost, c.connection.disconnectedAt = some lost →
        c.clock.elapsed lost < c.connection.stateTtl := by
  unfold resumeKey Connection.canResume
  cases c.connection.key <;> cases c.connection.disconnectedAt <;> simp [and_comm]

/-! ## The law -/

/-- Wherever a run has brought the connection: a link that the next step opens asks to resume under
a key just if that is the key that the server gave last since the connection was last closed or
failed, and if the connection was not lost since the last greeting, or was first lost less than
the time to live ago. A link that is opened after a close or a failure and before the next greeting
asks for no session. -/
theorem a_link_resumes_the_session_while_it_lasts (options : Options) (words : List UInt64)
    (inputs : List Input) (i : Input) (generation : Nat) (params : LinkParams)
    (hopens : .openLink generation params ∈
      (((fresh options words).run inputs).value.step i).log) :
    let c := fun before => ((fresh options words).run before).value
    let b := bookOf options words inputs
    (∀ key, params.resume = some key ↔ b.key = some key ∧
      ∀ lost, b.lostAt = some lost → (c inputs).clock.elapsed lost < b.ttl) ∧
    ∀ first later, inputs = first ++ later → (c first).connection.state.isOver = true →
      (∀ before j after, later = before ++ j :: after → (c (first ++ before)).greeting? j = none) →
      params.resume = none := by
  intro c b
  have haccords : Accords b (c inputs).session := accords_run options words inputs
  have htimed := (timed_run options words inputs).2
  have hresume : ∀ key, params.resume = some key ↔ b.key = some key ∧
      ∀ lost, b.lostAt = some lost → (c inputs).clock.elapsed lost < b.ttl := by
    intro key
    rw [dials_step htimed i generation params hopens]
    show (c inputs).resumeKey = some key ↔ _
    rw [resumeKey_eq_some, show (c inputs).connection.key = b.key from haccords.key,
      show (c inputs).connection.stateTtl = b.ttl from haccords.ttl]
    refine and_congr_right fun hkey => ?_
    -- While the connection is closing the book may lag behind, but then no link is opened.
    have hclosing : (c inputs).session.state ≠ .closing := fun hc => by
      have hcan := (Connection.of_opens (step_turn htimed i).2
        (List.ne_nil_of_mem (mem_opened hopens))).2
      rw [show ((fresh options words).run inputs).value.session.state = .closing from hc] at hcan
      cases hcan
    rw [show (c inputs).connection.disconnectedAt = b.lostAt from
      haccords.lostAt (haccords.key.trans hkey ▸ Option.some_ne_none key) hclosing]
  refine ⟨hresume, fun first later hsplit hover hnone => ?_⟩
  have hkey : (bookOf options words inputs).key = none := by
    rw [hsplit]
    exact key_bookOf_eq_none hover hnone
  cases hr : params.resume with
  | none => rfl
  | some key => exact nomatch hkey.symm.trans ((hresume key).mp hr).1

/-- The client has connected, and the server has greeted and given a key. -/
def keyed : List Input :=
  [.command 0 .connect, .link 1 (.message
    { action := Message.Action.connected.code, connectionKey := some "key-1" })]

/-- The link has ended, and then the clock has moved on. -/
def lostFor (wait : Duration) : List Input := keyed ++ [.link 1 (.ended none), .clock wait]

/-- The server has closed the connection as the client has asked. -/
def keyedAndClosed : List Input :=
  keyed ++ [.command 1 .close, .link 1 (.message { action := Message.Action.closed.code })]

/-- What a client with a key opens a link with after a run. -/
def redial (inputs : List Input) : LinkParams := ((fresh keyOptions []).run inputs).value.linkParams

/-- The session is resumed within two minutes of the loss, and not after a close. -/
theorem a_session_is_resumed_within_two_minutes :
    let reopens : List Input → Option String → Prop := fun inputs resume => ∃ params,
      .openLink 3 params ∈ (((fresh keyOptions []).run inputs).value.step (.command 2 .connect)).log ∧
        params.resume = resume
    reopens (lostFor (Duration.ofSeconds 119)) (some "key-1") ∧
      reopens (lostFor (Duration.ofSeconds 120)) none ∧ reopens keyedAndClosed none := by
  have hlaw := fun inputs => a_link_resumes_the_session_while_it_lasts keyOptions [] inputs
    (.command 2 .connect) 3 (redial inputs)
  have hlost : ∀ wait, (bookOf keyOptions [] (lostFor wait)).lostAt = some 0 := fun _ => rfl
  refine ⟨⟨redial (lostFor (Duration.ofSeconds 119)), by decide, ?_⟩,
    ⟨redial (lostFor (Duration.ofSeconds 120)), by decide, ?_⟩, ⟨redial keyedAndClosed, by decide, ?_⟩⟩
  · refine ((hlaw _ (by decide)).1 "key-1").mpr ⟨by decide, fun lost hat => ?_⟩
    cases (hlost _).symm.trans hat
    decide
  · cases hr : (redial (lostFor (Duration.ofSeconds 120))).resume with
    | none => rfl
    | some key => exact absurd ((((hlaw _ (by decide)).1 key).mp hr).2 0 (hlost _)) (by decide)
  · exact (hlaw _ (by decide)).2 keyedAndClosed [] rfl rfl fun before j after he => by simp at he

end PresenceClient.Client
