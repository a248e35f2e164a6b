-- What the functions of a client come down to that work on its connection, or on all channels
-- in turn, said once: the life of a connection, its timer, and what its link reports.
import PresenceClient.Proofs.ChannelCases

namespace PresenceClient.Client

open Logged (tell)

variable {c : Client} {P : Logged Client → Prop}

/-! ## The connection -/

@[elab_as_elim]
theorem become_cases {next : Connection.State} {reason : Option ErrorInfo}
    {retryIn : Option Duration}
    (goes : c.connection.state.canBecome next = true → P (
      c.connectionListeners.publish next
          (.connection ⟨c.connection.state, next, reason, retryIn⟩) >>= fun listeners =>
        pure { c with
          connection := { c.connection with
            state := next
            errorReason := reason <|>
              if next = .connected ∨ next = .closed then none else c.connection.errorReason }
          connectionListeners := listeners }))
    (stays : c.connection.state.canBecome next = false → P (pure c)) :
    P (c.become next reason retryIn) := by
  unfold become
  dsimp only
  split
  · exact goes ‹_›
  · exact stays (Bool.eq_false_iff.mpr ‹_›)

@[elab_as_elim]
theorem resetIdleTimer_cases {P : Client → Prop}
    (live : c.isConnected = true → P (c.setTimer (some (Alarm.after c.clock
      (c.connection.maxIdle + c.options.timing.heartbeatMargin) .idle))))
    (down : c.isConnected = false → P c) :
    P c.resetIdleTimer := by
  unfold resetIdleTimer
  split
  · exact live ‹_›
  · exact down (Bool.eq_false_iff.mpr ‹_›)

@[elab_as_elim]
theorem startConnecting_cases
    (opens : c.connection.state.canBecome .connecting = true →
      P (c.become .connecting none none >>= fun c => c.dropLink >>= fun c =>
        tell [.openLink c.connection.generation c.linkParams] >>= fun _ =>
        pure (c.setTimer (some (Alarm.after c.clock c.options.timing.connectTimeout
          .connectTimeout)))))
    (stays : c.connection.state.canBecome .connecting = false → P (pure c)) :
    P c.startConnecting := by
  unfold startConnecting
  split
  · exact opens ‹_›
  · exact stays (Bool.eq_false_iff.mpr ‹_›)

@[elab_as_elim]
theorem connect_cases
    (goesOn : c.connection.state = .connecting ∨ c.connection.state = .connected ∨
      c.connection.state = .closing → P (pure c))
    (starts : c.connection.state ≠ .connecting → c.connection.state ≠ .connected →
      c.connection.state ≠ .closing → P c.startConnecting) :
    P c.connect := by
  unfold connect
  split
  · exact goesOn (.inl ‹_›)
  · exact goesOn (.inr (.inl ‹_›))
  · exact goesOn (.inr (.inr ‹_›))
  · exact starts ‹_› ‹_› ‹_›

/-- The session of a new link counts its serials from zero again. -/
def renumbered (c : Client) : Client :=
  { c with connection := { c.connection with nextSerial := 0 } }

theorem linkUp_eq (resumed : Bool) :
    c.linkUp resumed = (if resumed then c else c.renumbered).resendPending resumed >>= fun c =>
      c.forNames c.channels.keys (onLinkUp resumed) := rfl

@[elab_as_elim]
theorem linkUp_cases {resumed : Bool}
    (again : resumed = true → P (c.resendPending true >>= fun c =>
      c.forNames c.channels.keys (onLinkUp true)))
    (anew : resumed = false → P (c.renumbered.resendPending false >>= fun c =>
      c.forNames c.channels.keys (onLinkUp false))) :
    P (c.linkUp resumed) := by
  cases resumed with
  | true => exact again rfl
  | false => exact anew rfl

/-- The client with the news that a greeting brings of its session. -/
def greeted (c : Client) (m : Message) : Client :=
  { c with connection := { c.connection.greet m with retryAttempts := 0, disconnectedAt := none } }

@[elab_as_elim]
theorem onConnected_cases {m : Message}
    (live : c.connection.state = .connected →
      P ((c.greeted m).become .connected m.error none >>= fun c => pure c.resetIdleTimer))
    (comesUp : c.connection.state = .connecting →
      P ((c.greeted m).become .connected m.error none >>= fun d =>
        d.resetIdleTimer.linkUp (c.resumes m)))
    (ignored : c.connection.state ≠ .connecting → c.connection.state ≠ .connected → P (pure c)) :
    P (c.onConnected m) := by
  unfold onConnected
  split
  · rename_i hs
    have hup : ¬c.isConnected = true := by simp [isConnected, Connection.isConnected, hs]
    exact cast (congrArg P (Logged.bind_congr (if_neg hup).symm)) (comesUp hs)
  · rename_i hs
    have hup : c.isConnected = true := by simp [isConnected, Connection.isConnected, hs]
    exact cast (congrArg P (Logged.bind_congr (if_pos hup).symm)) (live hs)
  · exact ignored ‹_› ‹_›

theorem options_become (c : Client) (next : Connection.State) (reason : Option ErrorInfo)
    (retryIn : Option Duration) : (c.become next reason retryIn).value.options = c.options := by
  refine become_cases (fun _ => ?_) fun _ => ?_
  · rfl
  · rfl

/-! ## Being suspended, failing, closing -/

@[elab_as_elim]
theorem enterSuspendedVisiting_cases {order : List String}
    (suspends : c.connection.state.canBecome .suspended = true →
      P (c.become .suspended (some Cause.unavailable.info)
          (some c.options.timing.suspendedRetry) >>= fun d =>
        (d.setTimer (some (Alarm.after d.clock c.options.timing.suspendedRetry .retry))).failPending
          Cause.unavailable.info >>= fun d =>
        d.forNames order (suspendUnder Cause.unavailable.info)))
    (stays : c.connection.state.canBecome .suspended = false → P (pure c)) :
    P (c.enterSuspendedVisiting order) := by
  unfold enterSuspendedVisiting
  split
  · exact suspends ‹_›
  · exact stays (Bool.eq_false_iff.mpr ‹_›)

@[elab_as_elim]
theorem enterSuspended_cases
    (suspends : c.connection.state.canBecome .suspended = true →
      P (c.become .suspended (some Cause.unavailable.info)
          (some c.options.timing.suspendedRetry) >>= fun d =>
        (d.setTimer (some (Alarm.after d.clock c.options.timing.suspendedRetry .retry))).failPending
          Cause.unavailable.info >>= fun d =>
        d.forNames c.channels.keys (suspendUnder Cause.unavailable.info)))
    (stays : c.connection.state.canBecome .suspended = false → P (pure c)) :
    P c.enterSuspended := by
  unfold enterSuspended
  exact enterSuspendedVisiting_cases suspends stays

/-- The link is given up even where there is no way to fail. -/
@[elab_as_elim]
theorem failConnectionVisiting_cases {order : List String} {error : ErrorInfo}
    (fails : c.connection.state.canBecome .failed = true →
      P (c.dropLink >>= fun d => d.become .failed (some error) none >>= fun d =>
        { d with connection := d.connection.endSession }.failPending error >>= fun d =>
        d.forNames order (failUnder error)))
    (stays : c.connection.state.canBecome .failed = false → P c.dropLink) :
    P (failConnectionVisiting order c error) := by
  unfold failConnectionVisiting
  cases hs : c.connection.state.canBecome .failed with
  | true => exact cast (congrArg P (Logged.bind_congr (if_pos hs).symm)) (fails hs)
  | false =>
    exact cast (congrArg P (Logged.bind_congr (if_neg (Bool.eq_false_iff.mp hs)).symm)) (stays hs)

@[elab_as_elim]
theorem failConnection_cases {error : ErrorInfo}
    (fails : c.connection.state.canBecome .failed = true →
      P (c.dropLink >>= fun d => d.become .failed (some error) none >>= fun d =>
        { d with connection := d.connection.endSession }.failPending error >>= fun d =>
        d.forNames c.channels.keys (failUnder error)))
    (stays : c.connection.state.canBecome .failed = false → P c.dropLink) :
    P (c.failConnection error) := by
  unfold failConnection
  exact failConnectionVisiting_cases fails stays

@[elab_as_elim]
theorem finishCloseVisiting_cases {order : List String}
    (closes : c.connection.state.canBecome .closed = true →
      P (c.dropLink >>= fun d => d.become .closed none none >>= fun d =>
        { d with connection := { d.connection.endSession with retryAttempts := 0 } }.failPending
          Cause.connectionClosed.info >>= fun d => d.forNames order fun d name =>
            d.onChannel name (detachOnClose Cause.connectionClosed.info)))
    (stays : c.connection.state.canBecome .closed = false → P c.dropLink) :
    P (finishCloseVisiting order c) := by
  unfold finishCloseVisiting
  cases hs : c.connection.state.canBecome .closed with
  | true => exact cast (congrArg P (Logged.bind_congr (if_pos hs).symm)) (closes hs)
  | false =>
    exact cast (congrArg P (Logged.bind_congr (if_neg (Bool.eq_false_iff.mp hs)).symm)) (stays hs)

@[elab_as_elim]
theorem finishClose_cases
    (closes : c.connection.state.canBecome .closed = true →
      P (c.dropLink >>= fun d => d.become .closed none none >>= fun d =>
        { d with connection := { d.connection.endSession with retryAttempts := 0 } }.failPending
          Cause.connectionClosed.info >>= fun d => d.forNames c.channels.keys fun d name =>
            d.onChannel name (detachOnClose Cause.connectionClosed.info)))
    (stays : c.connection.state.canBecome .closed = false → P c.dropLink) :
    P c.finishClose := by
  unfold finishClose
  exact finishCloseVisiting_cases closes stays

@[elab_as_elim]
theorem close_cases
    (idle : c.connection.state = .closing ∨ c.connection.state = .closed → P (pure c))
    (asks : c.connection.state = .connected →
      P (c.become .closing none none >>= fun d => transmit Message.close >>= fun _ =>
        pure (d.setTimer (some (Alarm.after d.clock d.options.timing.requestTimeout
          .closeTimeout)))))
    (closes : c.connection.state ≠ .closing → c.connection.state ≠ .closed →
      c.connection.state ≠ .connected → P c.finishClose) :
    P c.close := by
  unfold close
  split
  · exact idle (.inl ‹_›)
  · exact idle (.inr ‹_›)
  · exact asks ‹_›
  · exact closes ‹_› ‹_› ‹_›

/-! ## Being lost -/

/-- How long the next attempt is waited for. -/
def nextWait (c : Client) : Duration :=
  Backoff.delay c.options.timing.disconnectedRetry c.connection.retryAttempts c.takeWord.1

@[elab_as_elim]
theorem enterDisconnected_cases {reason : ErrorInfo}
    (keeps : c.connection.state.canBecome .disconnected = true → c.options.queueMessages = true →
      P (c.takeWord.2.become .disconnected (some reason) (some c.nextWait) >>= fun d =>
        pure (d.setTimer (some (Alarm.after d.clock c.nextWait .retry)))))
    (drops : c.connection.state.canBecome .disconnected = true → c.options.queueMessages = false →
      P (c.takeWord.2.become .disconnected (some reason) (some c.nextWait) >>= fun d =>
        (d.setTimer (some (Alarm.after d.clock c.nextWait .retry))).forNames d.channels.keys
          fun d name => d.onChannel name fun ch => ch.failQueue reason))
    (stays : c.connection.state.canBecome .disconnected = false → P (pure c.takeWord.2)) :
    P (c.enterDisconnected reason) := by
  have hoptions := options_become c.takeWord.2 .disconnected (some reason) (some c.nextWait)
  have hqueue : (c.takeWord.2.become .disconnected (some reason)
      (some c.nextWait)).value.options.queueMessages = c.options.queueMessages := by
    rw [hoptions]
    rfl
  unfold enterDisconnected
  dsimp only
  split
  · rename_i hs
    cases hq : c.options.queueMessages with
    | true =>
      exact cast (congrArg P (Logged.bind_congr (if_pos (hqueue.trans hq)).symm)) (keeps hs hq)
    | false =>
      have hno := Bool.eq_false_iff.mp (hqueue.trans hq)
      exact cast (congrArg P (Logged.bind_congr (if_neg hno).symm)) (drops hs hq)
  · exact stays (Bool.eq_false_iff.mpr ‹_›)

/-- The link is given up, and its loss counted. -/
def loseLink (c : Client) : Logged Client := do
  let c ← c.dropLink
  pure c.noteLoss

theorem handleLoss_eq (reason : ErrorInfo) : c.handleLoss reason = c.loseLink >>= fun c =>
    if c.isHopeless then c.enterSuspended else c.enterDisconnected reason := by
  unfold loseLink
  rw [bind_assoc]
  rfl

@[elab_as_elim]
theorem handleLoss_cases {reason : ErrorInfo}
    (hopeless : c.noteLoss.isHopeless = true → P (c.loseLink >>= fun c => c.enterSuspended))
    (hopeful : c.noteLoss.isHopeless = false →
      P (c.loseLink >>= fun c => c.enterDisconnected reason)) :
    P (c.handleLoss reason) := by
  rw [handleLoss_eq]
  cases h : c.noteLoss.isHopeless with
  | true => exact cast (congrArg P (Logged.bind_congr (if_pos h).symm)) (hopeless h)
  | false =>
    exact cast (congrArg P (Logged.bind_congr (if_neg (Bool.eq_false_iff.mp h)).symm)) (hopeful h)

@[elab_as_elim]
theorem onDisconnected_cases {error : Option ErrorInfo}
    (lost : ∀ reason, error = none ∨ error = some reason ∧ reason.isRetriable = true →
      P (c.handleLoss reason))
    (fatal : ∀ reason, error = some reason → reason.isRetriable = false →
      P (c.failConnection reason)) :
    P (c.onDisconnected error) := by
  unfold onDisconnected
  split
  · split
    · exact lost _ (.inr ⟨rfl, ‹_›⟩)
    · exact fatal _ rfl (Bool.eq_false_iff.mpr ‹_›)
  · exact lost _ (.inl rfl)

@[elab_as_elim]
theorem onLinkEnded_cases {error : Option ErrorInfo}
    (lost : ∀ reason, c.connection.state = .connecting ∨ c.connection.state = .connected →
      P (c.handleLoss reason))
    (closes : c.connection.state = .closing → P c.finishClose)
    (ignored : c.connection.state ≠ .connecting → c.connection.state ≠ .connected →
      c.connection.state ≠ .closing → P (pure c)) :
    P (c.onLinkEnded error) := by
  unfold onLinkEnded
  split
  · exact lost _ (.inl ‹_›)
  · exact lost _ (.inr ‹_›)
  · exact closes ‹_›
  · exact ignored ‹_› ‹_› ‹_›

@[elab_as_elim]
theorem onConnectionTimer_cases {kind : Connection.Timer}
    (lost : ∀ reason, kind = .connectTimeout ∨ kind = .idle →
      P ((c.setTimer none).handleLoss reason))
    (retries : kind = .retry → P (c.setTimer none).startConnecting)
    (closes : kind = .closeTimeout → P (c.setTimer none).finishClose) :
    P (c.onConnectionTimer kind) := by
  unfold onConnectionTimer
  cases kind with
  | connectTimeout => exact lost _ (.inl rfl)
  | idle => exact lost _ (.inr rfl)
  | retry => exact retries rfl
  | closeTimeout => exact closes rfl

@[elab_as_elim]
theorem fireConnectionTimer_cases {now : Instant}
    (fires : ∀ alarm, c.connection.timer = some alarm → alarm.isDue now = true →
      P (c.onConnectionTimer alarm.kind))
    (waits : (∀ alarm, c.connection.timer = some alarm → alarm.isDue now = false) → P (pure c)) :
    P (c.fireConnectionTimer now) := by
  unfold fireConnectionTimer
  split
  · rename_i alarm ht
    split
    · exact fires alarm ht ‹_›
    · refine waits fun alarm' ht' => ?_
      cases ht.symm.trans ht'
      exact Bool.eq_false_iff.mpr ‹_›
  · rename_i hnone
    exact waits fun alarm ht => absurd (hnone.symm.trans ht) nofun

/-! ## Messages -/

@[elab_as_elim]
theorem onError_cases {m : Message}
    (onOne : ∀ name, m.channel = some name →
      P (c.failChannel name (m.error.getD Cause.noDetails.info)))
    (onAll : m.channel = none → P (c.failConnection (m.error.getD Cause.noDetails.info))) :
    P (c.onError m) := by
  unfold onError
  dsimp only
  split
  · exact onOne _ ‹_›
  · exact onAll ‹_›

/-- Every message puts off the time at which the link counts as idle. -/
@[elab_as_elim]
theorem onMessage_cases {m : Message}
    (connected : Message.Action.ofCode? m.action = some .connected →
      P (c.resetIdleTimer.onConnected m))
    (disconnected : Message.Action.ofCode? m.action = some .disconnected →
      P (c.resetIdleTimer.onDisconnected m.error))
    (closed : Message.Action.ofCode? m.action = some .closed → P c.resetIdleTimer.finishClose)
    (error : Message.Action.ofCode? m.action = some .error → P (c.resetIdleTimer.onError m))
    (ack : Message.Action.ofCode? m.action = some .ack → P (c.resetIdleTimer.onAck m))
    (nack : Message.Action.ofCode? m.action = some .nack → P (c.resetIdleTimer.onNack m))
    (attached : Message.Action.ofCode? m.action = some .attached →
      P (c.resetIdleTimer.onAttached m))
    (detached : Message.Action.ofCode? m.action = some .detached →
      P (c.resetIdleTimer.onDetached m))
    (sync : Message.Action.ofCode? m.action = some .sync → P (c.resetIdleTimer.onSync m))
    (presence : Message.Action.ofCode? m.action = some .presence →
      P (c.resetIdleTimer.onPresence m))
    (other : (∀ a ∈ [Message.Action.connected, .disconnected, .closed, .error, .ack, .nack,
      .attached, .detached, .sync, .presence], Message.Action.ofCode? m.action ≠ some a) →
        P (pure c.resetIdleTimer)) :
    P (c.onMessage m) := by
  unfold onMessage
  dsimp only
  split
  · exact connected ‹_›
  · exact disconnected ‹_›
  · exact closed ‹_›
  · exact error ‹_›
  · exact ack ‹_›
  · exact nack ‹_›
  · exact attached ‹_›
  · exact detached ‹_›
  · exact sync ‹_›
  · exact presence ‹_›
  · refine other fun a ha => ?_
    simp only [List.mem_cons, List.not_mem_nil, or_false] at ha
    rcases ha with rfl | rfl | rfl | rfl | rfl | rfl | rfl | rfl | rfl | rfl <;> assumption

@[elab_as_elim]
theorem onLinkEvent_cases {generation : Nat} {event : LinkEvent}
    (message : ∀ m, generation = c.connection.generation → event = .message m → P (c.onMessage m))
    (ended : ∀ error, generation = c.connection.generation → event = .ended error →
      P (c.onLinkEnded error))
    (stale : generation ≠ c.connection.generation → P (pure c)) :
    P (c.onLinkEvent generation event) := by
  unfold onLinkEvent
  split
  · cases event with
    | message m => exact message m ‹_› rfl
    | ended error => exact ended error ‹_› rfl
  · exact stale ‹_›

theorem onMessage_of_connected {m : Message}
    (h : Message.Action.ofCode? m.action = some .connected) :
    c.onMessage m = c.resetIdleTimer.onConnected m := by
  unfold onMessage
  rw [h]

theorem onMessage_of_disconnected {m : Message}
    (h : Message.Action.ofCode? m.action = some .disconnected) :
    c.onMessage m = c.resetIdleTimer.onDisconnected m.error := by
  unfold onMessage
  rw [h]

theorem onMessage_of_closed {m : Message}
    (h : Message.Action.ofCode? m.action = some .closed) :
    c.onMessage m = c.resetIdleTimer.finishClose := by
  unfold onMessage
  rw [h]

theorem onMessage_of_error {m : Message} (h : Message.Action.ofCode? m.action = some .error) :
    c.onMessage m = c.resetIdleTimer.onError m := by
  unfold onMessage
  rw [h]

theorem onMessage_of_ack {m : Message} (h : Message.Action.ofCode? m.action = some .ack) :
    c.onMessage m = c.resetIdleTimer.onAck m := by
  unfold onMessage
  rw [h]

theorem onMessage_of_nack {m : Message} (h : Message.Action.ofCode? m.action = some .nack) :
    c.onMessage m = c.resetIdleTimer.onNack m := by
  unfold onMessage
  rw [h]

theorem onMessage_of_detached {m : Message}
    (h : Message.Action.ofCode? m.action = some .detached) :
    c.onMessage m = c.resetIdleTimer.onDetached m := by
  unfold onMessage
  rw [h]

theorem onMessage_of_presence {m : Message}
    (h : Message.Action.ofCode? m.action = some .presence) :
    c.onMessage m = c.resetIdleTimer.onPresence m := by
  unfold onMessage
  rw [h]

@[elab_as_elim]
theorem step_link_cases {generation : Nat} {event : LinkEvent}
    (message : ∀ m, generation = c.connection.generation → event = .message m → P (c.onMessage m))
    (ended : ∀ error, generation = c.connection.generation → event = .ended error →
      P (c.onLinkEnded error))
    (stale : generation ≠ c.connection.generation → P (pure c)) :
    P (c.step (.link generation event)) := by
  rw [step]
  exact onLinkEvent_cases message ended stale

/-- What the link in use says is a message for the client. -/
theorem step_of_link (c : Client) (m : Message) :
    c.step (.link c.connection.generation (.message m)) = c.onMessage m := if_pos rfl

/-- So is its end. -/
theorem step_of_end (c : Client) (error : Option ErrorInfo) :
    c.step (.link c.connection.generation (.ended error)) = c.onLinkEnded error := if_pos rfl

/-- What an older link reports changes nothing. -/
theorem step_of_older_link {generation : Nat} (h : generation ≠ c.connection.generation)
    (event : LinkEvent) : c.step (.link generation event) = pure c := if_neg h

/-! ## The end -/

/-- On a live link the server is told of the end. -/
@[elab_as_elim]
theorem shutdown_cases
    (ends : ∀ farewell : Logged Unit,
      farewell = pure () ∨ farewell = transmit Message.close ∧ c.isConnected = true →
      P (farewell >>= fun _ => tell [.closeLink] >>= fun _ =>
        c.failPending Cause.clientDropped.info >>= fun c =>
          c.forNames c.channels.keys fun c name => c.onChannel name fun ch =>
            ch.failWaiters Cause.clientDropped.info)) :
    P c.shutdown := by
  unfold shutdown
  dsimp only
  split
  · exact ends _ (.inr ⟨rfl, ‹_›⟩)
  · exact ends (pure ()) (.inl rfl)

end PresenceClient.Client
