-- The book of losses, kept from what a run shows: how often the link was lost since the connection
-- was last up or closed, and when it was first. What the connection counts is what the book says.
-- A failure forgets when the losses began and leaves how many they were.
import PresenceClient.Proofs.LiveLinkLaws
import PresenceClient.Proofs.SessionBooks

namespace PresenceClient

open Connection (Cue Turn Linked)

/-! ## Losses -/

namespace Connection

/-- A link is waited for or is up in this state, so that it can be lost. -/
def State.canBeLost : State → Bool
  | .connecting | .connected => true
  | _ => false

theorem State.canBecome_of_canBeLost {s : State} (h : s.canBeLost = true) :
    s.canBecome .disconnected = true ∧ s.canBecome .suspended = true := by
  cases s <;> first | exact ⟨rfl, rfl⟩ | cases h

theorem State.canBeLost_of_canBecome {s : State} :
    s.canBecome .disconnected = true → s.canBeLost = true := by
  cases s <;> decide

theorem State.ne_closing_of_canBeLost {s : State} : s.canBeLost = true → s ≠ .closing := by
  cases s <;> decide

theorem State.not_isDown_of_isLive {s : State} : s.isLive = true → s.isDown = false := by
  cases s <;> decide

/-- The link counts as lost when this timer fires. -/
def Timer.isLoss : Timer → Bool
  | .connectTimeout | .idle => true
  | _ => false

theorem State.canBeLost_of_awaits {s : State} {timer : Timer} :
    s.awaits = some timer → timer.isLoss = true → s.canBeLost = true := by
  cases s <;> cases timer <;> decide

theorem State.canBecome_of_awaits_retry {s : State} :
    s.awaits = some .retry → s.canBecome .connecting = true := by
  cases s <;> decide

theorem State.canBecome_of_awaits_closeTimeout {s : State} :
    s.awaits = some .closeTimeout → s.canBecome .closed = true := by
  cases s <;> decide

end Connection

/-- The link has ended, or the server ends the session without a reason or with one for which
another attempt is worth while. -/
def LinkEvent.isLoss : LinkEvent → Bool
  | .ended _ => true
  | .message m => Message.Action.ofCode? m.action == some .disconnected &&
      m.error.all fun e => e.isRetriable

/-- The link is lost by an input, while it is waited for or up. -/
def Client.loses (c : Client) (i : Input) : Bool :=
  c.connection.state.canBeLost && match i with
    | .link generation event => decide (generation = c.connection.generation) && event.isLoss
    | .timers => c.connection.timer.any fun alarm => alarm.isDue c.clock && alarm.kind.isLoss
    | _ => false

theorem Message.endsIn_of_isLoss {m : Message} (h : (LinkEvent.message m).isLoss = true) :
    m.endsIn = some .disconnected := by
  simp only [LinkEvent.isLoss, Bool.and_eq_true, beq_iff_eq] at h
  obtain ⟨ha, he⟩ := h
  have hfatal : m.fatalError = none := by
    unfold fatalError
    rw [ha]
    cases herror : m.error with
    | none => rfl
    | some e => simpa [herror] using he
  unfold endsIn
  rw [hfatal, ha]
  rfl

theorem Message.isLoss_of_endsIn {m : Message} (h : m.endsIn = some .disconnected) :
    (LinkEvent.message m).isLoss = true := by
  unfold endsIn at h
  split at h
  · cases h
  · rename_i hfatal
    split at h
    · cases h
    · rename_i ha
      have hnone : m.fatalError = none := by simpa using hfatal
      unfold fatalError at hnone
      rw [ha] at hnone
      simp only [LinkEvent.isLoss, ha, beq_self_eq_true, Bool.true_and]
      cases herror : m.error with
      | none => rfl
      | some e => simpa [herror] using hnone
    · cases h

/-! ## What a loss does -/

/-- What a loss makes of a connection that has a link: it waits for the next attempt, or for a
longer while if there is no hope. -/
def Connection.fallen (k : Connection) (timing : Timing) (now : Instant) (reason : ErrorInfo)
    (word : UInt64) : Connection :=
  if (k.lost now).isHopeless timing now then (k.lost now).suspended timing now
  else (k.lost now).disconnected timing now reason word

/-- In whatever state the connection is left, the loss is counted. -/
theorem Connection.fallen_fields (k : Connection) (timing : Timing) (now : Instant)
    (reason : ErrorInfo) (word : UInt64) :
    (k.fallen timing now reason word).disconnectedAt = some (k.disconnectedAt.getD now) ∧
      (k.fallen timing now reason word).retryAttempts = k.retryAttempts + 1 ∧
      (k.fallen timing now reason word).state.isDown = true := by
  unfold fallen
  split <;> exact ⟨rfl, rfl, rfl⟩

theorem Connection.fallen_stirred (k : Connection) (timing : Timing) (now : Instant)
    (reason : ErrorInfo) (word : UInt64) :
    (k.stirred timing now).fallen timing now reason word = k.fallen timing now reason word := by
  obtain ⟨timer, htimer⟩ : ∃ timer, k.stirred timing now = { k with timer := timer } := stirred_eq
  rw [htimer]
  rfl

namespace Client

section Losses

variable {c : Client} {i : Input}

theorem session_handleLoss (h : c.connection.state.canBeLost = true) (reason : ErrorInfo) :
    (c.handleLoss reason).value.session =
      c.session.fallen c.options.timing c.clock reason c.takeWord.1 := by
  obtain ⟨hdisconnected, hsuspended⟩ := Connection.State.canBecome_of_canBeLost h
  unfold Connection.fallen
  split
  · rename_i hhope
    exact (leads_handleLoss_hopeless reason hhope hsuspended).session
  · rename_i hhope
    exact (leads_handleLoss_next reason (eq_false_of_ne_true hhope) hdisconnected).session

/-- What the timers of the channels do is no matter of the connection. -/
theorem session_fireTimers (c : Client) (now : Instant) :
    (c.fireTimers now).value.session = (c.fireConnectionTimer now).value.session := by
  have hrest : Rests (c.fireConnectionTimer now).value
      ((c.fireConnectionTimer now).value.forNames
        ((c.fireConnectionTimer now).value.dueChannels now) onChannelTimer) :=
    rests_foldlM (fun _ _ => rests_onChannelTimer) _
  exact hrest.session

/-- However the link is lost, the connection falls. -/
theorem session_of_loses (h : c.loses i = true) : ∃ reason, (c.step i).value.session =
    c.session.fallen c.options.timing c.clock reason c.takeWord.1 := by
  unfold loses at h
  obtain ⟨hs, h⟩ := Bool.and_eq_true_iff.mp h
  cases i with
  | link generation event =>
    obtain ⟨hg, hloss⟩ := Bool.and_eq_true_iff.mp h
    cases of_decide_eq_true hg
    cases event with
    | message m =>
      rw [step_of_link]
      rcases onMessage_of_endsIn (Message.endsIn_of_isLoss hloss) c with
        ⟨hf, -⟩ | ⟨hc, -⟩ | ⟨-, e, heq⟩
      · cases hf
      · cases hc
      · obtain ⟨ho, hc, -⟩ := resetIdleTimer_rest (c := c)
        have hword : c.resetIdleTimer.takeWord.1 = c.takeWord.1 :=
          resetIdleTimer_cases (fun _ => rfl) fun _ => rfl
        have hfallen := session_handleLoss (state_resetIdleTimer (c := c) ▸ hs) e
        rw [session_resetIdleTimer, ho, hc, hword, Connection.fallen_stirred] at hfallen
        exact ⟨e, heq ▸ hfallen⟩
    | ended error =>
      rw [step_of_end]
      refine onLinkEnded_cases (fun reason _ => ⟨reason, session_handleLoss hs reason⟩)
        (fun hclosing => ?closes) fun h1 h2 h3 => ?ignored
      case closes =>
        rw [hclosing] at hs
        cases hs
      case ignored =>
        cases hstate : c.connection.state <;> simp_all [Connection.State.canBeLost]
  | timers =>
    obtain ⟨alarm, htimer, hdue⟩ := (Option.any_eq_true _ _).mp h
    obtain ⟨hdue, hkind⟩ := Bool.and_eq_true_iff.mp hdue
    have hfire : c.fireConnectionTimer c.clock = c.onConnectionTimer alarm.kind := by
      refine fireConnectionTimer_cases (fun alarm' htimer' _ => ?fires) fun hno => ?waits
      case fires =>
        cases htimer.symm.trans htimer'
        rfl
      case waits => exact absurd (hdue.symm.trans (hno alarm htimer)) nofun
    have hstep : (c.step .timers).value.session = (c.onConnectionTimer alarm.kind).value.session :=
      (session_fireTimers c c.clock).trans (by rw [hfire])
    rw [hstep]
    refine onConnectionTimer_cases
      (fun reason _ => ⟨reason, session_handleLoss (c := c.setTimer none) hs reason⟩)
      (fun hretry => ?retries) fun hclose => ?closes
    case retries =>
      rw [hretry] at hkind
      cases hkind
    case closes =>
      rw [hclose] at hkind
      cases hkind
  | _ => cases h

/-! ## What is no loss -/

/-- What a link reports leaves the connection its link or does not take it down, unless the link
is lost. -/
theorem kept_or_up_of_link {generation : Nat} {event : LinkEvent}
    (hlive : c.connection.state.isLive = true)
    (h : c.loses (.link generation event) = false) :
    (c.step (.link generation event)).value.connection.generation = c.connection.generation ∨
      (c.step (.link generation event)).value.connection.state.isDown = false := by
  by_cases hg : generation = c.connection.generation
  swap
  · rw [step_of_older_link hg]
    exact .inl rfl
  subst hg
  have hloss : event.isLoss = true → c.connection.state.canBeLost = false := fun he => by
    simpa [loses, he] using h
  cases event with
  | ended error =>
    have hclosing : c.connection.state = .closing := by
      have hlost := hloss rfl
      cases hs : c.connection.state <;>
        simp_all [Connection.State.canBeLost, Connection.State.isLive]
    right
    rw [step_of_end]
    refine onLinkEnded_cases (fun _ hs => ?lost) (fun _ => ?closes) fun _ _ h3 => absurd hclosing h3
    case lost =>
      rw [hclosing] at hs
      rcases hs with h | h <;> cases h
    case closes =>
      rw [state_finishClose (by rw [hclosing]; rfl)]
      rfl
  | message m =>
    rw [step_of_link]
    cases hends : m.endsIn with
    | none => exact .inl (generation_onMessage hends)
    | some next =>
      right
      cases hcan : c.connection.state.canBecome next with
      | false =>
        rw [(stuck_of_onMessage hends hlive hcan).1]
        exact Connection.State.not_isDown_of_isLive hlive
      | true =>
        rw [← state_resetIdleTimer] at hcan
        rcases onMessage_of_endsIn hends c with ⟨rfl, e, heq⟩ | ⟨rfl, heq⟩ | ⟨rfl, -, -⟩
        · rw [heq, state_of_session (leads_failConnection hcan e).session]
          rfl
        · rw [heq, state_finishClose hcan]
          rfl
        · -- Where the connection can become disconnected, this is a loss.
          rw [state_resetIdleTimer] at hcan
          have hlost := hloss (Message.isLoss_of_endsIn hends)
          rw [Connection.State.canBeLost_of_canBecome hcan] at hlost
          cases hlost

/-- The timer of the connection takes it down only if it stands for a loss. -/
theorem kept_or_up_of_timers (ht : c.connection.Timed) (h : c.loses .timers = false) :
    (c.step .timers).value.connection.generation = c.connection.generation ∨
      (c.step .timers).value.connection.state.isDown = false := by
  have hsession : (c.step .timers).value.session = (c.fireConnectionTimer c.clock).value.session :=
    session_fireTimers c c.clock
  have hstate := congrArg Connection.state hsession
  have hgeneration := congrArg Connection.generation hsession
  suffices (c.fireConnectionTimer c.clock).value.connection.generation = c.connection.generation ∨
      (c.fireConnectionTimer c.clock).value.connection.state.isDown = false by
    rcases this with hg | hs
    · exact .inl (hgeneration.trans hg)
    · exact .inr ((congrArg Connection.State.isDown hstate).trans hs)
  refine fireConnectionTimer_cases (fun alarm htimer hdue => .inr ?_) fun _ => .inl rfl
  have hawaits : c.connection.state.awaits = some alarm.kind := by
    rw [← ht, htimer]
    rfl
  have hspared : alarm.kind.isLoss = false := by
    refine eq_false_of_ne_true fun hloss => ?_
    have hs := Connection.State.canBeLost_of_awaits hawaits hloss
    simp [loses, hs, htimer, hdue, hloss] at h
  refine onConnectionTimer_cases (fun _ hkind => ?lost) (fun hkind => ?retries)
    fun hkind => ?closes
  case lost =>
    rcases hkind with hkind | hkind
    all_goals
      rw [hkind] at hspared
      cases hspared
  case retries =>
    have hs : (c.setTimer none).connection.state.canBecome .connecting = true :=
      Connection.State.canBecome_of_awaits_retry (hkind ▸ hawaits)
    rw [state_of_session (leads_startConnecting hs).session]
    rfl
  case closes =>
    have hs : (c.setTimer none).connection.state.canBecome .closed = true :=
      Connection.State.canBecome_of_awaits_closeTimeout (hkind ▸ hawaits)
    rw [state_finishClose hs]
    rfl

end Losses

end Client

/-! ## The book -/

structure LossBook where
  /-- When the link was first lost since the connection was last up, closed or failed. -/
  first : Option Instant := none
  /-- How often the link was lost since the connection was last up or closed. -/
  count : Nat := 0

namespace LossBook

/-- The link is lost. -/
def noted (b : LossBook) (now : Instant) : LossBook where
  first := b.first <|> some now
  count := b.count + 1

/-- The connection is found in a state. -/
def found (b : LossBook) : Connection.State → LossBook
  | .connected | .closed => {}
  | .failed => { b with first := none }
  | _ => b

end LossBook

namespace Client

/-- The book after one step more. -/
def lossStep (c : Client) (b : LossBook) (i : Input) : LossBook :=
  (if c.loses i then b.noted c.clock else b).found (c.step i).value.connection.state

/-- The book after a run. -/
def lossBook (c : Client) (b : LossBook) : List Input → LossBook
  | [] => b
  | i :: rest => (c.step i).value.lossBook (c.lossStep b i) rest

theorem lossBook_append (c : Client) (b : LossBook) (first later : List Input) :
    c.lossBook b (first ++ later) = (c.run first).value.lossBook (c.lossBook b first) later := by
  induction first generalizing c b with
  | nil => rfl
  | cons i rest ih => exact ih (c.step i).value (c.lossStep b i)

/-- The book of a run, from its beginning on. -/
def lossBookOf (options : Options) (words : List UInt64) (inputs : List Input) : LossBook :=
  (fresh options words).lossBook {} inputs

theorem lossBookOf_snoc (options : Options) (words : List UInt64) (first : List Input)
    (i : Input) : lossBookOf options words (first ++ [i]) =
      ((fresh options words).run first).value.lossStep (lossBookOf options words first) i := by
  rw [lossBookOf, lossBook_append]
  rfl

end Client

/-! ## What the connection counts -/

namespace Connection

/-- What the connection counts in its 32 bits is what the book says. A connection that is closing
may have counted more, but then nothing is heard of any link. -/
structure Tallies (b : LossBook) (links : List Nat) (k : Connection) : Prop where
  counted : k.disconnectedAt = b.first ∧ k.retryAttempts = .ofNat b.count ∨
    k.state = .closing ∧ ∀ link ∈ links, link < k.generation
  cleared : k.state = .connected ∨ k.state = .closed → b = {}
  failed : k.state = .failed → b.first = none
  down : k.state.isDown = true → 0 < b.count

variable {timing : Timing} {now : Instant} {cue : Cue} {k k' : Connection} {opens links : List Nat}
  {b : LossBook}

/-- As long as a link is heard of, nothing is counted that is not in the book. -/
theorem Tallies.heard (h : Tallies b links k) (hlink : k.generation ∈ links) :
    k.disconnectedAt = b.first ∧ k.retryAttempts = .ofNat b.count :=
  h.counted.resolve_right fun ⟨_, hlt⟩ => Nat.lt_irrefl _ (hlt k.generation hlink)

theorem Tallies.of_not_closing (h : Tallies b links k) (hs : k.state ≠ .closing) :
    k.disconnectedAt = b.first ∧ k.retryAttempts = .ofNat b.count :=
  h.counted.resolve_right fun ⟨hc, _⟩ => hs hc

/-- A book says the same of a connection that is found where it was. -/
theorem Tallies.found (h : Tallies b links k) : b.found k.state = b := by
  cases hs : k.state with
  | connected => exact (h.cleared (.inl hs)).symm
  | closed => exact (h.cleared (.inr hs)).symm
  | failed =>
    have hfirst := h.failed hs
    obtain ⟨first, count⟩ := b
    exact congrArg (LossBook.mk · count) hfirst.symm
  | _ => rfl

/-- A connection that is up or closed has nothing to count. -/
theorem tallies_cleared (hat : k'.disconnectedAt = none) (hn : k'.retryAttempts = 0)
    (hs : k'.state = .connected ∨ k'.state = .closed) : Tallies (b.found k'.state) links k' := by
  have hempty : b.found k'.state = {} := by
    rcases hs with hs | hs <;> rw [hs] <;> rfl
  rw [hempty]
  refine ⟨.inl ⟨hat, hn⟩, fun _ => rfl, fun _ => rfl, fun hdown => ?_⟩
  rcases hs with hs | hs <;> simp [hs, State.isDown] at hdown

/-- The book says the same as long as nothing is counted and the state stays. -/
theorem tallies_kept (h : Tallies b links k) (hat : k'.disconnectedAt = k.disconnectedAt)
    (hn : k'.retryAttempts = k.retryAttempts) (hg : k.generation ≤ k'.generation)
    (hs : k'.state = k.state) : Tallies (b.found k'.state) links k' := by
  rw [hs, h.found]
  refine ⟨?_, hs ▸ h.cleared, hs ▸ h.failed, hs ▸ h.down⟩
  rw [hat, hn, hs]
  exact h.counted.imp_right fun ⟨hc, hlt⟩ =>
    ⟨hc, fun link hmem => Nat.lt_of_lt_of_le (hlt link hmem) hg⟩

/-- Connecting and closing take no count back. -/
theorem tallies_moved (h : Tallies b links k) (hat : k'.disconnectedAt = k.disconnectedAt)
    (hn : k'.retryAttempts = k.retryAttempts) (hopen : k.state ≠ .closing)
    (hs : k'.state = .connecting ∨ k'.state = .closing) :
    Tallies (b.found k'.state) (links ++ opens) k' := by
  have hfound : b.found k'.state = b := by
    rcases hs with hs | hs <;> rw [hs] <;> rfl
  rw [hfound]
  refine ⟨.inl ?_, fun hc => ?_, fun hf => ?_, fun hdown => ?_⟩
  · rw [hat, hn]
    exact h.of_not_closing hopen
  · rcases hs with hs | hs <;> simp [hs] at hc
  · rcases hs with hs | hs <;> simp [hs] at hf
  · rcases hs with hs | hs <;> simp [hs, State.isDown] at hdown

/-- A turn that is no loss leaves the count or takes it back, if only own links are heard. -/
theorem tallies_turn (h : Turn timing now cue k opens k') (hk : Tallies b links k)
    (hlinked : Linked links k) (hheard : cue = .heard → k.generation ∈ links)
    (hspared : cue ≠ .asked → k'.generation = k.generation ∨ k'.state.isDown = false) :
    Tallies (b.found k'.state) (links ++ opens) k' := by
  obtain ⟨hstate, -, -, hat, hn, hgeneration⟩ := stirred_fields k timing now
  have hdown : ∀ {k' : Connection}, k'.generation = k.generation + 1 → k'.state.isDown = true →
      ¬(k'.generation = k.generation ∨ k'.state.isDown = false) := fun hg hs hor => by
    rcases hor with hor | hor
    · omega
    · cases hs.symm.trans hor
  cases h with
  | rest =>
    rw [List.append_nil]
    exact tallies_kept hk rfl rfl (Nat.le_refl _) rfl
  | stirred =>
    rw [List.append_nil]
    exact tallies_kept hk hat hn (Nat.le_of_eq hgeneration.symm) hstate
  | opened hcue hs =>
    refine tallies_moved hk rfl rfl (fun hc => ?_) (.inl rfl)
    rw [hc] at hs
    cases hs
  | greeted m hs =>
    obtain ⟨hstate, -, -, hat, hn, -⟩ := stirred_fields
      ({ k.greet m with retryAttempts := 0, disconnectedAt := none }.enter .connected m.error)
      timing now
    exact tallies_cleared hat hn (.inl hstate)
  | disconnected reason word hcue hs hhope => exact absurd (hspared hcue) (hdown rfl rfl)
  | suspended hcue hs hhope => exact absurd (hspared hcue) (hdown rfl rfl)
  | lossRefused hs =>
    -- A link is heard, so the connection is closing, and now that link is an old one.
    have hlive := (hlinked k.generation (hheard rfl)).2 rfl
    have hclosing : k.state = .closing := by
      cases hstate : k.state <;> simp_all [State.isLive]
    have hlost : (k.lost now).state = .closing := hclosing
    rw [List.append_nil, hlost]
    refine ⟨.inr ⟨hlost, fun link hmem => Nat.lt_succ_of_le (hlinked link hmem).1⟩, fun hc => ?_,
      fun hf => ?_, fun hdown => ?_⟩
    · simp [hlost] at hc
    · simp [hlost] at hf
    · simp [hlost, State.isDown] at hdown
  | failed error hs =>
    refine ⟨.inl ⟨rfl, (hk.heard (hheard rfl)).2⟩, fun hc => ?_, fun _ => rfl, fun hdown => ?_⟩
    · simp [failed, enter, endSession] at hc
    · simp [failed, enter, endSession, State.isDown] at hdown
  | failRefused hs =>
    rw [List.append_nil]
    exact tallies_kept hk rfl rfl (Nat.le_succ _) rfl
  | closing hs =>
    refine tallies_moved hk rfl rfl (fun hc => ?_) (.inr rfl)
    cases hs.symm.trans hc
  | closed hs => exact tallies_cleared rfl rfl (.inr rfl)
  | closeRefused hs =>
    rw [List.append_nil]
    exact tallies_kept hk hat hn (Nat.le_succ_of_le (Nat.le_of_eq hgeneration.symm)) hstate

/-- A loss is counted and noted in the book. -/
theorem tallies_fallen (hk : Tallies b links k) (hs : k.state.canBeLost = true) (reason : ErrorInfo)
    (word : UInt64) : Tallies ((b.noted now).found (k.fallen timing now reason word).state) links
      (k.fallen timing now reason word) := by
  obtain ⟨hat, hn, hdown⟩ := fallen_fields k timing now reason word
  obtain ⟨hfirst, hcount⟩ := hk.of_not_closing (State.ne_closing_of_canBeLost hs)
  generalize k.fallen timing now reason word = fallen at hat hn hdown
  have hfound : (b.noted now).found fallen.state = b.noted now := by
    cases h : fallen.state <;> simp_all [State.isDown, LossBook.found]
  rw [hfound]
  refine ⟨.inl ⟨?_, ?_⟩, fun hc => ?_, fun hf => ?_, fun _ => Nat.succ_pos b.count⟩
  · rw [hat, hfirst]
    show some (b.first.getD now) = (b.first <|> some now)
    cases b.first <;> rfl
  · rw [hn, hcount]
    exact (UInt32.ofNat_add b.count 1).symm
  · rcases hc with hc | hc <;> simp [hc, State.isDown] at hdown
  · simp [hf, State.isDown] at hdown

end Connection

namespace Client

open Connection (Tallies)

/-! ## Runs -/

section Runs

variable {options : Options} {words : List UInt64} {inputs : List Input}

/-- A step of a client that hears own links only is counted as it is noted. -/
theorem tallies_step {c : Client} {b : LossBook} {links : List Nat} (ht : c.connection.Timed)
    (hlinked : Linked links c.session) (hk : Tallies b links c.session) {i : Input}
    (hown : ∀ generation event, i = .link generation event → generation ∈ links) :
    Tallies (c.lossStep b i) (links ++ opened (c.step i).log) (c.step i).value.session := by
  have hturn := (step_turn ht i).2
  unfold lossStep
  cases hloses : c.loses i with
  | true =>
    obtain ⟨reason, hsession⟩ := session_of_loses hloses
    have hs : c.session.state.canBeLost = true := (Bool.and_eq_true_iff.mp hloses).1
    have hnone : opened (c.step i).log = [] := by
      refine by_contra fun hopens => ?_
      have hconnecting := (Connection.connecting_of_opens hturn hopens).2
      have hdown := (Connection.fallen_fields c.session c.options.timing c.clock reason
        c.takeWord.1).2.2
      rw [← hsession, hconnecting] at hdown
      cases hdown
    have hcounts : Tallies ((b.noted c.clock).found
        (c.session.fallen c.options.timing c.clock reason c.takeWord.1).state) links _ :=
      Connection.tallies_fallen hk hs reason c.takeWord.1
    rw [hnone, List.append_nil]
    rw [← hsession] at hcounts
    exact hcounts
  | false =>
    cases i with
    | link generation event =>
      by_cases hg : generation = c.connection.generation
      · subst hg
        have hlink := hown c.connection.generation event rfl
        have hlive : c.connection.state.isLive = true := (hlinked _ hlink).2 rfl
        exact Connection.tallies_turn hturn hk hlinked (fun _ => hlink)
          fun _ => kept_or_up_of_link hlive hloses
      · rw [step_of_older_link hg]
        have hkept := Connection.tallies_kept hk rfl rfl (Nat.le_refl _) rfl
        rwa [← List.append_nil links] at hkept
    | timers =>
      exact Connection.tallies_turn hturn hk hlinked (fun hcue => nomatch hcue) fun _ =>
        kept_or_up_of_timers ht hloses
    | _ =>
      exact Connection.tallies_turn hturn hk hlinked (fun hcue => nomatch hcue) fun hcue =>
        absurd rfl hcue

/-- In a run that hears own links only, the connection counts what the book says. -/
theorem tallies_run (h : HearsOwnLinks options words inputs) :
    let r := (fresh options words).run inputs
    Tallies (lossBookOf options words inputs) (opened r.log) r.value.session := by
  induction inputs using List.reverseRecOn with
  | nil => exact ⟨.inl ⟨rfl, rfl⟩, fun _ => rfl, fun _ => rfl, nofun⟩
  | append_singleton first i ih =>
    have hcounts := ih h.before
    intro r
    have hlog : opened r.log = _ := opened_run_snoc (fresh options words) first i
    rw [lossBookOf_snoc, hlog]
    simp only [r, run_snoc, Logged.value_bind]
    exact tallies_step (timed_run options words first).2 (linked_run options words first) hcounts
      fun generation event hi => h first generation event (hi ▸ List.prefix_refl _)

end Runs

end Client

end PresenceClient
