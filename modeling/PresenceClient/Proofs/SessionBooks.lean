-- The book of a session, kept from what a run shows: the key that the server gave last, how long
-- a session lasts without a link, and when this one was first without. What the connection keeps
-- of its session accords with the book. Only a greeting renews a session; all else that is heard,
-- asked or due leaves it, counts a loss or ends it.
import PresenceClient.Proofs.ConnectionRuns

namespace PresenceClient

open Connection (Cue Turn)

/-! ## The book -/

/-- No session is left to be resumed in this state. -/
def Connection.State.isOver : Connection.State → Bool
  | .closed | .failed => true
  | _ => false

/-- The connection has lost its link in this state and is to come up again. -/
def Connection.State.isDown : Connection.State → Bool
  | .disconnected | .suspended => true
  | _ => false

theorem Connection.State.of_isDown {s : State} (h : s.isDown = true) :
    s ≠ .initialized ∧ s.isOver = false := by
  cases s <;> simp [isDown, isOver] at h ⊢

/-- The connection is down if it is nothing else. -/
theorem Connection.State.isDown_of_not {s : State} (h : s ≠ .initialized ∧ s.isOver = false)
    (hup : s ≠ .connecting ∧ s ≠ .connected) (hc : s ≠ .closing) : s.isDown = true := by
  cases s <;> simp [isDown, isOver] at h hup hc ⊢

structure SessionBook where
  /-- The key that the server gave last since the connection was last closed or failed. -/
  key : Option String := none
  /-- How long after a loss a session can be resumed, as far as the server has said. -/
  ttl : Duration
  /-- When the connection was first lost since it was last greeted. -/
  lostAt : Option Instant := none

namespace SessionBook

/-- The server greets. What it leaves out stays. -/
def greeted (b : SessionBook) (m : Message) : SessionBook where
  key := Connection.greetedKey m <|> b.key
  ttl := ((m.connectionDetails.bind (·.connectionStateTtl)).map Duration.ofMillisInt).getD b.ttl
  lostAt := none

/-- The connection is found in a state. -/
def found (b : SessionBook) (state : Connection.State) (now : Instant) : SessionBook :=
  if state.isOver then { b with key := none, lostAt := none }
  else if state.isDown then { b with lostAt := b.lostAt <|> some now }
  else b

end SessionBook

namespace Client

/-- The greeting that an input brings, if it is one and the client heeds it. -/
def greeting? (c : Client) : Input → Option Message
  | .link generation (.message m) =>
    if generation = c.connection.generation ∧ Message.Action.ofCode? m.action = some .connected ∧
        (c.connection.state = .connecting ∨ c.connection.state = .connected) then some m
    else none
  | _ => none

/-- The book after one step more. -/
def bookStep (c : Client) (b : SessionBook) (i : Input) : SessionBook :=
  match c.greeting? i with
  | some m => b.greeted m
  | none => b.found (c.step i).value.connection.state c.clock

/-- The book after a run. -/
def book (c : Client) (b : SessionBook) : List Input → SessionBook
  | [] => b
  | i :: rest => (c.step i).value.book (c.bookStep b i) rest

theorem book_append (c : Client) (b : SessionBook) (first later : List Input) :
    c.book b (first ++ later) = (c.run first).value.book (c.book b first) later := by
  induction first generalizing c b with
  | nil => rfl
  | cons i rest ih => exact ih (c.step i).value (c.bookStep b i)

/-- As long as nobody greets, a session that is over stays over. -/
theorem key_book_of_none {c : Client} {b : SessionBook} {later : List Input} (hb : b.key = none)
    (h : ∀ first i rest, later = first ++ i :: rest → (c.run first).value.greeting? i = none) :
    (c.book b later).key = none := by
  induction later generalizing c b with
  | nil => exact hb
  | cons i rest ih =>
    refine ih ?_ fun first j others he => h (i :: first) j others (by rw [he]; rfl)
    have hnone : c.greeting? i = none := h [] i rest rfl
    rw [bookStep, hnone]
    dsimp only [SessionBook.found]
    split
    · rfl
    · split <;> exact hb

end Client

/-! ## Sessions that wane -/

namespace Connection

/-- What becomes of a session without a greeting: it is left, while the connection stays in its
state, is connecting or is closing; a loss is counted, which is the first one if there was none;
or it is over. -/
inductive Wanes (now : Instant) (k k' : Connection) : Prop
  | left (hkey : k'.key = k.key) (httl : k'.stateTtl = k.stateTtl)
      (hat : k'.disconnectedAt = k.disconnectedAt)
      (hs : k'.state = k.state ∨ k'.state = .closing ∨
        k'.state = .connecting ∧ k.state.canBecome .connecting = true)
  | lost (hkey : k'.key = k.key) (httl : k'.stateTtl = k.stateTtl)
      (hat : k'.disconnectedAt = some (k.disconnectedAt.getD now))
      (hs : k'.state = k.state ∧ k.state ≠ .connecting ∧ k.state ≠ .connected ∨
        k'.state.isDown = true ∧ k.state ≠ .closing)
  | ended (hkey : k'.key = none) (httl : k'.stateTtl = k.stateTtl) (hs : k'.state.isOver = true)

variable {timing : Timing} {now : Instant} {cue : Cue} {k k' : Connection} {opens : List Nat}

/-- Only what the link reports can greet. -/
theorem wanes_turn (h : Turn timing now cue k opens k') (hcue : cue ≠ .heard) :
    Wanes now k k' := by
  cases h with
  | rest => exact .left rfl rfl rfl (.inl rfl)
  | opened _ hs => exact .left rfl rfl rfl (.inr (.inr ⟨rfl, hs⟩))
  | disconnected reason word _ hs =>
    refine .lost rfl rfl rfl (.inr ⟨rfl, fun hc => ?_⟩)
    rw [hc] at hs
    cases hs
  | suspended _ hs =>
    refine .lost rfl rfl rfl (.inr ⟨rfl, fun hc => ?_⟩)
    rw [hc] at hs
    cases hs
  | closing => exact .left rfl rfl rfl (.inr (.inl rfl))
  | closed => exact .ended rfl rfl rfl
  | _ => exact absurd rfl hcue

theorem wanes_stirred (h : Wanes now (k.stirred timing now) k') : Wanes now k k' := by
  obtain ⟨timer, htimer⟩ : ∃ timer, k.stirred timing now = { k with timer := timer } := stirred_eq
  rw [htimer] at h
  cases h with
  | left hkey httl hat hs => exact .left hkey httl hat hs
  | lost hkey httl hat hs => exact .lost hkey httl hat hs
  | ended hkey httl hs => exact .ended hkey httl hs

theorem greeted_stirred (m : Message) :
    (k.stirred timing now).greeted timing now m = k.greeted timing now m := by
  obtain ⟨timer, htimer⟩ : ∃ timer, k.stirred timing now = { k with timer := timer } := stirred_eq
  rw [htimer]
  rfl

/-! ## What the connection keeps -/

/-- What the connection keeps of its session is what the book says. A loss counts only while
there is a session that a link could resume. -/
structure Accords (b : SessionBook) (k : Connection) : Prop where
  key : k.key = b.key
  ttl : k.stateTtl = b.ttl
  resting : k.key ≠ none → k.state ≠ .initialized ∧ k.state.isOver = false
  lostAt : k.key ≠ none → k.state ≠ .closing → k.disconnectedAt = b.lostAt
  down : k.state.isDown = true → k.disconnectedAt ≠ none

variable {b : SessionBook}

theorem accords_greeted (h : Accords b k) (m : Message) :
    Accords (b.greeted m) (k.greeted timing now m) where
  key := by
    show (greetedKey m <|> k.key) = _
    rw [h.key]
    rfl
  ttl := by
    show Option.getD _ k.stateTtl = _
    rw [h.ttl]
    rfl
  resting _ := ⟨nofun, rfl⟩
  lostAt _ _ := rfl
  down := nofun

/-- A session that is not over accords with the book in which it is found. -/
theorem accords_found (hkey : k'.key = b.key) (httl : k'.stateTtl = b.ttl)
    (hresting : k'.key ≠ none → k'.state ≠ .initialized ∧ k'.state.isOver = false)
    (hlost : k'.key ≠ none → k'.state ≠ .closing →
      k'.disconnectedAt = if k'.state.isDown then b.lostAt <|> some now else b.lostAt)
    (hdown : k'.state.isDown = true → k'.disconnectedAt ≠ none) :
    Accords (b.found k'.state now) k' := by
  cases hover : k'.state.isOver with
  | true =>
    have hnone : k'.key = none := by
      by_contra hk
      exact nomatch hover.symm.trans (hresting hk).2
    have hfound : b.found k'.state now = { b with key := none, lostAt := none } := if_pos hover
    rw [hfound]
    exact ⟨hnone, httl, fun hk => absurd hnone hk, fun hk => absurd hnone hk, hdown⟩
  | false =>
    have hfound : b.found k'.state now =
        { b with lostAt := if k'.state.isDown then b.lostAt <|> some now else b.lostAt } := by
      rw [SessionBook.found, if_neg (by simp [hover])]
      split <;> rfl
    rw [hfound]
    exact ⟨hkey, httl, hresting, hlost, hdown⟩

/-- A session that is left alone is found as it was. -/
theorem accords_left (h : Accords b k) (hkey : k'.key = k.key) (httl : k'.stateTtl = k.stateTtl)
    (hat : k'.disconnectedAt = k.disconnectedAt)
    (hs : k'.state = k.state ∨ k'.state = .closing ∨
      k'.state = .connecting ∧ k.state.canBecome .connecting = true) :
    Accords (b.found k'.state now) k' := by
  have hlost : k'.key ≠ none → k.state ≠ .closing → k'.disconnectedAt = b.lostAt := fun hk hc =>
    hat.trans (h.lostAt (hkey ▸ hk) hc)
  rcases hs with hs | hs | ⟨hs, hcan⟩
  · refine accords_found (hkey.trans h.key) (httl.trans h.ttl) (fun hk => ?_) (fun hk hc => ?_)
      fun hd => ?_
    · rw [hs]
      exact h.resting (hkey ▸ hk)
    · rw [hs] at hc ⊢
      rw [hlost hk hc]
      split
      · -- A connection that is down has a loss to its account, so the first one stays.
        rename_i hd
        have hsome := h.down hd
        rw [h.lostAt (hkey ▸ hk) hc] at hsome
        obtain ⟨lost, he⟩ := Option.ne_none_iff_exists'.mp hsome
        rw [he]
        rfl
      · rfl
    · rw [hat]
      exact h.down (hs ▸ hd)
  · refine accords_found (hkey.trans h.key) (httl.trans h.ttl) (fun _ => ?_)
      (fun _ hc => absurd hs hc) fun hd => ?_
    · rw [hs]
      exact ⟨nofun, rfl⟩
    · rw [hs] at hd
      cases hd
  · have hopen : k.state ≠ .closing := fun hc => by
      rw [hc] at hcan
      cases hcan
    refine accords_found (hkey.trans h.key) (httl.trans h.ttl) (fun _ => ?_) (fun hk _ => ?_)
      fun hd => ?_
    · rw [hs]
      exact ⟨nofun, rfl⟩
    · rw [hs]
      exact hlost hk hopen
    · rw [hs] at hd
      cases hd

/-- A loss is found as the first one if there was none. -/
theorem accords_lost (h : Accords b k) (hkey : k'.key = k.key) (httl : k'.stateTtl = k.stateTtl)
    (hat : k'.disconnectedAt = some (k.disconnectedAt.getD now))
    (hs : k'.state = k.state ∧ k.state ≠ .connecting ∧ k.state ≠ .connected ∨
      k'.state.isDown = true ∧ k.state ≠ .closing) :
    Accords (b.found k'.state now) k' := by
  have hfirst : ∀ at' : Option Instant, some (at'.getD now) = (at' <|> some now) := fun at' => by
    cases at' <;> rfl
  refine accords_found (hkey.trans h.key) (httl.trans h.ttl) (fun hk => ?_) (fun hk hc => ?_)
    fun _ => by simp [hat]
  all_goals rw [hkey] at hk
  · rcases hs with ⟨hs, -⟩ | ⟨hd, -⟩
    · rw [hs]
      exact h.resting hk
    · exact State.of_isDown hd
  · have hopen : k.state ≠ .closing ∧ k'.state.isDown = true := by
      rcases hs with ⟨hs, hrefused⟩ | ⟨hd, hs⟩
      · rw [hs] at hc ⊢
        exact ⟨hc, State.isDown_of_not (h.resting hk) hrefused hc⟩
      · exact ⟨hs, hd⟩
    rw [hat, h.lostAt hk hopen.1, if_pos hopen.2]
    exact hfirst b.lostAt

theorem accords_wanes (h : Accords b k) (hw : Wanes now k k') :
    Accords (b.found k'.state now) k' := by
  cases hw with
  | left hkey httl hat hs => exact accords_left h hkey httl hat hs
  | lost hkey httl hat hs => exact accords_lost h hkey httl hat hs
  | ended hkey httl hs =>
    have hfound : b.found k'.state now = { b with key := none, lostAt := none } := if_pos hs
    rw [hfound]
    exact ⟨hkey, httl.trans h.ttl, fun hk => absurd hkey hk, fun hk => absurd hkey hk,
      fun hd => nomatch hs.symm.trans (State.of_isDown hd).2⟩

end Connection

namespace Client

open Connection (Accords Wanes)

/-! ## Steps without a greeting -/

section Steps

variable {c : Client} {r : Logged Client} {i : Input} {m : Message}

theorem wanes_of_session (h : r.value.session = c.session) :
    Wanes c.clock c.session r.value.session := by
  rw [h]
  exact .left rfl rfl rfl (.inl rfl)

/-- A loss is counted in any state, though it may lead nowhere. -/
theorem wanes_handleLoss (reason : ErrorInfo) :
    Wanes c.clock c.session (c.handleLoss reason).value.session := by
  have hopen : ∀ {next : Connection.State}, c.session.state.canBecome next = true →
      next.isDown = true → c.session.state ≠ .closing := fun {next} hcan hd hc => by
    rw [hc] at hcan
    cases next <;> simp [Connection.State.canBecome, Connection.State.isDown] at hcan hd
  have hrefused : c.connection.state.canBecome .disconnected = false →
      ((c.session.lost c.clock).isHopeless c.options.timing c.clock = true →
        c.connection.state.canBecome .suspended = false) →
      Wanes c.clock c.session (c.handleLoss reason).value.session := fun hs hs' => by
    rw [(leads_handleLoss_refused reason hs hs').session]
    refine .lost rfl rfl rfl (.inl ⟨rfl, fun hc => ?_, fun hc => ?_⟩)
    all_goals
      rw [show c.connection.state = _ from hc] at hs
      cases hs
  cases hhope : (c.session.lost c.clock).isHopeless c.options.timing c.clock with
  | true =>
    cases hs : c.connection.state.canBecome .suspended with
    | true =>
      rw [(leads_handleLoss_hopeless reason hhope hs).session]
      exact .lost rfl rfl rfl (.inr ⟨rfl, hopen hs rfl⟩)
    | false =>
      refine hrefused ?_ fun _ => hs
      cases h : c.connection.state <;> simp [h, Connection.State.canBecome] at hs ⊢
  | false =>
    cases hs : c.connection.state.canBecome .disconnected with
    | true =>
      obtain ⟨word, h⟩ := leads_handleLoss_hopeful reason hhope hs
      rw [h.session]
      exact .lost rfl rfl rfl (.inr ⟨rfl, hopen hs rfl⟩)
    | false => exact hrefused hs fun h => absurd (hhope.symm.trans h) Bool.false_ne_true

theorem wanes_failConnection (e : ErrorInfo) :
    Wanes c.clock c.session (c.failConnection e).value.session := by
  cases hs : c.connection.state.canBecome .failed with
  | true =>
    rw [(leads_failConnection hs e).session]
    exact .ended rfl rfl rfl
  | false =>
    rw [(leads_failConnection_refused hs e).session]
    exact .left rfl rfl rfl (.inl rfl)

theorem wanes_finishClose : Wanes c.clock c.session c.finishClose.value.session := by
  cases hs : c.connection.state.canBecome .closed with
  | true =>
    rw [(leads_finishClose hs).session]
    exact .ended rfl rfl rfl
  | false =>
    rw [(leads_finishClose_refused hs).session]
    exact .left rfl rfl rfl (.inl rfl)

/-- Messages that do not greet. -/
theorem wanes_onMessage (hnot : ¬(Message.Action.ofCode? m.action = some .connected ∧
    (c.connection.state = .connecting ∨ c.connection.state = .connected))) :
    Wanes c.clock c.session (c.onMessage m).value.session := by
  have hstirred := session_resetIdleTimer (c := c)
  obtain ⟨-, hc, -⟩ := resetIdleTimer_rest (c := c)
  have hs := state_resetIdleTimer (c := c)
  suffices h : Wanes c.clock (c.session.stirred c.options.timing c.clock)
      (c.onMessage m).value.session from Connection.wanes_stirred h
  rw [← hstirred, ← hc]
  rw [← hs] at hnot
  refine onMessage_cases (fun ha => ?connected) (fun _ => ?disconnected)
    (fun _ => wanes_finishClose) (fun _ => ?error) (fun _ => wanes_of_session rfl)
    (fun _ => wanes_of_session rfl)
    (fun _ => wanes_of_session (session_onAttached m))
    (fun _ => wanes_of_session (rests_onDetached m).session) (fun _ => ?sync) (fun _ => ?presence)
    fun _ => wanes_of_session rfl
  case connected =>
    exact onConnected_cases (fun hup => absurd ⟨ha, .inr hup⟩ hnot)
      (fun hup => absurd ⟨ha, .inl hup⟩ hnot) fun _ _ => wanes_of_session rfl
  case disconnected =>
    exact onDisconnected_cases (fun _ _ => wanes_handleLoss _) fun _ _ _ => wanes_failConnection _
  case error =>
    exact onError_cases (fun _ _ => wanes_of_session (rests_failChannel _).session) fun _ =>
      wanes_failConnection _
  case sync =>
    exact onSync_cases (fun _ => wanes_of_session rfl) fun _ _ =>
      wanes_of_session (congrArg Connection.session (connection_onChannel _ _ _))
  case presence =>
    exact onPresence_cases (fun _ => wanes_of_session rfl) fun _ _ =>
      wanes_of_session (congrArg Connection.session (connection_onChannel _ _ _))

theorem wanes_onLinkEnded (e : Option ErrorInfo) :
    Wanes c.clock c.session (c.onLinkEnded e).value.session :=
  onLinkEnded_cases (fun _ _ => wanes_handleLoss _) (fun _ => wanes_finishClose) fun _ _ _ =>
    wanes_of_session rfl

theorem wanes_step (h : c.connection.Timed) (hi : c.greeting? i = none) :
    Wanes c.clock c.session (c.step i).value.session := by
  have hturn := (step_turn h i).2
  cases i with
  | link generation event =>
    refine step_link_cases (fun m hg he => ?message) (fun error _ _ => wanes_onLinkEnded error)
      fun _ => wanes_of_session rfl
    case message =>
      subst he
      refine wanes_onMessage fun hgreets => ?_
      rw [greeting?, if_pos ⟨hg, hgreets⟩] at hi
      cases hi
  | _ => exact Connection.wanes_turn hturn nofun

/-! ## Greetings -/

theorem session_of_greeting (hi : c.greeting? i = some m) :
    (c.step i).value.session = c.session.greeted c.options.timing c.clock m := by
  unfold greeting? at hi
  split at hi
  · rename_i generation m'
    split at hi
    · rename_i hgreets
      obtain ⟨hg, ha, hs⟩ := hgreets
      cases hi
      obtain ⟨ho, hc, -⟩ := resetIdleTimer_rest (c := c)
      have hs' : c.resetIdleTimer.connection.state = .connecting ∨
          c.resetIdleTimer.connection.state = .connected := by
        rw [state_resetIdleTimer]
        exact hs
      subst hg
      rw [step_of_link, onMessage_of_connected ha, (leads_greet m hs').session, ho, hc,
        session_resetIdleTimer, Connection.greeted_stirred]
    · cases hi
  · cases hi

end Steps

/-! ## Runs -/

theorem accords_step {c : Client} {b : SessionBook} (ht : c.connection.Timed)
    (h : Accords b c.session) (i : Input) :
    Accords (c.bookStep b i) (c.step i).value.session := by
  unfold bookStep
  split
  · rename_i m hm
    rw [session_of_greeting hm]
    exact Connection.accords_greeted h m
  · rename_i hnone
    exact Connection.accords_wanes h (wanes_step ht hnone)

/-- The book of a run, from its beginning on. -/
def bookOf (options : Options) (words : List UInt64) (inputs : List Input) : SessionBook :=
  (fresh options words).book { ttl := options.timing.defaultStateTtl } inputs

/-- In every run, what the connection keeps of its session is what the book says. -/
theorem accords_run (options : Options) (words : List UInt64) (inputs : List Input) :
    Accords (bookOf options words inputs) ((fresh options words).run inputs).value.session := by
  induction inputs using List.reverseRecOn with
  | nil => exact ⟨rfl, rfl, fun h => absurd rfl h, fun _ _ => rfl, nofun⟩
  | append_singleton first i ih =>
    rw [bookOf, book_append, run_snoc, Logged.value_bind]
    exact accords_step (timed_run options words first).2 ih i

/-- From a close or a failure to the next greeting there is no key. -/
theorem key_bookOf_eq_none {options : Options} {words : List UInt64} {first later : List Input}
    (hover : ((fresh options words).run first).value.connection.state.isOver = true)
    (hnone : ∀ before i after, later = before ++ i :: after →
      ((fresh options words).run (first ++ before)).value.greeting? i = none) :
    (bookOf options words (first ++ later)).key = none := by
  have haccords := accords_run options words first
  have hfirst : (bookOf options words first).key = none := by
    by_contra hkey
    exact nomatch hover.symm.trans (haccords.resting (haccords.key ▸ hkey)).2
  rw [bookOf, book_append]
  refine key_book_of_none hfirst fun before i after hlater => ?_
  have hafter := hnone before i after hlater
  rwa [run_append, Logged.value_bind] at hafter

end Client

end PresenceClient
