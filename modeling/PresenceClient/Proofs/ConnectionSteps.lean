-- Each step of the client is a turn of its connection: it connects, is greeted, loses its
-- link, fails or is closed. Only the link or the timer of the connection takes it down.
import PresenceClient.Proofs.ConnectionCases
import PresenceClient.Proofs.ConnectionFrames

namespace PresenceClient.Client

open Connection (Cue Turn)
open Logged (tell)

/-- The connection has a turn, and whoever is present stays or is forgotten. -/
def Steers (cue : Cue) (c : Client) (r : Logged Client) : Prop :=
  ∃ links k, Leads c r links k ∧ Turn c.options.timing c.clock cue c.session links k

/-- The connection has a turn that does not depend on the timer that ran before. -/
def Renews (cue : Cue) (c : Client) (r : Logged Client) : Prop :=
  ∃ links k, Leads c r links k ∧
    ∀ timer, Turn c.options.timing c.clock cue { c.session with timer := timer } links k

section Steers

variable {c d : Client} {r : Logged Client} {cue : Cue} {name : String} {ch : Channel}
  {links : List Nat} {k : Connection}

theorem Leads.steers (h : Leads c r links k)
    (ht : Turn c.options.timing c.clock cue c.session links k) : Steers cue c r := ⟨links, k, h, ht⟩

theorem Rests.steers (h : Rests c r) : Steers cue c r := Leads.steers h .rest

theorem Renews.steers (h : Renews cue c r) : Steers cue c r := by
  obtain ⟨links, k, hl, ht⟩ := h
  exact ⟨links, k, hl, ht c.session.timer⟩

/-- The timer is cleared before a turn that does not depend on it. -/
theorem Renews.unset (timer : Option (Alarm Connection.Timer))
    (h : Renews cue (c.setTimer timer) r) : Renews cue c r := by
  obtain ⟨links, k, hl, ht⟩ := h
  exact ⟨links, k, leads_from hl rfl rfl fun _ => .inl rfl, ht⟩

theorem steers_rests {x : Logged Client} {f : Client → Logged Client} (h1 : Steers cue c x)
    (h2 : Rests x.value (f x.value)) : Steers cue c (x >>= f) := by
  obtain ⟨links, k, hl, ht⟩ := h1
  exact ⟨links, k, leads_rests hl h2, ht⟩

theorem steers_channel {x : Logged Channel} {f : Channel → Logged Client} (hx : ch.Hushed x)
    (hr : ch.roster = c.roster name) (h : Steers cue (c.setChannel name x.value) (f x.value)) :
    Steers cue c (x >>= f) := by
  obtain ⟨links, k, hl, ht⟩ := h
  exact ⟨links, k, leads_channel hx hr hl, ht⟩

theorem steers_set (h : Steers cue (c.setChannel name ch) r)
    (hr : ch.roster = c.roster name ∨ ch.roster = {}) : Steers cue c r := by
  obtain ⟨links, k, hl, ht⟩ := h
  exact ⟨links, k, leads_set hl hr, ht⟩

theorem steers_ensure (h : Steers cue (c.ensureChannel name) r) : Steers cue c r :=
  steers_set h (.inl rfl)

end Steers

/-! ## Small steps of the connection -/

section Small

variable {c : Client}

/-- Where there is a way, the connection goes it. -/
theorem leads_become {next : Connection.State} (h : c.connection.state.canBecome next = true)
    (reason : Option ErrorInfo) (retryIn : Option Duration) :
    Leads c (c.become next reason retryIn) [] (c.session.enter next reason) :=
  become_cases (fun _ => leads_quiet (mute_publish _ _ nofun) (leads_same rfl rfl rfl))
    fun hno => absurd h (Bool.eq_false_iff.mp hno)

theorem leads_dropLink : Leads c c.dropLink [] c.session.dropped :=
  leads_quiet (mute_singleton rfl rfl) (leads_same rfl rfl rfl)

/-- The connection changes, and what awaits an acknowledgement fails. -/
theorem leads_settle (connection : Connection) (e : ErrorInfo) :
    Leads c ({ c with connection := connection }.failPending e) [] connection.session :=
  leads_quiet (mute_resolveEach _ _ _) (leads_same rfl rfl rfl)

theorem session_resetIdleTimer : c.resetIdleTimer.session =
    c.session.stirred c.options.timing c.clock := by
  unfold Connection.stirred
  refine resetIdleTimer_cases (fun h => ?_) fun h => ?_
  · exact (if_pos h).symm
  · exact (if_neg (Bool.eq_false_iff.mp h)).symm

theorem state_resetIdleTimer : c.resetIdleTimer.connection.state = c.connection.state :=
  resetIdleTimer_cases (fun _ => rfl) fun _ => rfl

theorem resetIdleTimer_rest : c.resetIdleTimer.options = c.options ∧
    c.resetIdleTimer.clock = c.clock ∧ c.resetIdleTimer.channels = c.channels :=
  resetIdleTimer_cases (fun _ => ⟨rfl, rfl, rfl⟩) fun _ => ⟨rfl, rfl, rfl⟩

end Small

/-! ## Connecting -/

section Turns

variable {c : Client} {r : Logged Client} {cue : Cue} {name : String}

theorem leads_openLink : Leads c (do
      let c ← c.dropLink
      tell [.openLink c.connection.generation c.linkParams]
      pure (c.setTimer (some (Alarm.after c.clock c.options.timing.connectTimeout
        .connectTimeout)))) [c.session.generation + 1]
    { c.session.dropped with
      timer := some (Alarm.after c.clock c.options.timing.connectTimeout .connectTimeout) } :=
  ⟨⟨rfl, rfl, rfl, rfl⟩, fun _ => .inl rfl, rfl⟩

theorem leads_startConnecting (hs : c.connection.state.canBecome .connecting = true) :
    Leads c c.startConnecting [c.session.generation + 1]
      (c.session.opened c.options.timing c.clock) := by
  refine startConnecting_cases (fun _ => ?_) fun hno => absurd hs (Bool.eq_false_iff.mp hno)
  refine leads_then (leads_become hs none none) fun d ho hc hk => ?_
  have h := leads_openLink (c := d)
  rw [hk, ho, hc] at h
  exact h

theorem renews_startConnecting (hcue : cue ≠ .heard)
    (hs : c.connection.state.canBecome .connecting = true) : Renews cue c c.startConnecting :=
  ⟨[c.session.generation + 1], c.session.opened c.options.timing c.clock, leads_startConnecting hs,
    fun timer => .opened (k := { c.session with timer := timer }) hcue hs⟩

theorem steers_connect : Steers .asked c c.connect := by
  refine connect_cases (fun _ => rests_pure.steers) fun h1 h2 h3 => ?_
  refine (renews_startConnecting (by simp) ?_).steers
  cases hs : c.connection.state with
  | connecting => exact absurd hs h1
  | connected => exact absurd hs h2
  | closing => exact absurd hs h3
  | _ => rfl

/-- The first attach connects. -/
theorem steers_beginAttach {ch : Channel} (hr : ch.roster = c.roster name)
    (waiters : List Responder) : Steers .asked c (c.beginAttach name ch waiters) :=
  beginAttach_cases
    (fun _ => steers_channel (Channel.hushed_toAttaching ch waiters) hr rests_sendAttach.steers)
    (fun _ => steers_channel (Channel.hushed_toAttaching ch waiters) hr steers_connect)
    fun _ _ => steers_channel (Channel.hushed_toAttaching ch waiters) hr rests_pure.steers

theorem steers_attachChannel (waiters : List Responder) :
    Steers .asked c (c.attachChannel name waiters) := by
  have hr := (roster_ensureChannel c name name).symm
  refine attachChannel_cases (fun _ => ?done) (fun _ => ?joins) (fun _ _ => ?refused)
    fun _ _ _ => ?begins
  all_goals refine steers_ensure (?_ : Steers .asked (c.ensureChannel name) _)
  case done => exact (rests_told (mute_resolveEach _ id _) rests_pure).steers
  case joins =>
    have hput : Rests (c.ensureChannel name) (pure ((c.ensureChannel name).setChannel name
      ((c.channelOrNew name).awaitAttach waiters))) := rests_put (.inl hr)
    exact hput.steers
  case refused => exact (rests_told (mute_resolveEach _ id _) rests_pure).steers
  case begins => exact steers_beginAttach hr waiters

/-! ## Losing the link -/

/-- Where there is no way to a state, entering it does nothing. -/
theorem rests_enterSuspended (hs : c.connection.state.canBecome .suspended = false) :
    Rests c c.enterSuspended :=
  enterSuspended_cases (fun h => absurd h (Bool.eq_false_iff.mp hs)) fun _ => rests_pure

theorem rests_enterDisconnected (reason : ErrorInfo)
    (hs : c.connection.state.canBecome .disconnected = false) :
    Rests c (c.enterDisconnected reason) :=
  enterDisconnected_cases (fun h => absurd h (Bool.eq_false_iff.mp hs))
    (fun h => absurd h (Bool.eq_false_iff.mp hs)) fun _ => leads_same rfl rfl rfl

theorem leads_loseLink : Leads c c.loseLink [] (c.session.lost c.clock) :=
  leads_quiet (mute_singleton rfl rfl) (leads_same rfl rfl rfl)

theorem leads_enterSuspended (hs : c.connection.state.canBecome .suspended = true) :
    Leads c c.enterSuspended [] (c.session.suspended c.options.timing c.clock) := by
  refine enterSuspended_cases (fun _ => ?_) fun hno => absurd hs (Bool.eq_false_iff.mp hno)
  refine leads_then (leads_become hs _ _) fun d ho hc hk => ?_
  rw [Connection.suspended, ← hk, ← hc]
  exact leads_rests (leads_settle _ _) (rests_foldlM (fun _ _ => rests_suspendUnder _) _)

/-- The next attempt is waited for, and queued operations may have to fail. -/
theorem leads_enterDisconnected (reason : ErrorInfo)
    (hs : c.connection.state.canBecome .disconnected = true) :
    Leads c (c.enterDisconnected reason) []
      (c.session.disconnected c.options.timing c.clock reason c.takeWord.1) := by
  have hbecome := leads_become (c := c.takeWord.2) hs (some reason) (some c.nextWait)
  have hset : ∀ d : Client, d.clock = c.clock →
      d.session = c.takeWord.2.session.enter .disconnected (some reason) →
      (d.setTimer (some (Alarm.after d.clock c.nextWait .retry))).session =
        c.session.disconnected c.options.timing c.clock reason c.takeWord.1 := by
    intro d hc hk
    show { d.session with timer := some (Alarm.after d.clock c.nextWait .retry) } = _
    rw [hk, hc]
    rfl
  refine leads_from (d := c.takeWord.2) ?_ rfl rfl fun _ => .inl rfl
  refine enterDisconnected_cases (fun _ _ => ?keeps) (fun _ _ => ?drops)
    fun hno => absurd hs (Bool.eq_false_iff.mp hno)
  case keeps =>
    refine leads_then hbecome fun d _ hc hk => ?_
    rw [← hset d hc hk]
    exact leads_same rfl rfl rfl
  case drops =>
    refine leads_then hbecome fun d _ hc hk => ?_
    rw [← hset d hc hk]
    have h : Rests (d.setTimer (some (Alarm.after d.clock c.nextWait .retry))) _ :=
      rests_foldlM (fun _ name => rests_failQueue name reason) d.channels.keys
    exact leads_from h rfl rfl fun _ => .inl rfl

section Loss

variable (reason : ErrorInfo)

theorem state_of_session {d : Client} {k : Connection} (hk : d.session = k) :
    d.connection.state = k.state := by
  rw [← hk]
  rfl

theorem leads_handleLoss_hopeless
    (hhope : (c.session.lost c.clock).isHopeless c.options.timing c.clock = true)
    (hs : c.connection.state.canBecome .suspended = true) : Leads c (c.handleLoss reason) []
      ((c.session.lost c.clock).suspended c.options.timing c.clock) := by
  refine handleLoss_cases (fun _ => ?_) fun hno => absurd hhope (Bool.eq_false_iff.mp hno)
  refine leads_then leads_loseLink fun d ho hc hk => ?_
  have h := leads_enterSuspended (c := d) (by rw [state_of_session hk]; exact hs)
  rwa [hk, ho, hc] at h

/-- The wait for the next attempt is shortened by the next random word. -/
theorem leads_handleLoss_next
    (hhope : (c.session.lost c.clock).isHopeless c.options.timing c.clock = false)
    (hs : c.connection.state.canBecome .disconnected = true) : Leads c (c.handleLoss reason) []
      ((c.session.lost c.clock).disconnected c.options.timing c.clock reason c.takeWord.1) :=
  handleLoss_cases (fun hno => absurd hno (Bool.eq_false_iff.mp hhope)) fun _ =>
    leads_bind leads_loseLink (leads_enterDisconnected (c := c.loseLink.value) reason hs)

theorem leads_handleLoss_hopeful
    (hhope : (c.session.lost c.clock).isHopeless c.options.timing c.clock = false)
    (hs : c.connection.state.canBecome .disconnected = true) :
    ∃ word, Leads c (c.handleLoss reason) []
      ((c.session.lost c.clock).disconnected c.options.timing c.clock reason word) :=
  ⟨c.takeWord.1, leads_handleLoss_next reason hhope hs⟩

/-- A loss that is not heeded is counted all the same. -/
theorem leads_handleLoss_refused
    (hs : c.connection.state.canBecome .disconnected = false)
    (hs' : (c.session.lost c.clock).isHopeless c.options.timing c.clock = true →
      c.connection.state.canBecome .suspended = false) :
    Leads c (c.handleLoss reason) [] (c.session.lost c.clock) :=
  handleLoss_cases
    (fun hhope => leads_rests leads_loseLink (rests_enterSuspended (c := c.loseLink.value)
      (hs' hhope)))
    fun _ => leads_rests leads_loseLink (rests_enterDisconnected (c := c.loseLink.value) reason hs)

/-- A loss takes a live connection down, for a while or for longer. -/
theorem renews_handleLoss (hcue : cue ≠ .asked)
    (hs : c.connection.state = .connecting ∨ c.connection.state = .connected) :
    Renews cue c (c.handleLoss reason) := by
  have hcan : c.connection.state.canBecome .disconnected = true ∧
      c.connection.state.canBecome .suspended = true := by
    rcases hs with hs | hs <;> rw [hs] <;> exact ⟨rfl, rfl⟩
  cases hhope : (c.session.lost c.clock).isHopeless c.options.timing c.clock with
  | true =>
    exact ⟨_, _, leads_handleLoss_hopeless reason hhope hcan.2, fun timer =>
      .suspended (k := { c.session with timer := timer }) hcue hcan.2 hhope⟩
  | false =>
    obtain ⟨word, h⟩ := leads_handleLoss_hopeful reason hhope hcan.1
    exact ⟨_, _, h, fun timer =>
      .disconnected (k := { c.session with timer := timer }) reason word hcue hcan.1 hhope⟩

/-- A loss that the link reports. -/
theorem steers_handleLoss : Steers .heard c (c.handleLoss reason) := by
  by_cases hlive : c.connection.state = .connecting ∨ c.connection.state = .connected
  · exact (renews_handleLoss reason (by simp) hlive).steers
  · have hs : c.connection.state.canBecome .disconnected = false := by
      cases hs : c.connection.state <;> simp_all [Connection.State.canBecome]
    by_cases hheeded : (c.session.lost c.clock).isHopeless c.options.timing c.clock = true ∧
        c.connection.state.canBecome .suspended = true
    · exact (leads_handleLoss_hopeless reason hheeded.1 hheeded.2).steers
        (.suspended (by simp) hheeded.2 hheeded.1)
    · have hs' : (c.session.lost c.clock).isHopeless c.options.timing c.clock = true →
          c.connection.state.canBecome .suspended = false := fun hhope =>
        eq_false_of_ne_true fun hcan => hheeded ⟨hhope, hcan⟩
      exact (leads_handleLoss_refused reason hs hs').steers (.lossRefused (not_or.mp hlive))

end Loss

/-! ## Failing and closing -/

theorem leads_failConnection (hs : c.connection.state.canBecome .failed = true) (e : ErrorInfo) :
    Leads c (c.failConnection e) [] (c.session.failed e) := by
  refine failConnection_cases (fun _ => ?_) fun hno => absurd hs (Bool.eq_false_iff.mp hno)
  refine leads_then leads_dropLink fun d _ _ hk => ?_
  have hs' : d.connection.state.canBecome .failed = true := by
    rw [state_of_session hk]
    exact hs
  refine leads_then (leads_become hs' _ _) fun b _ _ hb => ?_
  rw [Connection.failed, ← hk, ← hb]
  exact leads_rests (leads_settle _ _) (rests_foldlM (fun _ _ => rests_failUnder e) _)

/-- Where there is no way to fail, the link is given up all the same. -/
theorem leads_failConnection_refused (hs : c.connection.state.canBecome .failed = false)
    (e : ErrorInfo) : Leads c (c.failConnection e) [] c.session.dropped :=
  failConnection_cases (fun h => absurd h (Bool.eq_false_iff.mp hs)) fun _ => leads_dropLink

theorem steers_failConnection (e : ErrorInfo) : Steers .heard c (c.failConnection e) := by
  cases hs : c.connection.state.canBecome .failed with
  | true => exact (leads_failConnection hs e).steers (.failed e hs)
  | false => exact (leads_failConnection_refused hs e).steers (.failRefused hs)

theorem rests_detachOnClose (e : ErrorInfo) : Rests c (c.onChannel name (detachOnClose e)) :=
  rests_onChannel fun ch => Channel.hushed_detachOnClose ch e

theorem leads_finishClose (hs : c.connection.state.canBecome .closed = true) :
    Leads c c.finishClose [] c.session.closed := by
  refine finishClose_cases (fun _ => ?_) fun hno => absurd hs (Bool.eq_false_iff.mp hno)
  refine leads_then leads_dropLink fun d _ _ hk => ?_
  have hs' : d.connection.state.canBecome .closed = true := by
    rw [state_of_session hk]
    exact hs
  refine leads_then (leads_become hs' _ _) fun b _ _ hb => ?_
  rw [Connection.closed, ← hk, ← hb]
  exact leads_rests (leads_settle _ _) (rests_foldlM (fun _ _ => rests_detachOnClose _) _)

theorem leads_finishClose_refused (hs : c.connection.state.canBecome .closed = false) :
    Leads c c.finishClose [] c.session.dropped :=
  finishClose_cases (fun h => absurd h (Bool.eq_false_iff.mp hs)) fun _ => leads_dropLink

theorem renews_finishClose (hs : c.connection.state.canBecome .closed = true) :
    Renews cue c c.finishClose :=
  ⟨[], c.session.closed, leads_finishClose hs, fun timer =>
    .closed (k := { c.session with timer := timer }) hs⟩

/-- The server says that the connection is closed, whether it was asked for or not. -/
theorem steers_finishClose (h : c.session.stirred c.options.timing c.clock = c.session) :
    Steers .heard c c.finishClose := by
  cases hs : c.connection.state.canBecome .closed with
  | true => exact (renews_finishClose hs).steers
  | false =>
    have hrest := leads_finishClose_refused hs
    rw [← h] at hrest
    exact hrest.steers (.closeRefused hs)

theorem steers_close : Steers .asked c c.close := by
  refine close_cases (fun _ => rests_pure.steers) (fun hs => ?asks) fun h1 h2 h3 => ?closes
  case asks =>
    have hcan : c.connection.state.canBecome .closing = true := by rw [hs]; rfl
    refine Leads.steers (leads_then (leads_become hcan _ _) fun d ho hc hk => ?_) (.closing hs)
    rw [Connection.closing, ← hk, ← ho, ← hc]
    exact leads_quiet (mute_singleton rfl rfl) (leads_same rfl rfl rfl)
  case closes =>
    refine (renews_finishClose ?_).steers
    cases hs : c.connection.state with
    | closing => exact absurd hs h1
    | closed => exact absurd hs h2
    | connected => exact absurd hs h3
    | _ => rfl

/-! ## Coming up -/

theorem rests_resend (resumed : Bool) (e : Unacked) : Rests c (resend resumed c e) := by
  refine leads_quiet (mute_singleton rfl rfl) ?_
  cases resumed <;> exact leads_same rfl rfl rfl

theorem rests_resendPending (resumed : Bool) : Rests c (c.resendPending resumed) := by
  have h : Rests { c with pending := {} } (c.resendPending resumed) :=
    rests_foldlM (fun _ e => rests_resend resumed e) _
  exact leads_from h rfl rfl fun _ => .inl rfl

/-- On a new link only the serials may begin anew. -/
theorem rests_linkUp (resumed : Bool) : Rests c (c.linkUp resumed) := by
  have hup : ∀ d : Client, Rests d (d.resendPending resumed >>= fun d =>
      d.forNames d.channels.keys (onLinkUp resumed)) := fun d =>
    rests_bind (rests_resendPending resumed) (rests_foldlM (fun _ _ => rests_onLinkUp resumed) _)
  refine linkUp_cases (fun h => ?again) fun h => ?anew
  all_goals cases h
  case again => exact hup c
  case anew => exact leads_from (hup c.renumbered) rfl rfl fun _ => .inl rfl

theorem leads_greet (m : Message)
    (hs : c.connection.state = .connecting ∨ c.connection.state = .connected) :
    Leads c (c.onConnected m) [] (c.session.greeted c.options.timing c.clock m) := by
  have hcan : (c.greeted m).connection.state.canBecome .connected = true := by
    rcases hs with hs | hs <;> simp [greeted, Connection.greet, hs, Connection.State.canBecome]
  have hgreet : ∀ {f : Client → Logged Client}, (∀ d, Rests d.resetIdleTimer (f d)) →
      Leads c ((c.greeted m).become .connected m.error none >>= f) []
        (c.session.greeted c.options.timing c.clock m) := by
    intro f hf
    have hbecome : Leads c ((c.greeted m).become .connected m.error none) [] _ :=
      leads_from (leads_become hcan m.error none) rfl rfl fun _ => .inl rfl
    refine leads_then hbecome fun d ho hc hk => ?_
    obtain ⟨ho', hc', hch'⟩ := resetIdleTimer_rest (c := d)
    have h := hf d
    unfold Rests at h
    rw [session_resetIdleTimer, hk, ho, hc] at h
    exact leads_from h ho' hc' fun name => .inl (roster_of_channels hch' name)
  refine onConnected_cases (fun _ => hgreet fun d => rests_pure)
    (fun _ => hgreet fun d => rests_linkUp _) fun h1 h2 => absurd hs (not_or.mpr ⟨h1, h2⟩)

theorem steers_onConnected (m : Message) : Steers .heard c (c.onConnected m) := by
  by_cases hs : c.connection.state = .connecting ∨ c.connection.state = .connected
  · exact (leads_greet m hs).steers (.greeted m hs)
  · exact onConnected_cases (fun h => absurd (.inr h) hs) (fun h => absurd (.inl h) hs)
      fun _ _ => rests_pure.steers

/-! ## What the link and the timer report -/

theorem steers_onDisconnected (e : Option ErrorInfo) : Steers .heard c (c.onDisconnected e) :=
  onDisconnected_cases (fun _ _ => steers_handleLoss _) fun _ _ _ => steers_failConnection _

theorem steers_onLinkEnded (e : Option ErrorInfo) : Steers .heard c (c.onLinkEnded e) := by
  refine onLinkEnded_cases (fun _ _ => steers_handleLoss _) (fun hs => ?_)
    fun _ _ _ => rests_pure.steers
  exact (renews_finishClose (by rw [hs]; rfl)).steers

/-- The timer that runs is that of the state, so what it does is never refused. -/
theorem steers_fireConnectionTimer (h : c.connection.Timed) (now : Instant) :
    Steers .due c (c.fireConnectionTimer now) := by
  refine fireConnectionTimer_cases (fun alarm htimer _ => ?_) fun _ => rests_pure.steers
  have hkind : c.connection.state.awaits = some alarm.kind := by
    rw [← h, htimer]
    rfl
  refine onConnectionTimer_cases (fun reason hk => ?lost) (fun hk => ?retries) fun hk => ?closes
  all_goals refine (Renews.unset none ?_).steers
  case lost =>
    refine renews_handleLoss (c := c.setTimer none) reason (by simp) ?_
    show c.connection.state = _ ∨ c.connection.state = _
    rcases hk with hk | hk
    all_goals
      rw [hk] at hkind
      cases hs : c.connection.state <;> simp_all [Connection.State.awaits]
  case retries =>
    refine renews_startConnecting (c := c.setTimer none) (by simp) ?_
    show c.connection.state.canBecome _ = true
    cases hs : c.connection.state <;>
      simp_all [Connection.State.awaits, Connection.State.canBecome]
  case closes =>
    refine renews_finishClose (c := c.setTimer none) ?_
    show c.connection.state.canBecome _ = true
    cases hs : c.connection.state <;>
      simp_all [Connection.State.awaits, Connection.State.canBecome]

/-- The timers that are due fire, the connection's first. -/
theorem steers_fireTimers (h : c.connection.Timed) (now : Instant) :
    Steers .due c (c.fireTimers now) :=
  steers_rests (steers_fireConnectionTimer h now)
    (rests_foldlM (fun _ _ => rests_onChannelTimer) _)

end Turns

end PresenceClient.Client
