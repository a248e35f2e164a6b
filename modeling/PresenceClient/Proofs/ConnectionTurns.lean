-- The turns of a connection: all that a step of the client can do to it, serials apart, with
-- the links that it opens. A turn may be refused and still count a loss or give up a link.
-- What each turn keeps, every run keeps.
import PresenceClient.Backoff
import PresenceClient.Cause
import PresenceClient.Connection
import PresenceClient.Options

namespace PresenceClient.Connection

/-! ## What a turn makes of the connection -/

section Results

variable (k : Connection) (timing : Timing) (now : Instant)

/-- Serials apart. -/
def session : Connection := { k with nextSerial := 0 }

/-- A message puts off the time at which a live link counts as lost. -/
def stirred : Connection :=
  if k.isConnected then
    { k with timer := some (Alarm.after now (k.maxIdle + timing.heartbeatMargin) .idle) }
  else k

/-- Go to a state. Coming up and closing clear the reason that another state left. -/
def enter (next : State) (reason : Option ErrorInfo) : Connection :=
  { k with
    state := next
    errorReason := reason <|> if next = .connected ∨ next = .closed then none else k.errorReason }

/-- The link is given up. -/
def dropped : Connection := { k with generation := k.generation + 1 }

/-- A new link is opened, in place of the one there was. -/
def opened : Connection :=
  { (k.enter .connecting none).dropped with
    timer := some (Alarm.after now timing.connectTimeout .connectTimeout) }

/-- The server greets. -/
def greeted (m : Message) : Connection :=
  ({ k.greet m with retryAttempts := 0, disconnectedAt := none }.enter .connected m.error).stirred
    timing now

/-- A loss is counted, and the first one is noted. -/
def lost : Connection :=
  { k.dropped with
    disconnectedAt := some (k.disconnectedAt.getD now)
    retryAttempts := k.retryAttempts + 1 }

/-- There have been too many losses, or the first one is too long ago. -/
def isHopeless : Bool :=
  decide (timing.maxAttempts < k.retryAttempts) ||
    k.disconnectedAt.any fun lost => decide (k.stateTtl ≤ now.elapsed lost)

/-- The next attempt comes after a wait that a random word shortens. -/
def disconnected (reason : ErrorInfo) (word : UInt64) : Connection :=
  { k.enter .disconnected (some reason) with
    timer := some (Alarm.after now
      (Backoff.delay timing.disconnectedRetry k.retryAttempts word) .retry) }

def suspended : Connection :=
  { k.enter .suspended (some Cause.unavailable.info) with
    timer := some (Alarm.after now timing.suspendedRetry .retry) }

def failed (error : ErrorInfo) : Connection := (k.dropped.enter .failed (some error)).endSession

def closed : Connection :=
  { (k.dropped.enter .closed none).endSession with retryAttempts := 0 }

/-- The server is told of the close and may answer. -/
def closing : Connection :=
  { k.enter .closing none with
    timer := some (Alarm.after now timing.requestTimeout .closeTimeout) }

end Results

/-! ## The turns -/

/-- What gives the connection its turn. -/
inductive Cue where
  /-- Something else than its link or its timer. -/
  | asked
  /-- The link has something to report. -/
  | heard
  /-- The timer may be due. -/
  | due

/-- One turn of a connection: the connection before it, the links opened, and the connection
after it. -/
inductive Turn (timing : Timing) (now : Instant) :
    Cue → Connection → List Nat → Connection → Prop
  | rest {cue : Cue} {k : Connection} : Turn timing now cue k [] k
  | stirred {k : Connection} : Turn timing now .heard k [] (k.stirred timing now)
  | opened {cue : Cue} {k : Connection} (hcue : cue ≠ .heard)
      (hs : k.state.canBecome .connecting = true) :
      Turn timing now cue k [k.generation + 1] (k.opened timing now)
  | greeted {k : Connection} (m : Message) (hs : k.state = .connecting ∨ k.state = .connected) :
      Turn timing now .heard k [] (k.greeted timing now m)
  | disconnected {cue : Cue} {k : Connection} (reason : ErrorInfo) (word : UInt64)
      (hcue : cue ≠ .asked) (hs : k.state.canBecome .disconnected = true)
      (hhope : (k.lost now).isHopeless timing now = false) :
      Turn timing now cue k [] ((k.lost now).disconnected timing now reason word)
  | suspended {cue : Cue} {k : Connection} (hcue : cue ≠ .asked)
      (hs : k.state.canBecome .suspended = true)
      (hhope : (k.lost now).isHopeless timing now = true) :
      Turn timing now cue k [] ((k.lost now).suspended timing now)
  | lossRefused {k : Connection} (hs : k.state ≠ .connecting ∧ k.state ≠ .connected) :
      Turn timing now .heard k [] (k.lost now)
  | failed {k : Connection} (error : ErrorInfo) (hs : k.state.canBecome .failed = true) :
      Turn timing now .heard k [] (k.failed error)
  | failRefused {k : Connection} (hs : k.state.canBecome .failed = false) :
      Turn timing now .heard k [] k.dropped
  | closing {k : Connection} (hs : k.state = .connected) :
      Turn timing now .asked k [] (k.closing timing now)
  | closed {cue : Cue} {k : Connection} (hs : k.state.canBecome .closed = true) :
      Turn timing now cue k [] k.closed
  | closeRefused {k : Connection} (hs : k.state.canBecome .closed = false) :
      Turn timing now .heard k [] (k.stirred timing now).dropped

variable {timing : Timing} {now : Instant} {cue : Cue} {k k' : Connection} {opens : List Nat}

/-! ## Stirring -/

@[simp] theorem stirred_fields (k : Connection) (timing : Timing) (now : Instant) :
    (k.stirred timing now).state = k.state ∧ (k.stirred timing now).id = k.id ∧
      (k.stirred timing now).key = k.key ∧
      (k.stirred timing now).disconnectedAt = k.disconnectedAt ∧
      (k.stirred timing now).retryAttempts = k.retryAttempts ∧
      (k.stirred timing now).generation = k.generation := by
  unfold stirred
  split <;> simp

theorem stirred_of_not_connected (h : k.state ≠ .connected) : k.stirred timing now = k := by
  simp [stirred, isConnected, h]

theorem stirred_stirred :
    (k.stirred timing now).stirred timing now = k.stirred timing now := by
  by_cases h : k.state = .connected
  · simp [stirred, isConnected, h]
  · rw [stirred_of_not_connected h, stirred_of_not_connected h]

/-- All but the timer is as it was. -/
theorem stirred_eq : ∃ timer, k.stirred timing now = { k with timer := timer } := by
  unfold stirred
  split
  · exact ⟨_, rfl⟩
  · exact ⟨k.timer, rfl⟩

/-- A turn that a message gives is one of the connection before the message. -/
theorem turn_stirred (h : Turn timing now .heard (k.stirred timing now) opens k') :
    Turn timing now .heard k opens k' := by
  have hrest : k.state ≠ .connected → k.stirred timing now = k := stirred_of_not_connected
  obtain ⟨timer, htimer⟩ : ∃ timer, k.stirred timing now = { k with timer := timer } := stirred_eq
  -- Where a state is entered the timer is set anew, so it does not matter what it was.
  generalize hstirred : k.stirred timing now = k₀ at h
  cases h with
  | rest => exact hstirred ▸ .stirred
  | stirred =>
    rw [← hstirred, stirred_stirred]
    exact .stirred
  | opened hcue hs => exact absurd rfl hcue
  | greeted m hs =>
    rw [← hstirred, htimer] at hs ⊢
    exact .greeted m hs
  | disconnected reason word hcue hs hhope =>
    rw [← hstirred, htimer] at hs hhope ⊢
    exact .disconnected reason word hcue hs hhope
  | suspended hcue hs hhope =>
    rw [← hstirred, htimer] at hs hhope ⊢
    exact .suspended hcue hs hhope
  | lossRefused hs =>
    rw [← hstirred, (stirred_fields k timing now).1] at hs
    rw [← hstirred, hrest hs.2]
    exact .lossRefused hs
  | failed error hs =>
    rw [← hstirred, htimer] at hs ⊢
    exact .failed error hs
  | failRefused hs =>
    rw [← hstirred, (stirred_fields k timing now).1] at hs
    rw [← hstirred, hrest fun hc => by simp [hc, State.canBecome] at hs]
    exact .failRefused hs
  | closed hs =>
    rw [← hstirred, htimer] at hs ⊢
    exact .closed hs
  | closeRefused hs =>
    rw [← hstirred, (stirred_fields k timing now).1] at hs
    rw [← hstirred, stirred_stirred]
    exact .closeRefused hs

/-! ## The timer of the state -/

/-- What a connection in a state waits for. -/
def State.awaits : State → Option Timer
  | .connecting => some .connectTimeout
  | .connected => some .idle
  | .disconnected | .suspended => some .retry
  | .closing => some .closeTimeout
  | .initialized | .closed | .failed => none

/-- The timer that runs is that of the state. -/
def Timed (k : Connection) : Prop := k.timer.map (·.kind) = k.state.awaits

theorem timed_stirred (h : k.Timed) : (k.stirred timing now).Timed := by
  unfold stirred
  split
  · rename_i hc
    have hs : k.state = .connected := by simpa [isConnected] using hc
    simp [Timed, hs, State.awaits, Alarm.after]
  · exact h

/-- Whatever a turn does, the timer that runs is that of the new state. -/
theorem timed_turn (h : Turn timing now cue k opens k') (hk : k.Timed) : k'.Timed := by
  cases h with
  | rest => exact hk
  | stirred => exact timed_stirred hk
  | lossRefused hs => exact hk
  | failRefused hs => exact hk
  | closeRefused hs => exact timed_stirred hk
  | _ => rfl

/-! ## The books of the connection -/

/-- What a connection counts and keeps is right for its state. -/
structure Settled (k : Connection) (maxAttempts : UInt32) : Prop where
  timed : k.Timed
  connected : k.state = .connected → k.retryAttempts = 0 ∧ k.disconnectedAt = none
  disconnected : k.state = .disconnected →
    k.retryAttempts ≤ maxAttempts ∧ k.disconnectedAt.isSome = true
  suspended : k.state = .suspended → k.disconnectedAt.isSome = true
  resting : k.state = .initialized ∨ k.state = .closed ∨ k.state = .failed →
    k.id = none ∧ k.key = none ∧ k.disconnectedAt = none

/-- May the link of a connection in this state be heard of? -/
def State.isLive : State → Bool
  | .connecting | .connected | .closing => true
  | _ => false

/-- Serials are no part of the books. -/
theorem settled_of_session {maxAttempts : UInt32} (h : k.session.Settled maxAttempts) :
    k.Settled maxAttempts := ⟨h.timed, h.connected, h.disconnected, h.suspended, h.resting⟩

theorem settled_stirred {maxAttempts : UInt32} (h : k.Settled maxAttempts) :
    (k.stirred timing now).Settled maxAttempts := by
  obtain ⟨hstate, hid, hkey, hat, hattempts, -⟩ := stirred_fields k timing now
  constructor
  · exact timed_stirred h.timed
  · rw [hstate, hattempts, hat]
    exact h.connected
  · rw [hstate, hattempts, hat]
    exact h.disconnected
  · rw [hstate, hat]
    exact h.suspended
  · rw [hstate, hid, hkey, hat]
    exact h.resting

/-- A greeting leaves a connection with no loss to its account. -/
theorem settled_greeted (k : Connection) (m : Message) (maxAttempts : UInt32) :
    (k.greeted timing now m).Settled maxAttempts :=
  ⟨rfl, fun _ => ⟨rfl, rfl⟩, nofun, nofun, nofun⟩

/-- As long as there is hope, the losses can be counted on. -/
theorem attempts_of_hope (h : (k.lost now).isHopeless timing now = false) :
    k.retryAttempts + 1 ≤ timing.maxAttempts := by
  simp only [isHopeless, Bool.or_eq_false_iff, decide_eq_false_iff_not, UInt32.not_lt] at h
  exact h.1

/-- A turn leaves the books right, if nothing is heard of a link that is given up. -/
theorem settled_turn (h : Turn timing now cue k opens k') (hk : k.Settled timing.maxAttempts)
    (hlive : cue = .heard → k.state.isLive = true) : k'.Settled timing.maxAttempts := by
  have htimed := timed_turn h hk.timed
  cases h with
  | rest => exact hk
  | stirred => exact settled_stirred hk
  | opened hcue hs => exact ⟨htimed, nofun, nofun, nofun, nofun⟩
  | greeted m hs => exact settled_greeted k m timing.maxAttempts
  | disconnected reason word hcue hs hhope =>
    exact ⟨htimed, nofun, fun _ => ⟨attempts_of_hope hhope, rfl⟩, nofun, nofun⟩
  | suspended hcue hs hhope => exact ⟨htimed, nofun, nofun, fun _ => rfl, nofun⟩
  | lossRefused hs =>
    -- Of all live states only closing refuses a loss, and its books are free.
    have hclosing : k.state = .closing := by
      have hl := hlive rfl
      cases hstate : k.state <;> simp_all [State.isLive]
    have hstate : (k.lost now).state = .closing := hclosing
    constructor
    · exact htimed
    all_goals simp [hstate]
  | failed error hs => exact ⟨htimed, nofun, nofun, nofun, fun _ => ⟨rfl, rfl, rfl⟩⟩
  | failRefused hs => exact ⟨htimed, hk.connected, hk.disconnected, hk.suspended, hk.resting⟩
  | closing hs => exact ⟨htimed, nofun, nofun, nofun, nofun⟩
  | closed hs => exact ⟨htimed, nofun, nofun, nofun, fun _ => ⟨rfl, rfl, rfl⟩⟩
  | closeRefused hs =>
    have hk' : (k.stirred timing now).Settled _ := settled_stirred hk
    exact ⟨htimed, hk'.connected, hk'.disconnected, hk'.suspended, hk'.resting⟩

/-! ## The links that were opened -/

/-- Of the links that were opened, none is newer than the connection knows, and one that it
listens to is one that it has use for. -/
def Linked (links : List Nat) (k : Connection) : Prop :=
  ∀ link ∈ links, link ≤ k.generation ∧ (link = k.generation → k.state.isLive = true)

theorem linked_nil (k : Connection) : k.Linked [] := nofun

variable {links : List Nat}

/-- A link that is given up is heard no more. -/
theorem Linked.outdated (h : k.Linked links) (hg : k.generation < k'.generation) :
    k'.Linked links := by
  intro link hmem
  have hle := (h link hmem).1
  exact ⟨by omega, fun he => by omega⟩

/-- A link that is kept may be heard as long as the connection has use for it. -/
theorem Linked.kept (h : k.Linked links) (hg : k'.generation = k.generation)
    (hs : k.state.isLive = true → k'.state.isLive = true) : k'.Linked links := by
  intro link hmem
  rw [hg]
  exact ⟨(h link hmem).1, fun he => hs ((h link hmem).2 he)⟩

theorem linked_turn (h : Turn timing now cue k opens k') (hk : k.Linked links) :
    k'.Linked (links ++ opens) := by
  obtain ⟨hstate, -, -, -, -, hgeneration⟩ := stirred_fields k timing now
  cases h with
  | opened hcue hs =>
    intro link hmem
    rcases List.mem_append.mp hmem with hmem | hmem
    · have hnext : (k.opened timing now).Linked links := hk.outdated (Nat.lt_succ_self _)
      exact hnext link hmem
    · cases List.mem_singleton.mp hmem
      exact ⟨Nat.le_refl _, fun _ => rfl⟩
  | rest => simpa using hk
  | stirred =>
    rw [List.append_nil]
    exact hk.kept hgeneration fun hs => hstate ▸ hs
  | greeted m hs =>
    rw [List.append_nil]
    exact hk.kept rfl fun _ => rfl
  | closing hs =>
    rw [List.append_nil]
    exact hk.kept rfl fun _ => rfl
  | closeRefused hs =>
    rw [List.append_nil]
    exact hk.outdated (by simp [dropped])
  | _ =>
    rw [List.append_nil]
    exact hk.outdated (Nat.lt_succ_self _)

/-- A link is opened while none is up, and then it is waited for. -/
theorem connecting_of_opens (h : Turn timing now cue k opens k') (ho : opens ≠ []) :
    k.state ≠ .connected ∧ k'.state = .connecting := by
  cases h with
  | opened hcue hs =>
    refine ⟨fun hc => ?_, rfl⟩
    rw [hc] at hs
    cases hs
  | _ => exact absurd rfl ho

/-- Only what is asked or due opens a link, and only where there is a way to wait for one. -/
theorem of_opens (h : Turn timing now cue k opens k') (ho : opens ≠ []) :
    cue ≠ .heard ∧ k.state.canBecome .connecting = true := by
  cases h with
  | opened hcue hs => exact ⟨hcue, hs⟩
  | _ => exact absurd rfl ho

/-- A connection that waits for a link has opened it. -/
theorem connecting_of_none (h : Turn timing now cue k [] k') (hs : k'.state = .connecting) :
    k.state = .connecting := by
  obtain ⟨hstate, -⟩ := stirred_fields k timing now
  cases h with
  | rest => exact hs
  | stirred => exact hstate ▸ hs
  | lossRefused hrefused => exact hs
  | failRefused hrefused => exact hs
  | closeRefused hrefused => exact hstate ▸ hs
  | _ => cases hs

/-- Without a new link a connection that has none in use stays without. -/
theorem unlinked_of_none (h : Turn timing now cue k [] k')
    (hk : k.state ≠ .connecting ∧ k.state ≠ .connected) :
    k'.state ≠ .connecting ∧ k'.state ≠ .connected := by
  obtain ⟨hstate, -⟩ := stirred_fields k timing now
  cases h with
  | rest => exact hk
  | stirred => exact hstate ▸ hk
  | greeted m hs => exact absurd hs (not_or.mpr hk)
  | lossRefused hrefused => exact hk
  | failRefused hrefused => exact hk
  | closeRefused hrefused => exact hstate ▸ hk
  | _ => exact ⟨nofun, nofun⟩

end PresenceClient.Connection
