-- The law of failure: an error that ends the connection for good reaches everyone. Whoever
-- waits anywhere is told of it, and no channel that was in use survives it.
import PresenceClient.Proofs.ConnectionRuns
import PresenceClient.Proofs.Teardown

namespace PresenceClient

open Logged (tell)

/-! ## Who is told of an error -/

/-- Whoever is answered is told of the error. -/
def Blames (error : ErrorInfo) (log : List Effect) : Prop :=
  ∀ ticket reply, Effect.resolve ticket reply ∈ log → reply = .failed (.service error)

section Blames

variable {e : ErrorInfo} {a b : List Effect}

theorem blames_nil : Blames e [] := fun _ _ h => absurd h List.not_mem_nil

theorem blames_append (ha : Blames e a) (hb : Blames e b) : Blames e (a ++ b) :=
  fun ticket reply h => (List.mem_append.mp h).elim (ha ticket reply) (hb ticket reply)

theorem blames_bind {α β : Type} {x : Logged α} {f : α → Logged β} (hx : Blames e x.log)
    (hf : Blames e (f x.value).log) : Blames e (x >>= f).log := blames_append hx hf

theorem blames_fail (r : Responder) : Blames e (r.fail e) := by
  intro ticket reply h
  cases r with
  | caller ticket' =>
    cases List.mem_singleton.mp h
    rfl
  | reentry channel clientId => exact absurd h List.not_mem_nil

theorem blames_failEach {α : Type} (xs : List α) (f : α → Responder) :
    Blames e (xs.flatMap fun x => (f x).fail e) := by
  intro ticket reply h
  obtain ⟨x, -, hx⟩ := List.mem_flatMap.mp h
  exact blames_fail (f x) ticket reply hx

theorem blames_failGets (gets : List PendingGet) :
    Blames e (gets.map fun g => Channel.answerGet g (.failed (.service e))) := by
  intro ticket reply h
  obtain ⟨g, -, hg⟩ := List.mem_map.mp h
  cases hg
  rfl

theorem blames_publish {κ : Type} [DecidableEq κ] (r : Listener.Registry κ) (kind : κ)
    (n : Notice) : Blames e (r.publish kind n).log := by
  refine blames_append ?_ blames_nil
  intro ticket reply h
  obtain ⟨id, -, hid⟩ := List.mem_map.mp h
  cases hid

end Blames

namespace Channel

variable {e : ErrorInfo} (ch : Channel)

theorem blames_become (next : State) (reason : Option ErrorInfo) (resumed : Bool) :
    Blames e (ch.become next reason resumed).log :=
  become_cases (fun _ => blames_bind (blames_publish _ _ _) blames_nil) fun _ => blames_nil

theorem blames_failWaiters : Blames e (ch.failWaiters e).log :=
  blames_append (blames_failEach ch.queue.entries _)
    (blames_append (blames_failEach ch.attachWaiters id)
      (blames_append (blames_failEach ch.detachWaiters id)
        (blames_append (blames_failGets ch.pendingGets) blames_nil)))

theorem blames_toFailed : Blames e (Client.toFailed e ch).log :=
  blames_bind (blames_become _ _ _ _) (blames_failWaiters _)

theorem blames_failQueue : Blames e (ch.failQueue e).log :=
  blames_append (blames_failEach ch.queue.entries _) blames_nil

end Channel

namespace Client

variable {c : Client} {e : ErrorInfo} {name : String}

/-! ## Down the connection -/

theorem blames_settle (p : Pending) (test : Unacked → Bool) :
    Blames e (p.settle test (.failed (.service e))).log :=
  blames_failEach (p.picked test) (·.responder)

theorem blames_onChannel {f : Channel → Logged Channel} (hf : ∀ ch, Blames e (f ch).log) :
    Blames e (c.onChannel name f).log :=
  onChannel_cases (fun _ => blames_nil) fun ch _ => blames_bind (hf ch) blames_nil

theorem blames_failChannel : Blames e (c.failChannel name e).log :=
  failChannel_cases (fun _ => blames_nil) fun ch _ _ =>
    blames_bind (Channel.blames_toFailed ch) (blames_bind (blames_settle _ _) blames_nil)

theorem blames_failUnder : Blames e (failUnder e c name).log :=
  failUnder_cases (fun _ => blames_nil) (fun _ _ _ => blames_failChannel)
    fun _ _ _ _ _ _ => blames_onChannel Channel.blames_failQueue

theorem blames_forNames {f : Client → String → Logged Client}
    (hf : ∀ d name, Blames e (f d name).log) (names : List String) :
    Blames e (c.forNames names f).log := by
  unfold forNames
  induction names generalizing c with
  | nil => exact blames_nil
  | cons name rest ih => exact blames_bind (hf c name) ih

theorem blames_become (next : Connection.State) (reason : Option ErrorInfo)
    (retryIn : Option Duration) : Blames e (c.become next reason retryIn).log :=
  become_cases (fun _ => blames_bind (blames_publish _ _ _) blames_nil) fun _ => blames_nil

theorem blames_failConnection : Blames e (c.failConnection e).log := by
  have hsilent : Blames e [Effect.closeLink] := fun _ _ h => by cases List.mem_singleton.mp h
  have hdropped : Blames e c.dropLink.log := blames_append hsilent blames_nil
  refine failConnection_cases (fun _ => ?fails) fun _ => hdropped
  case fails =>
    exact blames_bind hdropped (blames_bind (blames_become _ _ _)
      (blames_bind (blames_bind (blames_settle _ _) blames_nil)
        (blames_forNames (fun _ _ => blames_failUnder) _)))

end Client

/-! ## Fatal errors -/

/-- The error by which a message ends the connection for good: one that is about no channel, or
one with which the server disconnects and that is not worth another attempt. -/
def Message.fatalError (m : Message) : Option ErrorInfo :=
  match Message.Action.ofCode? m.action with
  | some .error => if m.channel.isNone then some (m.error.getD Cause.noDetails.info) else none
  | some .disconnected => m.error.filter fun error => !error.isRetriable
  | _ => none

namespace Client

/-- The connection has failed with an error, and everyone that waited or was in use with it. -/
structure FailsWith (error : ErrorInfo) (c : Client) (r : Logged Client) : Prop where
  state : r.value.connection.state = .failed
  reason : r.value.connection.errorReason = some error
  /-- Each operation that was parked is answered once, and no other. -/
  answered : (answered r.log).Perm c.parked
  blamed : Blames error r.log
  pending : r.value.pending.entries = []
  idle : ∀ name, (r.value.channelOrNew name).core.Idle
  inUse : ∀ name, (c.channelOrNew name).state = .attaching ∨
    (c.channelOrNew name).state = .attached ∨ (c.channelOrNew name).state = .detaching ∨
    (c.channelOrNew name).state = .suspended →
      let ch := r.value.channelOrNew name
      ch.state = .failed ∧ ch.errorReason = some error ∧ ch.roster = {} ∧ ch.timer = none
  outOfUse : ∀ name, (c.channelOrNew name).state = .initialized ∨
    (c.channelOrNew name).state = .detached ∨ (c.channelOrNew name).state = .failed →
      (r.value.channelOrNew name).state = (c.channelOrNew name).state

section Fatal

variable {c d : Client} {m : Message} {error : ErrorInfo} {r : Logged Client}

theorem FailsWith.of_same (h : FailsWith error d r) (hc : d.channels = c.channels)
    (hp : d.pending = c.pending) : FailsWith error c r := by
  have hname : ∀ name, d.channelOrNew name = c.channelOrNew name := fun name =>
    channelOrNew_congr (channel?_of_channels hc name)
  obtain ⟨hstate, hreason, hanswered, hblamed, hpending, hidle, hused, hresting⟩ := h
  simp only [hname] at hused hresting
  rw [parked, hc, hp] at hanswered
  exact ⟨hstate, hreason, hanswered, hblamed, hpending, hidle, hused, hresting⟩

theorem onMessage_of_fatalError (h : m.fatalError = some error) :
    c.onMessage m = c.resetIdleTimer.failConnection error := by
  unfold Message.fatalError at h
  split at h
  · rename_i ha
    rw [onMessage_of_error ha]
    split at h
    · rename_i hnone
      cases h
      exact onError_cases (fun name hm => by simp [hm] at hnone) fun _ => rfl
    · cases h
  · rename_i ha
    rw [onMessage_of_disconnected ha]
    obtain ⟨he, hfatal⟩ := Option.filter_eq_some_iff.mp h
    refine onDisconnected_cases (fun reason hlost => ?lost) fun reason hreason _ => ?fatal
    case lost => rcases hlost with hno | ⟨hreason, hretry⟩ <;> simp_all
    case fatal =>
      cases he.symm.trans hreason
      rfl
  · cases h

/-- Nobody waits on a channel that has failed with its connection. -/
theorem idle_of_failsWith {ch ch' : Channel} {up : Bool} (h : ch.FailsWith error ch')
    (hfits : ch.core.Fits up) : ch'.core.Idle := by
  cases hrest : ch.state.isResting with
  | false => exact (h.inUse hrest).2.2.2.2
  | true =>
    obtain ⟨-, ha, hd, hg⟩ := ((Channel.fits_resting hrest).mp hfits).1
    rw [h.resting hrest]
    exact ⟨rfl, ha, hd, hg⟩

theorem parked_of_idle (h : c.channels.Ordered)
    (hidle : ∀ name, (c.channelOrNew name).core.Idle) (hp : c.pending.entries = []) :
    c.parked = [] := by
  refine parked_nil h (fun name ch hch => ?_) hp
  obtain ⟨hq, ha, hd, hg⟩ := hidle name
  rw [channelOrNew_of_some hch] at hq ha hd hg
  rw [Channel.Core.parked, hq, ha, hd, hg]
  rfl

/-- Where the connection can fail, it takes everyone along. -/
theorem failsWith_failConnection (h : Sound c) (hs : c.connection.state.canBecome .failed = true) :
    FailsWith error c (c.failConnection error) := by
  have hleads := leads_failConnection hs error
  obtain ⟨hpending, hchannels⟩ := failConnection_down (e := error) h.ordered hs
  have hbooks := balances_failConnection h.ordered error
  generalize hr : c.failConnection error = r at hleads hpending hchannels hbooks
  have hsession : ∀ {α : Type} (f : Connection → α), (∀ k : Connection, f k.session = f k) →
      f r.value.connection = f (c.session.failed error) := fun f hf => by
    rw [← hleads.session]
    exact (hf _).symm
  have hidle : ∀ name, (r.value.channelOrNew name).core.Idle := fun name =>
    idle_of_failsWith (hchannels name) (h.fits name)
  have hparked : r.value.parked = [] := parked_of_idle hbooks.ordered hidle hpending
  constructor
  · exact hsession (·.state) fun _ => rfl
  · exact hsession (·.errorReason) fun _ => rfl
  · have hperm := balances_perm hbooks
    rwa [hparked, List.append_nil, List.nil_append] at hperm
  · rw [← hr]
    exact blames_failConnection
  · exact hpending
  · exact hidle
  · intro name hs
    obtain ⟨hstate, hreason, hroster, htimer, -⟩ := (hchannels name).inUse (by
      rcases hs with hs | hs | hs | hs <;> rw [hs] <;> rfl)
    exact ⟨hstate, hreason, hroster, htimer⟩
  · intro name hs
    rw [(hchannels name).resting (by rcases hs with hs | hs | hs <;> rw [hs] <;> rfl)]

end Fatal

/-! ## The law -/

/-- Wherever a run has brought the client, a fatal error on the link in use fails the connection
with that error, and everyone with it. -/
theorem a_fatal_error_reaches_everyone (options : Options) (words : List UInt64)
    (inputs : List Input) (generation : Nat) (m : Message) (error : ErrorInfo)
    (hopened : generation ∈ opened ((fresh options words).run inputs).log)
    (hinUse : generation = ((fresh options words).run inputs).value.connection.generation)
    (hfatal : m.fatalError = some error) :
    let c := ((fresh options words).run inputs).value
    FailsWith error c (c.step (.link generation (.message m))) := by
  intro c
  have hsound : Sound c := sound_run (sound_fresh options words) inputs
  have hlive : c.connection.state.isLive = true :=
    (linked_run options words inputs generation hopened).2 hinUse
  have hstep : c.step (.link generation (.message m)) = c.resetIdleTimer.failConnection error := by
    rw [← onMessage_of_fatalError hfatal]
    exact if_pos hinUse
  obtain ⟨hchannels, hpending, hup⟩ := resetIdleTimer_same c
  have hcan : c.resetIdleTimer.connection.state.canBecome .failed = true := by
    rw [state_resetIdleTimer]
    cases hs : c.connection.state <;> simp_all [Connection.State.isLive, Connection.State.canBecome]
  rw [hstep]
  exact (failsWith_failConnection (hsound.of_same hchannels hup) hcan).of_same hchannels hpending

/-- A caller has asked for the room and entered it, and neither is done. In the hall, which is
attached, another has entered and is not acknowledged. -/
def busyRooms : List Input :=
  greeting ++ [.command 1 (.channel "room" (.publish .enter (some "ann") .null)),
    .command 2 (.channel "room" .attach), .command 3 (.channel "hall" .attach),
    .link 1 (.message { action := Message.Action.attached.code, channel := some "hall" }),
    .command 4 (.channel "hall" (.publish .enter (some "bob") .null))]

def unauthorized : ErrorInfo := { code := 40101, statusCode := some 401, message := "unauthorized" }

/-- All three are told that the client is not authorized. -/
theorem an_unauthorized_client_fails_everyone :
    let c := ((fresh keyOptions []).run busyRooms).value
    let m : Message := { action := Message.Action.error.code, error := some unauthorized }
    c.parked = [1, 2, 4] ∧ (c.channelOrNew "hall").state = .attached ∧
      FailsWith unauthorized c (c.step (.link 1 (.message m))) :=
  ⟨rfl, rfl, a_fatal_error_reaches_everyone keyOptions [] busyRooms 1 _ unauthorized
    (List.mem_singleton.mpr rfl) rfl rfl⟩

end Client

end PresenceClient
