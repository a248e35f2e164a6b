-- The core of a channel: its state, those who wait on it, its timer and how far its sync
-- is. Listeners, records and reasons are left out. Each function of a channel is seen here
-- once, by three facts: what it makes of the core, which tickets it answers, and that it
-- sends nothing. Later proofs do not open the functions again.
import PresenceClient.Proofs.ConnectionCases
import PresenceClient.Proofs.RosterMoves

namespace PresenceClient

open Logged (tell)

/-! ## Tickets -/

/-- The tickets of a responder. Nobody waits for a re-entry. -/
def Responder.tickets : Responder → List Ticket
  | .caller ticket => [ticket]
  | .reentry _ _ => []

/-- The tickets that an effect answers. -/
def Effect.answers : Effect → List Ticket
  | .resolve ticket _ => [ticket]
  | _ => []

/-- The tickets that some effects answer, in their order. -/
def answered (log : List Effect) : List Ticket := log.flatMap Effect.answers

/-- The tickets of the operations on a channel that an effect sends for the first time. -/
def Effect.firsts (name : String) : Effect → List Ticket
  | .send m (.first responder) => if m.channel = some name then responder.tickets else []
  | _ => []

/-- The tickets of the operations on a channel in the order of their first sending. -/
def firstSent (name : String) (log : List Effect) : List Ticket := log.flatMap (Effect.firsts name)

@[simp] theorem answered_nil : answered [] = [] := rfl

@[simp] theorem answered_append (a b : List Effect) :
    answered (a ++ b) = answered a ++ answered b := List.flatMap_append

@[simp] theorem firstSent_nil (name : String) : firstSent name [] = [] := rfl

@[simp] theorem firstSent_append (name : String) (a b : List Effect) :
    firstSent name (a ++ b) = firstSent name a ++ firstSent name b := List.flatMap_append

/-! ## What a caller is told -/

@[simp] theorem answered_resolve (r : Responder) (reply : Reply) :
    answered (r.resolve reply) = r.tickets := by cases r <;> rfl

@[simp] theorem firstSent_resolve (name : String) (r : Responder) (reply : Reply) :
    firstSent name (r.resolve reply) = [] := by cases r <;> rfl

/-- Telling each of some responders answers the tickets of them all. -/
theorem answered_resolveEach {α : Type} (xs : List α) (f : α → Responder) (reply : Reply) :
    answered (xs.flatMap fun x => (f x).resolve reply) = xs.flatMap fun x => (f x).tickets := by
  induction xs with
  | nil => rfl
  | cons x rest ih => simp only [List.flatMap_cons, answered_append, answered_resolve, ih]

theorem firstSent_resolveEach {α : Type} (name : String) (xs : List α) (f : α → Responder)
    (reply : Reply) : firstSent name (xs.flatMap fun x => (f x).resolve reply) = [] := by
  induction xs with
  | nil => rfl
  | cons x rest ih =>
    simp only [List.flatMap_cons, firstSent_append, firstSent_resolve, ih, List.append_nil]

/-- The tickets of a list of responders. -/
def ticketsOf (waiters : List Responder) : List Ticket := waiters.flatMap Responder.tickets

@[simp] theorem ticketsOf_nil : ticketsOf [] = [] := rfl

@[simp] theorem ticketsOf_append (a b : List Responder) :
    ticketsOf (a ++ b) = ticketsOf a ++ ticketsOf b := List.flatMap_append

@[simp] theorem ticketsOf_singleton (r : Responder) : ticketsOf [r] = r.tickets :=
  List.append_nil _

@[simp] theorem answered_failEach (waiters : List Responder) (e : ErrorInfo) :
    answered (Channel.failEach waiters e) = ticketsOf waiters :=
  answered_resolveEach waiters id _

@[simp] theorem firstSent_failEach (name : String) (waiters : List Responder) (e : ErrorInfo) :
    firstSent name (Channel.failEach waiters e) = [] := firstSent_resolveEach name waiters id _

@[simp] theorem answered_succeedEach (waiters : List Responder) :
    answered (Channel.succeedEach waiters) = ticketsOf waiters :=
  answered_resolveEach waiters id .done

@[simp] theorem firstSent_succeedEach (name : String) (waiters : List Responder) :
    firstSent name (Channel.succeedEach waiters) = [] := firstSent_resolveEach name waiters id .done

/-- The tickets of the queued operations, oldest first. -/
def queueTickets (queue : List Queued) : List Ticket := queue.flatMap fun q => q.responder.tickets

@[simp] theorem queueTickets_nil : queueTickets [] = [] := rfl

@[simp] theorem queueTickets_append (a b : List Queued) :
    queueTickets (a ++ b) = queueTickets a ++ queueTickets b := List.flatMap_append

@[simp] theorem answered_failures (q : Queue) (e : ErrorInfo) :
    answered (q.failures e) = queueTickets q.entries := answered_resolveEach q.entries _ _

@[simp] theorem firstSent_failures (name : String) (q : Queue) (e : ErrorInfo) :
    firstSent name (q.failures e) = [] := firstSent_resolveEach name q.entries _ _

/-- The tickets of those who wait for members. -/
def getTickets (gets : List PendingGet) : List Ticket := gets.map (·.ticket)

@[simp] theorem getTickets_nil : getTickets [] = [] := rfl

@[simp] theorem getTickets_append (a b : List PendingGet) :
    getTickets (a ++ b) = getTickets a ++ getTickets b := List.map_append

theorem answered_answerGets (gets : List PendingGet) (f : PendingGet → Reply) :
    answered (gets.map fun g => Channel.answerGet g (f g)) = getTickets gets := by
  induction gets with
  | nil => rfl
  | cons g rest ih => exact congrArg (g.ticket :: ·) ih

theorem firstSent_answerGets (name : String) (gets : List PendingGet) (f : PendingGet → Reply) :
    firstSent name (gets.map fun g => Channel.answerGet g (f g)) = [] := by
  induction gets with
  | nil => rfl
  | cons g rest ih => exact ih

/-- Telling listeners answers nobody. -/
@[simp] theorem answered_publish {κ : Type} [DecidableEq κ] (r : Listener.Registry κ) (kind : κ)
    (n : Notice) : answered (r.publish kind n).log = [] := by
  simp only [Listener.Registry.publish, Logged.log_bind, Logged.log_tell, Logged.log_pure,
    List.append_nil, answered]
  induction r.recipients kind with
  | nil => rfl
  | cons id rest ih => exact ih

@[simp] theorem firstSent_publish {κ : Type} [DecidableEq κ] (name : String)
    (r : Listener.Registry κ) (kind : κ) (n : Notice) :
    firstSent name (r.publish kind n).log = [] := by
  simp only [Listener.Registry.publish, Logged.log_bind, Logged.log_tell, Logged.log_pure,
    List.append_nil, firstSent]
  induction r.recipients kind with
  | nil => rfl
  | cons id rest ih => exact ih

/-! ## The core -/

namespace Channel

structure Core where
  state : State := .initialized
  queue : List Queued := []
  attachWaiters : List Responder := []
  detachWaiters : List Responder := []
  pendingGets : List PendingGet := []
  timer : Option Timer := none
  sync : Roster.Sync := .notStarted

/-- The core of a channel. -/
def core (ch : Channel) : Core :=
  { state := ch.state
    queue := ch.queue.entries
    attachWaiters := ch.attachWaiters
    detachWaiters := ch.detachWaiters
    pendingGets := ch.pendingGets
    timer := ch.timer.map (·.kind)
    sync := ch.roster.sync }

namespace Core

/-- The tickets of all who wait on the channel. -/
def parked (k : Core) : List Ticket :=
  queueTickets k.queue ++ ticketsOf k.attachWaiters ++ ticketsOf k.detachWaiters ++
    getTickets k.pendingGets

/-- Go to a state, if there is a way. -/
def become (k : Core) (next : State) : Core :=
  if k.state.canBecome next then { k with state := next } else k

/-- Nobody waits any more. -/
def cleared (k : Core) : Core :=
  { k with queue := [], attachWaiters := [], detachWaiters := [], pendingGets := [] }

/-- A change of state leaves all else. -/
@[simp] theorem become_fields (k : Core) (s : State) :
    (k.become s).queue = k.queue ∧ (k.become s).attachWaiters = k.attachWaiters ∧
      (k.become s).detachWaiters = k.detachWaiters ∧ (k.become s).pendingGets = k.pendingGets ∧
      (k.become s).timer = k.timer ∧ (k.become s).sync = k.sync := by
  unfold become
  split <;> simp

theorem become_of_canBecome {k : Core} {s : State} (h : k.state.canBecome s = true) :
    k.become s = { k with state := s } := if_pos h

/-- An attach can begin in every state. -/
theorem become_attaching (k : Core) : k.become .attaching = { k with state := .attaching } := by
  cases k with
  | mk state => cases state <;> rfl

theorem become_failed (k : Core) : k.become .failed = { k with state := .failed } := by
  cases k with
  | mk state => cases state <;> rfl

@[simp] theorem parked_become (k : Core) (s : State) : (k.become s).parked = k.parked := by
  simp [parked]

theorem count_parked (k : Core) (t : Ticket) :
    k.parked.count t = (queueTickets k.queue).count t + (ticketsOf k.attachWaiters).count t +
      (ticketsOf k.detachWaiters).count t + (getTickets k.pendingGets).count t := by
  simp only [parked, List.count_append]

@[simp] theorem parked_cleared (k : Core) : k.cleared.parked = [] := rfl

end Core

variable (ch : Channel)

/-! ## The functions of a channel -/

@[simp] theorem become_spec (next : State) (reason : Option ErrorInfo) (resumed : Bool) :
    (ch.become next reason resumed).value.core = ch.core.become next ∧
      answered (ch.become next reason resumed).log = [] ∧
      ∀ name, firstSent name (ch.become next reason resumed).log = [] := by
  refine become_cases (fun h => ?goes) fun h => ?stays
  case goes => simp [Core.become, h, core]
  case stays => simp [Core.become, h, core]

@[simp] theorem failWaiters_spec (e : ErrorInfo) :
    (ch.failWaiters e).value.core = ch.core.cleared ∧
      answered (ch.failWaiters e).log = ch.core.parked ∧
      ∀ name, firstSent name (ch.failWaiters e).log = [] := by
  simp [failWaiters, core, Core.cleared, Core.parked, answered_answerGets, firstSent_answerGets]

@[simp] theorem failQueue_spec (e : ErrorInfo) :
    (ch.failQueue e).value.core = { ch.core with queue := [] } ∧
      answered (ch.failQueue e).log = queueTickets ch.core.queue ∧
      ∀ name, firstSent name (ch.failQueue e).log = [] := by
  simp [failQueue, Queue.failAll, core]

@[simp] theorem attachDone_spec :
    ch.attachDone.value.core = { ch.core with attachWaiters := [] } ∧
      answered ch.attachDone.log = ticketsOf ch.core.attachWaiters ∧
      ∀ name, firstSent name ch.attachDone.log = [] := by
  simp [attachDone, core]

@[simp] theorem detachDone_spec :
    ch.detachDone.value.core = { ch.core with detachWaiters := [] } ∧
      answered ch.detachDone.log = ticketsOf ch.core.detachWaiters ∧
      ∀ name, firstSent name ch.detachDone.log = [] := by
  simp [detachDone, core]

@[simp] theorem failAttachWaiters_spec (e : ErrorInfo) :
    (ch.failAttachWaiters e).value.core = { ch.core with attachWaiters := [] } ∧
      answered (ch.failAttachWaiters e).log = ticketsOf ch.core.attachWaiters ∧
      ∀ name, firstSent name (ch.failAttachWaiters e).log = [] := by
  simp [failAttachWaiters, core]

@[simp] theorem failDetachWaiters_spec (e : ErrorInfo) :
    (ch.failDetachWaiters e).value.core = { ch.core with detachWaiters := [] } ∧
      answered (ch.failDetachWaiters e).log = ticketsOf ch.core.detachWaiters ∧
      ∀ name, firstSent name (ch.failDetachWaiters e).log = [] := by
  simp [failDetachWaiters, core]

@[simp] theorem answerGets_spec :
    ch.answerGets.value.core = { ch.core with pendingGets := [] } ∧
      answered ch.answerGets.log = getTickets ch.core.pendingGets ∧
      ∀ name, firstSent name ch.answerGets.log = [] := by
  unfold answerGets
  simp only [Logged.value_bind, Logged.log_bind, Logged.value_pure, Logged.log_pure,
    Logged.log_tell, List.append_nil]
  exact ⟨rfl, answered_answerGets ch.pendingGets fun g => .members (ch.roster.select g.query),
    fun name => firstSent_answerGets name ch.pendingGets _⟩

@[simp] theorem failGets_spec (e : ErrorInfo) :
    (ch.failGets e).value.core = { ch.core with pendingGets := [] } ∧
      answered (ch.failGets e).log = getTickets ch.core.pendingGets ∧
      ∀ name, firstSent name (ch.failGets e).log = [] := by
  unfold failGets
  simp only [Logged.value_bind, Logged.log_bind, Logged.value_pure, Logged.log_pure,
    Logged.log_tell, List.append_nil]
  exact ⟨rfl, answered_answerGets ch.pendingGets _,
    fun name => firstSent_answerGets name ch.pendingGets _⟩

@[simp] theorem answerUnsyncedGets_spec :
    ch.answerUnsyncedGets.value.core =
        { ch.core with pendingGets := ch.core.pendingGets.filter (·.query.waitForSync) } ∧
      answered ch.answerUnsyncedGets.log =
        getTickets (ch.core.pendingGets.filter (!·.query.waitForSync)) ∧
      ∀ name, firstSent name ch.answerUnsyncedGets.log = [] := by
  unfold answerUnsyncedGets
  simp only [Logged.value_bind, Logged.log_bind, Logged.value_pure, Logged.log_pure,
    Logged.log_tell, List.append_nil]
  exact ⟨rfl, answered_answerGets _ fun g => .members (ch.roster.select g.query),
    fun name => firstSent_answerGets name _ _⟩

@[simp] theorem announce_spec (p : Presence) :
    (ch.announce p).value.core = ch.core ∧ answered (ch.announce p).log = [] ∧
      ∀ name, firstSent name (ch.announce p).log = [] := by
  simp [announce, core]

@[simp] theorem announceAll_spec (ps : List Presence) :
    (ch.announceAll ps).value.core = ch.core ∧ answered (ch.announceAll ps).log = [] ∧
      ∀ name, firstSent name (ch.announceAll ps).log = [] := by
  unfold announceAll
  induction ps generalizing ch with
  | nil => simp
  | cons p rest ih =>
    obtain ⟨h1, h2, h3⟩ := ih (ch.announce p).value
    simp [h1, h2, h3]

@[simp] theorem take_spec (p : Presence) :
    (ch.take p).value.core = ch.core ∧ answered (ch.take p).log = [] ∧
      ∀ name, firstSent name (ch.take p).log = [] := by
  have hcore : { ch with roster := (ch.roster.put p).1 }.core = ch.core := by simp [core]
  refine take_cases (fun event _ => ?news) fun _ => ⟨hcore, rfl, fun _ => rfl⟩
  case news =>
    obtain ⟨h1, h2, h3⟩ := announce_spec { ch with roster := (ch.roster.put p).1 } event
    exact ⟨h1.trans hcore, h2, h3⟩

@[simp] theorem endSync_spec (timestamp : Option Int) :
    (ch.endSync timestamp).value.core = { ch.core with sync := .complete } ∧
      answered (ch.endSync timestamp).log = [] ∧
      ∀ name, firstSent name (ch.endSync timestamp).log = [] := by
  unfold endSync
  simp only
  obtain ⟨h1, h2, h3⟩ := announceAll_spec
    { ch with roster := (ch.roster.endSync timestamp).1 } (ch.roster.endSync timestamp).2
  exact ⟨h1, h2, h3⟩

@[simp] theorem core_startSync :
    { ch with roster := ch.roster.startSync }.core = { ch.core with sync := .inProgress } := by
  simp [core]

/-! ## Longer turns of a channel -/

@[simp] theorem core_awaitAttach (waiters : List Responder) :
    (ch.awaitAttach waiters).core =
      { ch.core with attachWaiters := ch.core.attachWaiters ++ waiters } := rfl

@[simp] theorem core_awaitDetach (waiter : Responder) :
    (ch.awaitDetach waiter).core =
      { ch.core with detachWaiters := ch.core.detachWaiters ++ [waiter] } := rfl

@[simp] theorem core_enqueue (m : Message) (r : Responder) :
    { ch with queue := ch.queue.enqueue m r }.core =
      { ch.core with queue := ch.core.queue ++ [⟨m, r⟩] } := rfl

@[simp] theorem core_parkGet (g : PendingGet) :
    { ch with pendingGets := ch.pendingGets ++ [g] }.core =
      { ch.core with pendingGets := ch.core.pendingGets ++ [g] } := rfl

@[simp] theorem core_timer (timer : Option (Alarm Timer)) :
    { ch with timer := timer }.core = { ch.core with timer := timer.map (·.kind) } := rfl

@[simp] theorem core_reset :
    { ch with roster := ch.roster.reset }.core = { ch.core with sync := .notStarted } := rfl

/-- The core of a channel that is detached. -/
def Core.detached (k : Core) : Core :=
  { ({ k with timer := none }.become .detached).cleared with sync := .notStarted }

/-- A channel that is detached answers all who waited, those for the detach first. -/
@[simp] theorem enterDetached_spec (reason : Option ErrorInfo) (e : ErrorInfo) :
    (ch.enterDetached reason e).value.core = ch.core.detached ∧
      answered (ch.enterDetached reason e).log =
        ticketsOf ch.core.detachWaiters ++ { ch.core with detachWaiters := [] }.parked ∧
      ∀ name, firstSent name (ch.enterDetached reason e).log = [] := by
  unfold enterDetached Core.detached
  refine ⟨?_, ?_, fun name => ?_⟩
  · simp [Core.cleared]
  · simp [Core.parked]
  · simp

/-- The server has not answered a detach: those who waited for it are told. -/
@[simp] theorem detachTimedOut_spec :
    (Client.detachTimedOut ch).value.core =
        { ch.core.become .attached with detachWaiters := [] } ∧
      answered (Client.detachTimedOut ch).log = ticketsOf ch.core.detachWaiters ∧
      ∀ name, firstSent name (Client.detachTimedOut ch).log = [] := by
  simp [Client.detachTimedOut]

/-- When an attach begins, those who waited for a detach are told. -/
@[simp] theorem toAttaching_spec (waiters : List Responder) :
    (Client.toAttaching waiters ch).value.core = { ch.core with
        state := .attaching
        attachWaiters := ch.core.attachWaiters ++ waiters
        detachWaiters := [] } ∧
      answered (Client.toAttaching waiters ch).log = ticketsOf ch.core.detachWaiters ∧
      ∀ name, firstSent name (Client.toAttaching waiters ch).log = [] := by
  simp [Client.toAttaching, Core.become_attaching]

/-- When a detach begins, those who waited for an attach are told. -/
@[simp] theorem toDetaching_spec (waiter : Responder) :
    (Client.toDetaching waiter ch).value.core = { ch.core with
        attachWaiters := []
        detachWaiters := ch.core.detachWaiters ++ [waiter] }.become .detaching ∧
      answered (Client.toDetaching waiter ch).log = ticketsOf ch.core.attachWaiters ∧
      ∀ name, firstSent name (Client.toDetaching waiter ch).log = [] := by
  simp [Client.toDetaching]

/-- A channel that fails answers all who waited. -/
@[simp] theorem toFailed_spec (e : ErrorInfo) :
    (Client.toFailed e ch).value.core =
        { ch.core.cleared with state := .failed, timer := none, sync := .notStarted } ∧
      answered (Client.toFailed e ch).log = ch.core.parked ∧
      ∀ name, firstSent name (Client.toFailed e ch).log = [] := by
  have hcore : { ch with timer := none, serial := none }.core = { ch.core with timer := none } :=
    rfl
  simp [Client.toFailed, hcore, Core.become_failed, Core.cleared, Core.parked]

/-- So does one that is suspended. -/
@[simp] theorem toSuspended_spec (e : ErrorInfo) (alarm : Option (Alarm Timer)) :
    (Client.toSuspended e alarm ch).value.core =
        { (ch.core.become .suspended).cleared with timer := alarm.map (·.kind) } ∧
      answered (Client.toSuspended e alarm ch).log = ch.core.parked ∧
      ∀ name, firstSent name (Client.toSuspended e alarm ch).log = [] := by
  simp [Client.toSuspended]

@[simp] theorem toAttachingAgain_spec (now : Instant) (e : Option ErrorInfo) :
    (Client.toAttachingAgain now e ch).value.core = { ch.core with state := .attaching } ∧
      answered (Client.toAttachingAgain now e ch).log = [] ∧
      ∀ name, firstSent name (Client.toAttachingAgain now e ch).log = [] := by
  have hcore : { ch with reattachedAt := some now }.core = ch.core := rfl
  simp [Client.toAttachingAgain, hcore, Core.become_attaching]

/-- The core of a channel that the server attaches, with members or without. -/
def Core.attached (k : Core) (peopled : Bool) : Core :=
  { { k with timer := none }.become .attached with
    attachWaiters := []
    pendingGets := if peopled then k.pendingGets.filter (·.query.waitForSync) else []
    sync := if peopled then .inProgress else .complete }

/-- The tickets that an attach answers: all who waited for it, and those who wait for
members, but with members to come only those who do not wait for the sync. -/
def Core.attachedTickets (k : Core) (peopled : Bool) : List Ticket :=
  ticketsOf k.attachWaiters ++
    getTickets (if peopled then k.pendingGets.filter (!·.query.waitForSync) else k.pendingGets)

@[simp] theorem attachedChannel_spec (m : Message) :
    (Client.attachedChannel m ch).value.core = ch.core.attached (m.has .hasPresence) ∧
      answered (Client.attachedChannel m ch).log =
        ch.core.attachedTickets (m.has .hasPresence) ∧
      ∀ name, firstSent name (Client.attachedChannel m ch).log = [] := by
  have hcore : ∀ serial, { ch with serial := serial, timer := none, reattachedAt := none }.core =
      { ch.core with timer := none } := fun _ => rfl
  refine Client.attachedChannel_cases (fun h => ?peopled) fun h => ?empty
  all_goals simp [Client.toAttached, h, hcore, Core.attached, Core.attachedTickets]

theorem foldlM_spec {α : Type} (f : Channel → α → Logged Channel)
    (h : ∀ ch x, (f ch x).value.core = ch.core ∧ answered (f ch x).log = [] ∧
      ∀ name, firstSent name (f ch x).log = []) (xs : List α) :
    (xs.foldlM f ch).value.core = ch.core ∧ answered (xs.foldlM f ch).log = [] ∧
      ∀ name, firstSent name (xs.foldlM f ch).log = [] := by
  induction xs generalizing ch with
  | nil => simp
  | cons x rest ih =>
    obtain ⟨h1, h2, h3⟩ := h ch x
    obtain ⟨i1, i2, i3⟩ := ih (f ch x).value
    simp [h1, h2, h3, i1, i2, i3]

/-- A live record moves no state, and nobody waits for it. -/
theorem takeLive_spec (c : Client) (p : Presence) :
    (c.takeLive ch p).value.core = ch.core ∧ answered (c.takeLive ch p).log = [] ∧
      ∀ name, firstSent name (c.takeLive ch p).log = [] := by
  have hcore : { ch with roster := ch.roster.trackOwn p }.core = ch.core := by
    have h : (ch.roster.trackOwn p).sync = ch.roster.sync := by
      unfold Roster.trackOwn
      split <;> rfl
    simp [core, h]
  refine Client.takeLive_cases (fun _ => ?own) fun _ => take_spec ch p
  case own => simp [hcore]

/-- The core after a page of a sync. -/
def Core.paged (k : Core) (last : Bool) : Core :=
  if last then { k with sync := .complete, pendingGets := [] } else { k with sync := .inProgress }

@[simp] theorem takePage_spec (m : Message) :
    (Client.takePage m ch).value.core = ch.core.paged (isLastPage m.channelSerial) ∧
      answered (Client.takePage m ch).log =
        (if isLastPage m.channelSerial then getTickets ch.core.pendingGets else []) ∧
      ∀ name, firstSent name (Client.takePage m ch).log = [] := by
  have hcursor : ∀ ch : Channel,
      { ch with roster := ch.roster.setCursor m.channelSerial }.core = ch.core := fun _ => rfl
  obtain ⟨h1, h2, h3⟩ := foldlM_spec { ch with roster := ch.roster.startSync } Channel.take
    (fun ch p => take_spec ch p) (Presence.arrivals m)
  refine Client.takePage_cases (fun h => ?more) fun h => ?last
  all_goals simp [Client.takeRecords, Core.paged, h, h1, h2, h3, hcursor]

end Channel

/-! ## The channels of a client -/

namespace Client

variable (c : Client) (name : String) (ch : Channel)

/-- The core of the channel of a name. A channel that is not there counts as new. -/
def core : Channel.Core := (c.channelOrNew name).core

@[simp] theorem channel?_setChannel_self : (c.setChannel name ch).channel? name = some ch :=
  Table.get?_put_self c.channels name ch

@[simp] theorem isConnected_setChannel : (c.setChannel name ch).isConnected = c.isConnected := rfl

theorem channel?_setChannel_ne {other : String} (h : other ≠ name) :
    (c.setChannel name ch).channel? other = c.channel? other := Table.get?_put_ne c.channels h ch

@[simp] theorem channelOrNew_setChannel_self : (c.setChannel name ch).channelOrNew name = ch := by
  simp [channelOrNew]

theorem channelOrNew_setChannel_ne {other : String} (h : other ≠ name) :
    (c.setChannel name ch).channelOrNew other = c.channelOrNew other := by
  simp only [channelOrNew, channel?_setChannel_ne c name ch h]

variable {c name ch} in
theorem channelOrNew_of_some (h : c.channel? name = some ch) : c.channelOrNew name = ch := by
  simp [channelOrNew, h]

variable {c name ch} in
theorem core_of_some (h : c.channel? name = some ch) : c.core name = ch.core := by
  rw [core, channelOrNew_of_some h]

variable {c name} in
theorem core_of_none (h : c.channel? name = none) : c.core name = {} := by
  rw [core, channelOrNew, h]
  rfl

@[simp] theorem core_setChannel_self : (c.setChannel name ch).core name = ch.core := by
  rw [core, channelOrNew_setChannel_self]

@[simp] theorem channel?_ensureChannel :
    (c.ensureChannel name).channel? name = some (c.channelOrNew name) :=
  channel?_setChannel_self c name _

@[simp] theorem channelOrNew_ensureChannel (other : String) :
    (c.ensureChannel name).channelOrNew other = c.channelOrNew other := by
  unfold ensureChannel
  by_cases h : other = name
  · subst h
    exact channelOrNew_setChannel_self c other _
  · exact channelOrNew_setChannel_ne c name _ h

@[simp] theorem core_ensureChannel (other : String) :
    (c.ensureChannel name).core other = c.core other := by
  rw [core, channelOrNew_ensureChannel, core]

variable {c name} in
theorem channelOrNew_congr {d : Client} (h : d.channel? name = c.channel? name) :
    d.channelOrNew name = c.channelOrNew name := by
  rw [channelOrNew, h, channelOrNew]

variable {c name} in
theorem core_congr {d : Client} (h : d.channel? name = c.channel? name) :
    d.core name = c.core name := congrArg Channel.core (channelOrNew_congr h)

variable {c} in
theorem channel?_of_channels {d : Client} (h : d.channels = c.channels) (name : String) :
    d.channel? name = c.channel? name := by
  rw [channel?, channel?, h]

variable {c} in
theorem core_of_channels {d : Client} (h : d.channels = c.channels) (name : String) :
    d.core name = c.core name := core_congr (channel?_of_channels h name)

/-- A channel that is dropped counts as new. -/
theorem channelOrNew_erase_self :
    ({ c with channels := c.channels.erase name } : Client).channelOrNew name = {} := by
  rw [channelOrNew, channel?, Table.get?_erase_self]
  rfl

theorem channelOrNew_erase_ne {other : String} (h : other ≠ name) :
    ({ c with channels := c.channels.erase name } : Client).channelOrNew other =
      c.channelOrNew other := channelOrNew_congr (Table.get?_erase_ne c.channels h)

variable {c} in
theorem isConnected_iff : c.isConnected = true ↔ c.connection.state = .connected := by
  simp [isConnected, Connection.isConnected]

/-- Waiting for the next word of the server changes nothing else. -/
theorem resetIdleTimer_same : c.resetIdleTimer.channels = c.channels ∧
    c.resetIdleTimer.pending = c.pending ∧ c.resetIdleTimer.isConnected = c.isConnected :=
  resetIdleTimer_cases (fun _ => ⟨rfl, rfl, rfl⟩) fun _ => ⟨rfl, rfl, rfl⟩

/-- What is left of a channel when the receiver of a listener goes away. -/
def unheard (id : ListenerId) (ch : Channel) : Channel :=
  { ch with
    presenceListeners := ch.presenceListeners.drop id
    stateListeners := ch.stateListeners.drop id }

end Client

end PresenceClient
