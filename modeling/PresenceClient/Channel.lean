-- A channel: its state, who waits for what on it, and who is present.
import PresenceClient.Channel.State
import PresenceClient.Queue
import PresenceClient.Roster

namespace PresenceClient

open Logged (tell)

/-- What a channel waits for. -/
inductive Channel.Timer where
  | attachTimeout
  | detachTimeout
  | reattach
deriving DecidableEq, Repr

def Channel.Timer.name : Channel.Timer → String
  | .attachTimeout => "AttachTimeout"
  | .detachTimeout => "DetachTimeout"
  | .reattach => "Reattach"

/-- A caller that waits for members. -/
structure PendingGet where
  query : MemberQuery
  ticket : Ticket
deriving DecidableEq, Repr

structure Channel where
  state : Channel.State := .initialized
  errorReason : Option ErrorInfo := none
  /-- Where the server left off; sent with the next attach. -/
  serial : Option String := none
  queue : Queue := {}
  roster : Roster := {}
  presenceListeners : Listener.Registry Presence.Action := {}
  stateListeners : Listener.Registry Channel.State := {}
  attachWaiters : List Responder := []
  detachWaiters : List Responder := []
  pendingGets : List PendingGet := []
  timer : Option (Alarm Channel.Timer) := none
  /-- When the channel last attached again because the server had detached it. -/
  reattachedAt : Option Instant := none
deriving DecidableEq, Repr, Inhabited

namespace Channel

/-! ## State -/

/-- Go to a state, if there is a way, and tell the listeners. A reason stays until the
next one. -/
def become (ch : Channel) (next : State) (reason : Option ErrorInfo) (resumed : Bool) :
    Logged Channel :=
  if ch.state.canBecome next then do
    let listeners ← ch.stateListeners.publish next (.channel ⟨ch.state, next, reason, resumed⟩)
    pure { ch with
      state := next, errorReason := reason <|> ch.errorReason, stateListeners := listeners }
  else pure ch

/-! ## Those who wait -/

/-- More callers wait for an attach. -/
def awaitAttach (ch : Channel) (waiters : List Responder) : Channel :=
  { ch with attachWaiters := ch.attachWaiters ++ waiters }

/-- One more caller waits for a detach. -/
def awaitDetach (ch : Channel) (waiter : Responder) : Channel :=
  { ch with detachWaiters := ch.detachWaiters ++ [waiter] }

def answerGet (g : PendingGet) (reply : Reply) : Effect := .resolve g.ticket reply

/-- Fail everyone in the list. -/
def failEach (waiters : List Responder) (error : ErrorInfo) : List Effect :=
  waiters.flatMap fun w => w.fail error

def succeedEach (waiters : List Responder) : List Effect := waiters.flatMap Responder.succeed

/-- Fail everything that waits on the channel. -/
def failWaiters (ch : Channel) (error : ErrorInfo) : Logged Channel := do
  tell (ch.queue.failures error)
  tell (failEach ch.attachWaiters error)
  tell (failEach ch.detachWaiters error)
  tell (ch.pendingGets.map fun g => answerGet g (.failed (.service error)))
  pure { ch with queue := {}, attachWaiters := [], detachWaiters := [], pendingGets := [] }

/-- Fail what is queued, and nothing else. -/
def failQueue (ch : Channel) (error : ErrorInfo) : Logged Channel := do
  let queue ← ch.queue.failAll error
  pure { ch with queue := queue }

/-- Those who wait for an attach have what they want. -/
def attachDone (ch : Channel) : Logged Channel := do
  tell (succeedEach ch.attachWaiters)
  pure { ch with attachWaiters := [] }

def detachDone (ch : Channel) : Logged Channel := do
  tell (succeedEach ch.detachWaiters)
  pure { ch with detachWaiters := [] }

def failAttachWaiters (ch : Channel) (error : ErrorInfo) : Logged Channel := do
  tell (failEach ch.attachWaiters error)
  pure { ch with attachWaiters := [] }

def failDetachWaiters (ch : Channel) (error : ErrorInfo) : Logged Channel := do
  tell (failEach ch.detachWaiters error)
  pure { ch with detachWaiters := [] }

/-- Answer a caller with the members as they are now. -/
def answerNow (ch : Channel) (g : PendingGet) : Effect :=
  answerGet g (.members (ch.roster.select g.query))

def answerGets (ch : Channel) : Logged Channel := do
  tell (ch.pendingGets.map ch.answerNow)
  pure { ch with pendingGets := [] }

/-- Answer those who do not wait for the sync to end. -/
def answerUnsyncedGets (ch : Channel) : Logged Channel := do
  tell ((ch.pendingGets.filter fun g => !g.query.waitForSync).map ch.answerNow)
  pure { ch with pendingGets := ch.pendingGets.filter fun g => g.query.waitForSync }

/-- Fail those who wait for members. -/
def failGets (ch : Channel) (error : ErrorInfo) : Logged Channel := do
  tell (ch.pendingGets.map fun g => answerGet g (.failed (.service error)))
  pure { ch with pendingGets := [] }

/-! ## Presence -/

/-- Tell those who listen for presence. -/
def announce (ch : Channel) (p : Presence) : Logged Channel := do
  let listeners ← ch.presenceListeners.publish p.action (.presence p)
  pure { ch with presenceListeners := listeners }

def announceAll (ch : Channel) (ps : List Presence) : Logged Channel := ps.foldlM announce ch

/-- Take in a record and tell of it if it is news. -/
def take (ch : Channel) (p : Presence) : Logged Channel :=
  let (roster, news) := ch.roster.put p
  let ch := { ch with roster := roster }
  match news with
  | some event => ch.announce event
  | none => pure ch

/-- End the sync and tell of those who have left. -/
def endSync (ch : Channel) (timestamp : Option Int) : Logged Channel :=
  let (roster, leaves) := ch.roster.endSync timestamp
  { ch with roster := roster }.announceAll leaves

/-! ## Detached -/

/-- The channel is detached: nobody is present, and nothing that waits will come. -/
def enterDetached (ch : Channel) (reason : Option ErrorInfo) (error : ErrorInfo) :
    Logged Channel := do
  let ch ← { ch with timer := none }.become .detached reason false
  let ch ← { ch with roster := ch.roster.reset }.detachDone
  ch.failWaiters error

end Channel

end PresenceClient
