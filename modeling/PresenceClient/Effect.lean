-- Effects: what a client does to the world around it, as data. A step of the client gives
-- its effects in the order in which they happen.
import PresenceClient.Link
import PresenceClient.Error
import PresenceClient.Presence
import PresenceClient.Listener.Registry
import PresenceClient.Time

namespace PresenceClient

/-! ## Changes of state -/

structure Connection.Change where
  previous : Connection.State
  current : Connection.State
  reason : Option ErrorInfo
  /-- The wait before the next attempt, if there will be one. -/
  retryIn : Option Duration
deriving DecidableEq, Repr

structure Channel.Change where
  previous : Channel.State
  current : Channel.State
  reason : Option ErrorInfo
  /-- The server has kept what the channel missed. -/
  resumed : Bool
deriving DecidableEq, Repr

/-- What a listener hears. -/
inductive Notice where
  | connection (change : Connection.Change)
  | channel (change : Channel.Change)
  | presence (p : Presence)
deriving DecidableEq, Repr

/-! ## Answers -/

/-- Names an operation that a caller waits for. -/
abbrev Ticket := Nat

/-- How an operation ends. -/
inductive Reply where
  | done
  | failed (e : Error)
  | members (ps : List Presence)
  | listener (id : ListenerId)
  | connection (state : Connection.State) (id : Option String) (error : Option ErrorInfo)
  | channelState (state : Channel.State)
  | channelError (error : Option ErrorInfo)
  | count (n : Nat)
  | flag (b : Bool)
deriving DecidableEq, Repr

/-! ## Who waits -/

/-- Who is told how an operation ended. -/
inductive Responder where
  | caller (ticket : Ticket)
  /-- The client itself, which enters a member again after an attach. -/
  | reentry (channel clientId : String)
deriving DecidableEq, Repr

/-! ## Effects -/

/-- What a message is sent for. -/
inductive Purpose where
  /-- For itself: nothing acknowledges it. -/
  | notice
  /-- For an operation that an acknowledgement ends, for the first time. -/
  | first (responder : Responder)
  /-- For such an operation once more, on a new link. -/
  | again (responder : Responder)
deriving DecidableEq, Repr

inductive Effect where
  /-- A link is opened; what it reports carries its generation. -/
  | openLink (generation : Nat) (params : LinkParams)
  | closeLink
  | send (m : Message) (purpose : Purpose)
  | resolve (ticket : Ticket) (reply : Reply)
  | notify (listener : ListenerId) (notice : Notice)
deriving DecidableEq, Repr

namespace Responder

/-- Tell how it ended. Nobody waits for a re-entry. -/
def resolve (r : Responder) (reply : Reply) : List Effect :=
  match r with
  | caller ticket => [.resolve ticket reply]
  | reentry _ _ => []

def succeed (r : Responder) : List Effect := r.resolve .done

def fail (r : Responder) (error : ErrorInfo) : List Effect := r.resolve (.failed (.service error))

end Responder

/-! ## Values with effects -/

/-- A value and what was done on the way to it. -/
@[ext] structure Logged (α : Type) where
  value : α
  log : List Effect := []

namespace Logged

variable {α β : Type}

instance : Monad Logged where
  pure a := { value := a }
  bind x f := { value := (f x.value).value, log := x.log ++ (f x.value).log }

/-- Do some effects. -/
def tell (es : List Effect) : Logged Unit := { value := (), log := es }

@[simp] theorem value_pure (a : α) : (pure a : Logged α).value = a := rfl

@[simp] theorem log_pure (a : α) : (pure a : Logged α).log = [] := rfl

@[simp] theorem value_bind (x : Logged α) (f : α → Logged β) :
    (x >>= f).value = (f x.value).value := rfl

@[simp] theorem log_bind (x : Logged α) (f : α → Logged β) :
    (x >>= f).log = x.log ++ (f x.value).log := rfl

/-- Effects keep their order however a run is cut into pieces. -/
instance : LawfulMonad Logged := LawfulMonad.mk' Logged
  (fun x => Logged.ext rfl (List.append_nil x.log))
  (fun _ _ => rfl)
  (fun x f g => Logged.ext rfl (List.append_assoc x.log (f x.value).log _))

@[simp] theorem value_map (f : α → β) (x : Logged α) : (f <$> x).value = f x.value := rfl

@[simp] theorem log_map (f : α → β) (x : Logged α) : (f <$> x).log = x.log :=
  List.append_nil x.log

@[simp] theorem value_tell (es : List Effect) : (tell es).value = () := rfl

@[simp] theorem log_tell (es : List Effect) : (tell es).log = es := rfl

end Logged

open Logged (tell)

/-- Tell everyone who listens for an event, and drop the registrations nobody holds. -/
def Listener.Registry.publish {κ : Type} [DecidableEq κ] (r : Listener.Registry κ) (kind : κ)
    (notice : Notice) : Logged (Listener.Registry κ) := do
  tell ((r.recipients kind).map fun id => .notify id notice)
  pure r.prune

end PresenceClient
