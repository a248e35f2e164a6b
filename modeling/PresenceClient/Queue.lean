-- Queues: messages that wait for their channel to attach or for the connection to come
-- back, in the order in which they were submitted.
import PresenceClient.Effect

namespace PresenceClient

structure Queued where
  message : Message
  responder : Responder
deriving DecidableEq, Repr

/-- The waiting messages, oldest first. -/
structure Queue where
  entries : List Queued := []
deriving DecidableEq, Repr, Inhabited

namespace Queue

def enqueue (q : Queue) (message : Message) (responder : Responder) : Queue :=
  ⟨q.entries ++ [⟨message, responder⟩]⟩

def size (q : Queue) : Nat := q.entries.length

def isEmpty (q : Queue) : Bool := q.entries.isEmpty

/-- What telling everyone in the queue of an error does. -/
def failures (q : Queue) (error : ErrorInfo) : List Effect :=
  q.entries.flatMap fun e => e.responder.fail error

/-- Fail everything in the queue and empty it. -/
def failAll (q : Queue) (error : ErrorInfo) : Logged Queue :=
  { value := {}, log := q.failures error }

end Queue

end PresenceClient
