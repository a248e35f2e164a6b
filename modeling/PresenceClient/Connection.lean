-- The connection: its state, the session that the server has given it, and what is left
-- of that session when the link is lost.
import PresenceClient.Connection.State
import PresenceClient.Message
import PresenceClient.Time

namespace PresenceClient

/-- What a connection waits for. -/
inductive Connection.Timer where
  | connectTimeout
  | idle
  | retry
  | closeTimeout
deriving DecidableEq, Repr

def Connection.Timer.name : Connection.Timer → String
  | .connectTimeout => "ConnectTimeout"
  | .idle => "Idle"
  | .retry => "Retry"
  | .closeTimeout => "CloseTimeout"

structure Connection where
  state : Connection.State := .initialized
  id : Option String := none
  /-- Lets the session be resumed. -/
  key : Option String := none
  errorReason : Option ErrorInfo := none
  /-- How long after a loss the session can be resumed. -/
  stateTtl : Duration
  /-- The server says something at least this often. -/
  maxIdle : Duration
  /-- The first loss since the connection was last up. -/
  disconnectedAt : Option Instant := none
  /-- The losses since the connection was last up or closed, counted modulo `2 ^ 32`. -/
  retryAttempts : UInt32 := 0
  /-- The serial of the next message that is to be acknowledged. -/
  nextSerial : Int := 0
  /-- Counts the links, so that a report of an older one is told apart. -/
  generation : Nat := 0
  timer : Option (Alarm Connection.Timer) := none
deriving DecidableEq, Repr

namespace Connection

def isConnected (c : Connection) : Bool := c.state == .connected

/-- The key that a greeting gives; the one in its details counts more. -/
def greetedKey (m : Message) : Option String :=
  (m.connectionDetails.bind (·.connectionKey)) <|> m.connectionKey

/-- Take over what a greeting says of the session. What it leaves out stays. -/
def greet (c : Connection) (m : Message) : Connection :=
  { c with
    id := m.connectionId
    key := greetedKey m <|> c.key
    stateTtl := ((m.connectionDetails.bind (·.connectionStateTtl)).map
      Duration.ofMillisInt).getD c.stateTtl
    maxIdle := ((m.connectionDetails.bind (·.maxIdleInterval)).map
      Duration.ofMillisInt).getD c.maxIdle }

/-- A session can be resumed while less than its time to live has passed since the loss. -/
def canResume (c : Connection) (now : Instant) : Bool :=
  c.key.isSome && c.disconnectedAt.all fun lost => decide (now.elapsed lost < c.stateTtl)

/-- Use up a serial. -/
def takeSerial (c : Connection) : Connection := { c with nextSerial := c.nextSerial + 1 }

/-- The session is over: nothing of it can be resumed. -/
def endSession (c : Connection) : Connection :=
  { c with id := none, key := none, disconnectedAt := none, timer := none }

end Connection

end PresenceClient
