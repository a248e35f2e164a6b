-- What a client is set up with.
import PresenceClient.Table
import PresenceClient.Time

namespace PresenceClient

/-- Waiting times and how often to retry. -/
structure Timing where
  /-- For a link to open and the server to greet. -/
  connectTimeout : Duration := Duration.ofSeconds 30
  /-- For the server to answer an attach, a detach or a close. -/
  requestTimeout : Duration := Duration.ofSeconds 10
  /-- Before a retry while disconnected; the back-off stretches it. -/
  disconnectedRetry : Duration := Duration.ofSeconds 15
  /-- Between retries while suspended. -/
  suspendedRetry : Duration := Duration.ofSeconds 30
  /-- Before a suspended channel attaches again. -/
  channelRetry : Duration := Duration.ofSeconds 15
  /-- Patience beyond the idle time that the server announces. -/
  heartbeatMargin : Duration := Duration.ofSeconds 10
  /-- The idle time until the server announces one. -/
  defaultMaxIdle : Duration := Duration.ofSeconds 15
  /-- How long a session can be resumed, until the server says. -/
  defaultStateTtl : Duration := Duration.ofSeconds 120
  /-- Failed attempts in a row after which the connection is suspended. -/
  maxAttempts : UInt32 := 40
deriving DecidableEq, Repr, Inhabited

structure Options where
  /-- A key, used when there is no token. -/
  key : Option String := none
  token : Option String := none
  /-- Who the client is when it enters a channel. -/
  clientId : Option String := none
  host : Option String := none
  tls : Bool := true
  /-- Connect at once. -/
  autoConnect : Bool := true
  /-- Keep operations while the connection is away for a short time. -/
  queueMessages : Bool := true
  /-- Have the server send back what this connection sends. -/
  echoMessages : Bool := true
  /-- Names the sequence of jitter words. -/
  jitterSeed : Option Nat := none
  /-- More parameters for the address of a link. -/
  params : Table String String := ∅
  timing : Timing := {}
deriving DecidableEq, Repr, Inhabited

namespace Options

def defaultHost : String := "realtime.ably.io"

def realtimeHost (o : Options) : String := o.host.getD defaultHost

end Options

end PresenceClient
