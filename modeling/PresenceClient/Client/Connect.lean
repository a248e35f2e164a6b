-- Connecting: a new link is opened, and the session is resumed where it can be.
import PresenceClient.Client

namespace PresenceClient.Client

open Logged (tell)

/-- The session key that the next link is opened with. -/
def resumeKey (c : Client) : Option String :=
  if c.connection.canResume c.clock then c.connection.key else none

def linkParams (c : Client) : LinkParams :=
  { host := c.options.realtimeHost
    tls := c.options.tls
    key := c.options.key
    token := c.options.token
    clientId := c.options.clientId
    echo := c.options.echoMessages
    resume := c.resumeKey
    extra := c.options.params }

/-- Replace the link by a new one and wait for the server to greet. -/
def startConnecting (c : Client) : Logged Client :=
  if c.connection.state.canBecome .connecting then do
    let c ← c.become .connecting none none
    let c ← c.dropLink
    tell [.openLink c.connection.generation c.linkParams]
    pure (c.setTimer (some (Alarm.after c.clock c.options.timing.connectTimeout .connectTimeout)))
  else pure c

/-- Connect, unless that is under way, done, or waiting for a close. -/
def connect (c : Client) : Logged Client :=
  match c.connection.state with
  | .connecting | .connected | .closing => pure c
  | _ => c.startConnecting

end PresenceClient.Client
