-- The errors that the client raises itself, each by its cause. One function gives every
-- cause its code, its status and its text.
import PresenceClient.ErrorInfo
import PresenceClient.Connection.State
import PresenceClient.Channel.State

namespace PresenceClient

/-- What is refused on a channel in the wrong state. -/
inductive Attempt where
  | publish
  | get
  | subscribe
  | detach
deriving DecidableEq, Repr

def Attempt.phrase : Attempt → String
  | .publish => "publish presence"
  | .get => "get presence"
  | .subscribe => "subscribe"
  | .detach => "detach"

/-- Why the client itself raises an error. -/
inductive Cause where
  | connectionState (state : Connection.State)
  | disconnectedByServer
  | connectionLost
  | connectTimedOut
  | linkIdle
  | unavailable
  | connectionClosed
  | clientDropped
  | noDetails
  | messageRejected
  | attachTimedOut
  | detachTimedOut
  | detachSuperseded
  | detachedWhileAttaching
  | channelDetached
  | channelReleased
  | missingClientId
  | channelState (attempt : Attempt) (state : Channel.State)
  | syncSuspended
deriving DecidableEq, Repr

namespace Cause

/-- The code for a connection that cannot serve in its state. -/
def connectionCode : Connection.State → Int
  | .initialized => 40000
  | .connecting | .disconnected => 80003
  | .suspended => 80002
  | .closing | .closed => 80017
  | .failed | .connected => 80000

def info : Cause → ErrorInfo
  | connectionState state =>
    ⟨connectionCode state, some 400, "connection is " ++ state.name⟩
  | disconnectedByServer => ⟨80003, none, "disconnected by server"⟩
  | connectionLost => ⟨80003, none, "connection lost"⟩
  | connectTimedOut => ⟨80014, none, "timed out waiting for CONNECTED"⟩
  | linkIdle => ⟨80003, none, "no activity from server within max idle interval"⟩
  | unavailable => ⟨80002, none, "connection to server unavailable"⟩
  | connectionClosed => ⟨80017, none, "connection closed"⟩
  | clientDropped => ⟨80017, none, "client dropped"⟩
  | noDetails => ⟨80000, none, "no error details from server"⟩
  | messageRejected => ⟨90000, none, "message rejected"⟩
  | attachTimedOut => ⟨90007, none, "timed out waiting for ATTACHED"⟩
  | detachTimedOut => ⟨80014, none, "timed out waiting for DETACHED"⟩
  | detachSuperseded => ⟨90000, some 400, "detach superseded by attach"⟩
  | detachedWhileAttaching => ⟨90000, some 400, "channel detached before attach completed"⟩
  | channelDetached => ⟨90000, some 400, "channel detached"⟩
  | channelReleased => ⟨90000, some 400, "channel released"⟩
  | missingClientId => ⟨40012, some 400, "unable to publish presence without a clientId"⟩
  | channelState attempt state =>
    ⟨90001, some 400,
      "unable to " ++ attempt.phrase ++ ": invalid channel state (" ++ state.name ++ ")"⟩
  | syncSuspended =>
    ⟨91005, some 400, "presence state is out of sync due to the channel being suspended"⟩

end Cause

end PresenceClient
