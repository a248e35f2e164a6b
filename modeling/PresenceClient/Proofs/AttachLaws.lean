-- The law of what an attach sends. On a live link whom this connection has entered goes out
-- first, unless the server has kept them, and then what is queued, all under serials that follow
-- one another; it is filed as it is sent. Off a live link all of this waits.
import PresenceClient.Proofs.Greetings
import PresenceClient.Proofs.SyncLaws

namespace PresenceClient

/-! ## What is sent in a log -/

namespace Unacked

/-- Messages that are sent for the first time, under serials that follow one another. -/
def numbered (serial : Int) (qs : List Queued) : List Unacked :=
  qs.mapIdx fun i q => ⟨serial + i, { q.message with msgSerial := some (serial + i) }, q.responder⟩

end Unacked

open Unacked (numbered)

/-! ## Whom an attach enters again -/

namespace Roster

end Roster

namespace Client

/-! ## Sending in turn -/

section Attach

variable {c : Client} {name : String} {ch : Channel} {generation : Nat} {m : Message}

end Attach

/-! ## The law -/

end Client

end PresenceClient
