-- From packed values to payloads and back. Bytes become base64 text, a double that is no
-- number becomes null, and a map becomes a record in which the later of two entries with
-- one name stays. The other way, text becomes its bytes.
import PresenceClient.Packed.Label
import PresenceClient.Packed.Reader
import PresenceClient.Bytes.Base64
import PresenceClient.Payload

namespace PresenceClient.Packed

open Number (Binary64)

def floatPayload (x : Binary64) : Payload := if x.isFinite then .float x else .null

mutual

/-- The payload that a packed value means. -/
def unpack : Packed → Payload
  | .nil => .null
  | .bool b => .bool b
  | .int n => .int n
  | .single word => floatPayload (Binary64.ofSingle word)
  | .double x => floatPayload x
  | .text bytes => .text (textOrEmpty bytes)
  | .bin bytes | .ext _ bytes => .text (String.ofList (Bytes.Base64.encode bytes))
  | .list items => .list (unpackItems items)
  | .map entries => .ofFields (unpackEntries entries)

def unpackItems : List Packed → List Payload
  | [] => []
  | v :: rest => v.unpack :: unpackItems rest

def unpackEntries : List (Packed × Packed) → List (String × Payload)
  | [] => []
  | (k, v) :: rest => (k.fieldName, v.unpack) :: unpackEntries rest

end

/-- Packed text. -/
def ofText (s : String) : Packed := .text (Bytes.ofText s)

mutual

/-- The packed form of a payload. -/
def ofPayload : Payload → Packed
  | .null => .nil
  | .bool b => .bool b
  | .int n => .int n
  | .float x => .double x
  | .text s => ofText s
  | .list items => .list (ofItems items)
  | .record fields => .map (ofFields fields)

def ofItems : List Payload → List Packed
  | [] => []
  | p :: rest => ofPayload p :: ofItems rest

def ofFields : List (String × Payload) → List (Packed × Packed)
  | [] => []
  | (name, p) :: rest => (ofText name, ofPayload p) :: ofFields rest

end

end PresenceClient.Packed
