-- Messages as bytes. Writing gives every field, nil for the absent ones. Reading takes
-- the fields by name, or by place where a list stands for the record, and refuses a
-- field of the wrong kind; absent fields take their defaults and unknown ones are
-- passed over.
import PresenceClient.Message
import PresenceClient.Packed.Unpack
import PresenceClient.Error

namespace PresenceClient

/-! ## Writing -/

namespace Wire

/-- What may be absent, nil for nothing. -/
def packOption {α : Type} (pack : α → Packed) : Option α → Packed
  | some a => pack a
  | none => .nil

def packText (s : Option String) : Packed := packOption Packed.ofText s

def packInt (n : Option Int) : Packed := packOption .int n

/-- A map with the given fields. -/
def packFields (fields : List (String × Packed)) : Packed :=
  .map (fields.map fun (name, v) => (Packed.ofText name, v))

def packParams (t : Table String String) : Packed :=
  packFields (t.entries.map fun (name, value) => (name, Packed.ofText value))

end Wire

open Wire

def ErrorInfo.pack (e : ErrorInfo) : Packed :=
  packFields
    [("code", .int e.code),
     ("statusCode", packInt e.statusCode),
     ("message", Packed.ofText e.message)]

def ConnectionDetails.pack (d : ConnectionDetails) : Packed :=
  packFields
    [("clientId", packText d.clientId),
     ("connectionKey", packText d.connectionKey),
     ("connectionStateTtl", packInt d.connectionStateTtl),
     ("maxIdleInterval", packInt d.maxIdleInterval),
     ("maxMessageSize", packInt d.maxMessageSize),
     ("serverId", packText d.serverId)]

def Entry.pack (e : Entry) : Packed :=
  packFields
    [("id", packText e.id),
     ("action", .int e.action),
     ("clientId", packText e.clientId),
     ("connectionId", packText e.connectionId),
     ("data", packOption Packed.ofPayload e.data),
     ("encoding", packText e.encoding),
     ("timestamp", packInt e.timestamp)]

def Entry.packAll (entries : List Entry) : Packed := .list (entries.map Entry.pack)

def Message.pack (m : Message) : Packed :=
  packFields
    [("action", .int m.action),
     ("id", packText m.id),
     ("channel", packText m.channel),
     ("channelSerial", packText m.channelSerial),
     ("connectionId", packText m.connectionId),
     ("connectionKey", packText m.connectionKey),
     ("connectionDetails", packOption ConnectionDetails.pack m.connectionDetails),
     ("msgSerial", packInt m.msgSerial),
     ("count", packInt m.count),
     ("flags", packInt m.flags),
     ("error", packOption ErrorInfo.pack m.error),
     ("presence", packOption Entry.packAll m.presence),
     ("timestamp", packInt m.timestamp),
     ("params", packOption packParams m.params)]

/-- The bytes of a message. -/
def Message.encode (m : Message) : List UInt8 := m.pack.write

/-! ## Reading -/

namespace Wire

/-- The fields of a record of the given names, which may come as a list in their order. -/
def fieldsOf (names : List String) : Payload → Option (String → Option Payload)
  | .record fields => some fun name => Entries.get? name fields
  | .list items =>
    if items.length ≤ names.length then some fun name => Entries.get? name (names.zip items)
    else none
  | _ => none

/-- A field that has a default but may not be null. -/
def plain {α : Type} (default : α) (read : Payload → Option α) (field : Option Payload) :
    Option α :=
  match field with
  | none => some default
  | some p => read p

/-- A field that may be absent or null. -/
def optional {α : Type} (read : Payload → Option α) (field : Option Payload) :
    Option (Option α) :=
  match field with
  | none | some .null => some none
  | some p => (read p).map some

def readText : Payload → Option String
  | .text s => some s
  | _ => none

/-- A whole number of `bits` bits, with a sign. -/
def readInt (bits : Nat) : Payload → Option Int
  | .int n =>
    if -(Number.twoTo (bits - 1) : Int) ≤ n ∧ n < Number.twoTo (bits - 1) then some n else none
  | _ => none

def readParams : Payload → Option (Table String String)
  | .record fields => do
    let values ← fields.mapM fun (name, p) => (readText p).map fun s => (name, s)
    some ⟨values⟩
  | _ => none

def readPayload (p : Payload) : Option Payload := some p

end Wire

def ErrorInfo.fieldNames : List String := ["code", "statusCode", "message"]

def ErrorInfo.ofPayload? (p : Payload) : Option ErrorInfo := do
  let field ← fieldsOf fieldNames p
  some {
    code := ← plain 0 (readInt 32) (field "code")
    statusCode := ← optional (readInt 32) (field "statusCode")
    message := ← plain "" readText (field "message") }

def ConnectionDetails.fieldNames : List String :=
  ["clientId", "connectionKey", "connectionStateTtl", "maxIdleInterval", "maxMessageSize",
    "serverId"]

def ConnectionDetails.ofPayload? (p : Payload) : Option ConnectionDetails := do
  let field ← fieldsOf fieldNames p
  some {
    clientId := ← optional readText (field "clientId")
    connectionKey := ← optional readText (field "connectionKey")
    connectionStateTtl := ← optional (readInt 64) (field "connectionStateTtl")
    maxIdleInterval := ← optional (readInt 64) (field "maxIdleInterval")
    maxMessageSize := ← optional (readInt 64) (field "maxMessageSize")
    serverId := ← optional readText (field "serverId") }

def Entry.fieldNames : List String :=
  ["id", "action", "clientId", "connectionId", "data", "encoding", "timestamp"]

def Entry.ofPayload? (p : Payload) : Option Entry := do
  let field ← fieldsOf fieldNames p
  some {
    id := ← optional readText (field "id")
    action := ← plain 0 (readInt 32) (field "action")
    clientId := ← optional readText (field "clientId")
    connectionId := ← optional readText (field "connectionId")
    data := ← optional readPayload (field "data")
    encoding := ← optional readText (field "encoding")
    timestamp := ← optional (readInt 64) (field "timestamp") }

/-- The entries of a list. -/
def Entry.listOf? : Payload → Option (List Entry)
  | .list items => items.mapM Entry.ofPayload?
  | _ => none

def Message.fieldNames : List String :=
  ["action", "id", "channel", "channelSerial", "connectionId", "connectionKey",
    "connectionDetails", "msgSerial", "count", "flags", "error", "presence", "timestamp",
    "params"]

/-- The message that a payload stands for. -/
def Message.ofPayload? (p : Payload) : Option Message := do
  let field ← fieldsOf fieldNames p
  some {
    action := ← plain 0 (readInt 32) (field "action")
    id := ← optional readText (field "id")
    channel := ← optional readText (field "channel")
    channelSerial := ← optional readText (field "channelSerial")
    connectionId := ← optional readText (field "connectionId")
    connectionKey := ← optional readText (field "connectionKey")
    connectionDetails := ← optional ConnectionDetails.ofPayload? (field "connectionDetails")
    msgSerial := ← optional (readInt 64) (field "msgSerial")
    count := ← optional (readInt 64) (field "count")
    flags := ← optional (readInt 32) (field "flags")
    error := ← optional ErrorInfo.ofPayload? (field "error")
    presence := ← optional Entry.listOf? (field "presence")
    timestamp := ← optional (readInt 64) (field "timestamp")
    params := ← optional readParams (field "params") }

/-- The message at the front of some bytes. -/
def Message.decode (bytes : List UInt8) : Except Error Message :=
  match Packed.parse bytes with
  | none => .error .notPacked
  | some v => match Message.ofPayload? v.unpack with
    | none => .error .notMessage
    | some m => .ok m

end PresenceClient
