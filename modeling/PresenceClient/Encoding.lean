-- Encodings: the layers that a payload wears in a message, named from the innermost to
-- the outermost with slashes between them.
import PresenceClient.Payload.Parser
import PresenceClient.Payload.Printer
import PresenceClient.Bytes.Base64
import PresenceClient.Text.Parts

namespace PresenceClient.Encoding

/-! ## Layers -/

inductive Layer where
  /-- JSON text of a value. -/
  | json
  /-- Base64 text of bytes. -/
  | base64
  /-- Text as bytes; nothing to undo. -/
  | utf8
  | unknown
deriving DecidableEq, Repr

def layerOf (name : List Char) : Layer :=
  if name = ['j', 's', 'o', 'n'] then .json
  else if name = ['b', 'a', 's', 'e', '6', '4'] then .base64
  else if name = ['u', 't', 'f', '-', '8'] then .utf8
  else .unknown

/-- The layers of an encoding, the outermost first. -/
def layers (encoding : String) : List Layer :=
  (Text.partsOf '/' encoding.toList).reverse.map layerOf

/-! ## Taking them off -/

/-- The list of some bytes. -/
def bytesPayload (bytes : List UInt8) : Payload := .list (bytes.map fun b => .int b.toNat)

/-- Take off one layer; none if it will not come off. Only text wears any. -/
def peel (layer : Layer) (data : Payload) : Option Payload :=
  match layer, data with
  | .json, .text s => Payload.parse s
  | .base64, .text s => (Bytes.Base64.decode s.toList).map bytesPayload
  | .unknown, _ => none
  | _, data => some data

/-- Take off layers until one will not come off. -/
def peelAll : List Layer → Payload → Payload
  | [], data => data
  | layer :: rest, data => match peel layer data with
    | some inner => peelAll rest inner
    | none => data

/-- The payload under its layers. -/
def decode (data : Payload) (encoding : Option String) : Payload :=
  match encoding with
  | none => data
  | some encoding => if encoding = "" then data else peelAll (layers encoding) data

/-! ## Putting them on -/

/-- A payload ready to travel: text as it is, null as nothing, all else as JSON text. -/
def encode : Payload → Option Payload × Option String
  | .null => (none, none)
  | .text s => (some (.text s), none)
  | data => (some (.text data.render), some "json")

end PresenceClient.Encoding
