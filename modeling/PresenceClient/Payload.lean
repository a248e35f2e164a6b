-- Payloads: the values an application sends and receives. A record lists its fields in
-- ascending name order, each name once; storing a field again replaces it.
import PresenceClient.Table
import PresenceClient.Number.Binary64

namespace PresenceClient

open Number (Binary64)

/-- A value of an application: what JSON text can hold. -/
inductive Payload where
  | null
  | bool (b : Bool)
  | int (n : Int)
  | float (x : Binary64)
  | text (s : String)
  | list (items : List Payload)
  | record (fields : List (String × Payload))
deriving Repr, Inhabited

namespace Payload

/-! ## Equality -/

mutual

def decEq : (a b : Payload) → Decidable (a = b)
  | .null, .null => isTrue rfl
  | .bool a, .bool b => decidable_of_iff (a = b) (by simp)
  | .int a, .int b => decidable_of_iff (a = b) (by simp)
  | .float a, .float b => decidable_of_iff (a = b) (by simp)
  | .text a, .text b => decidable_of_iff (a = b) (by simp)
  | .list a, .list b => match decEqItems a b with
    | isTrue h => isTrue (by rw [h])
    | isFalse h => isFalse (by simpa using h)
  | .record a, .record b => match decEqFields a b with
    | isTrue h => isTrue (by rw [h])
    | isFalse h => isFalse (by simpa using h)
  | .null, .bool _ | .null, .int _ | .null, .float _ | .null, .text _ | .null, .list _
  | .null, .record _ | .bool _, .null | .bool _, .int _ | .bool _, .float _ | .bool _, .text _
  | .bool _, .list _ | .bool _, .record _ | .int _, .null | .int _, .bool _ | .int _, .float _
  | .int _, .text _ | .int _, .list _ | .int _, .record _ | .float _, .null | .float _, .bool _
  | .float _, .int _ | .float _, .text _ | .float _, .list _ | .float _, .record _
  | .text _, .null | .text _, .bool _ | .text _, .int _ | .text _, .float _ | .text _, .list _
  | .text _, .record _ | .list _, .null | .list _, .bool _ | .list _, .int _ | .list _, .float _
  | .list _, .text _ | .list _, .record _ | .record _, .null | .record _, .bool _
  | .record _, .int _ | .record _, .float _ | .record _, .text _ | .record _, .list _ =>
    isFalse (by simp)

def decEqItems : (a b : List Payload) → Decidable (a = b)
  | [], [] => isTrue rfl
  | [], _ :: _ => isFalse (by simp)
  | _ :: _, [] => isFalse (by simp)
  | a :: as, b :: bs => match decEq a b, decEqItems as bs with
    | isTrue h, isTrue hs => isTrue (by rw [h, hs])
    | isFalse h, _ => isFalse (by simp [h])
    | _, isFalse hs => isFalse (by simp [hs])

def decEqFields : (a b : List (String × Payload)) → Decidable (a = b)
  | [], [] => isTrue rfl
  | [], _ :: _ => isFalse (by simp)
  | _ :: _, [] => isFalse (by simp)
  | (m, a) :: as, (n, b) :: bs => match decEq a b, decEqFields as bs with
    | isTrue h, isTrue hs =>
      if hn : m = n then isTrue (by rw [h, hs, hn]) else isFalse (by simp [hn])
    | isFalse h, _ => isFalse (by simp [h])
    | _, isFalse hs => isFalse (by simp [hs])

end

instance : DecidableEq Payload := decEq

/-! ## Records -/

/-- The record of a list of fields; of two with one name the later stays. -/
def ofFields (fields : List (String × Payload)) : Payload :=
  .record (fields.foldl (fun es f => Entries.put f.1 f.2 es) [])

/-- The value of a field; nothing for what is not a record. -/
def field? (name : String) : Payload → Option Payload
  | .record fields => Entries.get? name fields
  | _ => none

/-! ## What a payload needs to keep its meaning in text -/

mutual

/-- No doubles anywhere inside. -/
def floatFree : Payload → Bool
  | .float _ => false
  | .list items => floatFreeItems items
  | .record fields => floatFreeFields fields
  | _ => true

def floatFreeItems : List Payload → Bool
  | [] => true
  | p :: ps => p.floatFree && floatFreeItems ps

def floatFreeFields : List (String × Payload) → Bool
  | [] => true
  | (_, p) :: ps => p.floatFree && floatFreeFields ps

end

mutual

/-- How many containers lie inside one another. -/
def depth : Payload → Nat
  | .list items => depthItems items + 1
  | .record fields => depthFields fields + 1
  | _ => 0

def depthItems : List Payload → Nat
  | [] => 0
  | p :: ps => max p.depth (depthItems ps)

def depthFields : List (String × Payload) → Nat
  | [] => 0
  | (_, p) :: ps => max p.depth (depthFields ps)

end

end Payload

end PresenceClient
