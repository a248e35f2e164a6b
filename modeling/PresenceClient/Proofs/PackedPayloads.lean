-- Payloads in packed form and back. A payload without doubles comes back as it was: null as nil,
-- text as its bytes, a record as a map with the same names. The room that is needed grows by two
-- with each container.
import PresenceClient.Packed.Unpack
import PresenceClient.Proofs.PackedBytes
import PresenceClient.Proofs.PayloadForms

namespace PresenceClient

/-! ## Lengths of 32 bits -/

/-- The bytes of a text can be counted with 32 bits. -/
def IsShort (s : String) : Prop := s.utf8ByteSize < 2 ^ 32

instance (s : String) : Decidable (IsShort s) := inferInstanceAs (Decidable (_ < _))

namespace Payload

mutual

/-- Every text, list and record inside is shorter than `2 ^ 32`. -/
def Short : Payload → Prop
  | .text s => IsShort s
  | .list items => items.length < 2 ^ 32 ∧ ShortItems items
  | .record fields => fields.length < 2 ^ 32 ∧ ShortFields fields
  | .null | .bool _ | .int _ | .float _ => True

def ShortItems : List Payload → Prop
  | [] => True
  | p :: rest => p.Short ∧ ShortItems rest

def ShortFields : List (String × Payload) → Prop
  | [] => True
  | (name, p) :: rest => IsShort name ∧ p.Short ∧ ShortFields rest

end

end Payload

namespace Packed

open Payload (WellFormedItems WellFormedFields ShortItems ShortFields floatFreeItems floatFreeFields
  depthItems depthFields)

/-! ## Back again -/

theorem fieldName_ofText (s : String) : (ofText s).fieldName = s := by
  simp [ofText, fieldName, textOrEmpty, Bytes.toText?_ofText]

theorem unpack_ofText (s : String) : (ofText s).unpack = .text s := by
  simp [ofText, unpack, textOrEmpty, Bytes.toText?_ofText]

theorem fits_ofText {s : String} (h : IsShort s) : (ofText s).Fits := by
  have hlength : (Bytes.ofText s).length = s.utf8ByteSize := by simp [Bytes.ofText]
  show (Bytes.ofText s).length < 2 ^ 32
  rwa [hlength]

mutual

theorem unpack_ofPayload : (p : Payload) → p.WellFormed → p.floatFree = true →
    (ofPayload p).unpack = p
  | .null, _, _ => rfl
  | .bool _, _, _ => rfl
  | .int _, _, _ => rfl
  | .text s, _, _ => unpack_ofText s
  | .list items, h, hf => congrArg Payload.list (unpack_ofItems items h hf)
  | .record fields, h, hf => by
    rw [ofPayload, unpack, unpack_ofFields fields h.2 hf, Payload.ofFields_ascending h.1]

theorem unpack_ofItems : (items : List Payload) → WellFormedItems items →
    floatFreeItems items = true → unpackItems (ofItems items) = items
  | [], _, _ => rfl
  | p :: rest, h, hf => by
    obtain ⟨hp, hrest⟩ := Bool.and_eq_true_iff.mp hf
    rw [ofItems, unpackItems, unpack_ofPayload p h.1 hp, unpack_ofItems rest h.2 hrest]

theorem unpack_ofFields : (fields : List (String × Payload)) → WellFormedFields fields →
    floatFreeFields fields = true → unpackEntries (ofFields fields) = fields
  | [], _, _ => rfl
  | (name, p) :: rest, h, hf => by
    obtain ⟨hp, hrest⟩ := Bool.and_eq_true_iff.mp hf
    rw [ofFields, unpackEntries, fieldName_ofText, unpack_ofPayload p h.1 hp,
      unpack_ofFields rest h.2 hrest]

end

/-! ## The room and the lengths -/

mutual

theorem need_ofPayload : (p : Payload) → (ofPayload p).need ≤ 2 * p.depth + 3
  | .null => Nat.le_add_left _ _
  | .bool _ => Nat.le_add_left _ _
  | .int _ => Nat.le_add_left _ _
  | .float _ => Nat.le_add_left _ _
  | .text _ => Nat.le_refl _
  | .list items => by
    have hitems := need_ofItems items
    simp only [ofPayload, need, Payload.depth]
    omega
  | .record fields => by
    have hfields := need_ofFields fields
    simp only [ofPayload, need, Payload.depth]
    omega

theorem need_ofItems : (items : List Payload) → needItems (ofItems items) ≤ 2 * depthItems items + 3
  | [] => Nat.zero_le _
  | p :: rest => by
    have hp := need_ofPayload p
    have hrest := need_ofItems rest
    simp only [ofItems, needItems, depthItems]
    omega

theorem need_ofFields : (fields : List (String × Payload)) →
    needEntries (ofFields fields) ≤ 2 * depthFields fields + 3
  | [] => Nat.zero_le _
  | (name, p) :: rest => by
    have hp := need_ofPayload p
    have hrest := need_ofFields rest
    simp only [ofFields, needEntries, depthFields, ofText, need]
    omega

end

theorem length_ofItems (items : List Payload) : (ofItems items).length = items.length := by
  induction items with
  | nil => rfl
  | cons p rest ih => exact congrArg (· + 1) ih

theorem length_ofFields (fields : List (String × Payload)) :
    (ofFields fields).length = fields.length := by
  induction fields with
  | nil => rfl
  | cons e rest ih => exact congrArg (· + 1) ih

mutual

theorem fits_ofPayload : (p : Payload) → p.WellFormed → p.Short → (ofPayload p).Fits
  | .null, _, _ => trivial
  | .bool _, _, _ => trivial
  | .int _, h, _ => h
  | .float _, _, _ => trivial
  | .text _, _, hs => fits_ofText hs
  | .list items, h, hs => ⟨by rw [length_ofItems]; exact hs.1, fits_ofItems items h hs.2⟩
  | .record fields, h, hs => ⟨by rw [length_ofFields]; exact hs.1, fits_ofFields fields h.2 hs.2⟩

theorem fits_ofItems : (items : List Payload) → WellFormedItems items → ShortItems items →
    FitItems (ofItems items)
  | [], _, _ => trivial
  | p :: rest, h, hs => ⟨fits_ofPayload p h.1 hs.1, fits_ofItems rest h.2 hs.2⟩

theorem fits_ofFields : (fields : List (String × Payload)) → WellFormedFields fields →
    ShortFields fields → FitEntries (ofFields fields)
  | [], _, _ => trivial
  | (_, p) :: rest, h, hs =>
    ⟨fits_ofText hs.1, fits_ofPayload p h.1 hs.2.1, fits_ofFields rest h.2 hs.2.2⟩

end

end Packed

end PresenceClient
