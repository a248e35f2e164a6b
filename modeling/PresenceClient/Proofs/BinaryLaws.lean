-- The law of binary data. Bytes that arrive as the data of a presence entry become base64 text on
-- the way, and under a layer of that name the very bytes again, as a list of numbers. Nothing else
-- in the entry or around it has a part in that.
import PresenceClient.Presence.Arrival
import PresenceClient.Proofs.FieldLaws
import PresenceClient.Proofs.WireLaws

namespace PresenceClient

/-! ## Base64 -/

namespace Bytes.Base64

theorem value?_digit : ∀ n < 64, value? (digit n) = some n := by decide

theorem digit_ne_pad : ∀ n < 64, digit n ≠ '=' := by decide

/-- Three bytes are read from the four characters that they make. -/
theorem decode_digits {x y z w : Nat} (hx : x < 64) (hy : y < 64) (hz : z < 64) (hw : w < 64)
    (rest : List Char) :
    decode (digit x :: digit y :: digit z :: digit w :: rest) = (decode rest).map fun bytes =>
      UInt8.ofNat (x * 4 + y / 16) :: UInt8.ofNat (y % 16 * 16 + z / 4) ::
        UInt8.ofNat (z % 4 * 64 + w) :: bytes := by
  rw [decode]
  simp only [value?_digit x hx, value?_digit y hy, value?_digit z hz, value?_digit w hw,
    digit_ne_pad z hz, digit_ne_pad w hw, false_and, if_false, Option.bind_eq_bind,
    Option.bind_some]
  cases decode rest <;> rfl

theorem decode_two {x y z : Nat} (hx : x < 64) (hy : y < 64) (hz : z < 64) (hend : z % 4 = 0) :
    decode [digit x, digit y, digit z, '='] =
      some [UInt8.ofNat (x * 4 + y / 16), UInt8.ofNat (y % 16 * 16 + z / 4)] := by
  rw [decode]
  simp [value?_digit x hx, value?_digit y hy, value?_digit z hz, digit_ne_pad z hz, hend]

theorem decode_one {x y : Nat} (hx : x < 64) (hy : y < 64) (hend : y % 16 = 0) :
    decode [digit x, digit y, '=', '='] = some [UInt8.ofNat (x * 4 + y / 16)] := by
  rw [decode]
  simp [value?_digit x hx, value?_digit y hy, hend]

theorem ofNat_of_eq {n : Nat} {b : UInt8} (h : n = b.toNat) : UInt8.ofNat n = b :=
  h ▸ UInt8.ofNat_toNat

/-- Bytes come back from the text that they make, whatever is left over of the threes. -/
theorem decode_encode (bytes : List UInt8) : decode (encode bytes) = some bytes := by
  fun_induction encode bytes with
  | case1 a b c rest ih =>
    have ha := a.toNat_lt
    have hb := b.toNat_lt
    have hc := c.toNat_lt
    rw [decode_digits (by omega) (by omega) (by omega) (by omega), ih,
      ofNat_of_eq (b := a) (by omega), ofNat_of_eq (b := b) (by omega),
      ofNat_of_eq (b := c) (by omega)]
    rfl
  | case2 a b =>
    have ha := a.toNat_lt
    have hb := b.toNat_lt
    rw [decode_two (by omega) (by omega) (by omega) (by omega), ofNat_of_eq (b := a) (by omega),
      ofNat_of_eq (b := b) (by omega)]
  | case3 a =>
    have ha := a.toNat_lt
    rw [decode_one (by omega) (by omega) (by omega), ofNat_of_eq (b := a) (by omega)]
  | case4 => rfl

end Bytes.Base64

/-! ## Layers -/

namespace Encoding

/-- A list wears no layers. -/
theorem peelAll_list (ls : List Layer) (items : List Payload) :
    peelAll ls (.list items) = .list items := by
  induction ls with
  | nil => rfl
  | cons layer rest ih =>
    cases layer with
    | unknown => rfl
    | _ => exact ih

theorem peelAll_utf8 (k : Nat) (ls : List Layer) (data : Payload) :
    peelAll (List.replicate k .utf8 ++ ls) data = peelAll ls data := by
  induction k with
  | zero => rfl
  | succ k ih => exact ih

/-- Bytes that were made text come back, once the layers over the text are off. -/
theorem decode_base64 {encoding : String} {front : List (List Char)} {k : Nat}
    (h : Text.partsOf '/' encoding.toList =
      front ++ "base64".toList :: List.replicate k "utf-8".toList) (bytes : List UInt8) :
    decode (.text (String.ofList (Bytes.Base64.encode bytes))) (some encoding) =
      bytesPayload bytes := by
  have hne : encoding ≠ "" := by
    rintro rfl
    have hmem : "base64".toList ∈ Text.partsOf '/' "".toList := h ▸ by simp
    exact absurd hmem (by decide)
  have hlayers : layers encoding =
      List.replicate k .utf8 ++ .base64 :: front.reverse.map layerOf := by
    rw [layers, h, List.reverse_append, List.reverse_cons, List.reverse_replicate, List.map_append,
      List.map_append, List.map_replicate, List.append_assoc]
    rfl
  show (if encoding = "" then _ else peelAll (layers encoding) _) = _
  rw [if_neg hne, hlayers, peelAll_utf8, peelAll]
  simp only [peel, String.toList_ofList, Bytes.Base64.decode_encode, Option.map_some]
  exact peelAll_list _ _

end Encoding

/-! ## Slots -/

/-- What stands in between is found under its key, if that key does not come before, and what stands
around it under all other keys. -/
theorem Entries.get?_between {κ α : Type} [DecidableEq κ] {before : List (κ × α)} {k : κ}
    (h : ∀ e ∈ before, e.1 ≠ k) (v : α) (after : List (κ × α)) (other : κ) :
    get? other (before ++ (k, v) :: after) =
      if other = k then some v else (get? other before).or (get? other after) := by
  induction before with
  | nil => rfl
  | cons e rest ih =>
    obtain ⟨hne, hrest⟩ := List.forall_mem_cons.mp h
    rw [List.cons_append, get?, get?, ih hrest]
    by_cases hk : other = e.1
    · rw [if_pos hk, if_pos hk, if_neg fun hother => hne (hk.symm.trans hother), Option.some_or]
    · rw [if_neg hk, if_neg hk]

namespace Packed

theorem unpackEntries_eq (es : List (Packed × Packed)) :
    unpackEntries es = es.map fun e => (e.1.fieldName, e.2.unpack) := by
  induction es with
  | nil => rfl
  | cons e rest ih => rw [unpackEntries, ih]; rfl

theorem unpackItems_eq (items : List Packed) : unpackItems items = items.map unpack := by
  induction items with
  | nil => rfl
  | cons v rest ih => rw [unpackItems, ih]; rfl

/-- A record with a place left open for the field of a name. In a map it is the last entry of that
name, since no other counts; a list has a place for each field. -/
inductive Slot (names : List String) (name : String) : (Packed → Packed) → Prop where
  | map (before : List (Packed × Packed)) (key : Packed) (after : List (Packed × Packed))
      (hkey : key.fieldName = name) (hlast : ∀ e ∈ after, e.1.fieldName ≠ name) :
      Slot names name fun v => .map (before ++ (key, v) :: after)
  | list (front behind : List String) (before after : List Packed)
      (hnames : names = front ++ name :: behind) (hfront : name ∉ front)
      (hbefore : before.length = front.length) (hafter : after.length ≤ behind.length) :
      Slot names name fun v => .list (before ++ v :: after)

variable {names : List String} {name : String} {slot : Packed → Packed}

/-- What is put into a slot is found under its name, and changes nothing under other names. -/
theorem Slot.fieldsOf (h : Slot names name slot) : ∃ others : String → Option Payload, ∀ v,
    Wire.fieldsOf names (slot v).unpack =
      some fun other => if other = name then some v.unpack else others other := by
  cases h with
  | map before key after hkey hlast =>
    -- The last entry of a name counts, so the entries are gone through from the end.
    let read (es : List (Packed × Packed)) := (unpackEntries es).reverse
    have hbehind : ∀ e ∈ read after, e.1 ≠ name := by
      intro e he
      simp only [read, unpackEntries_eq, List.mem_reverse, List.mem_map] at he
      obtain ⟨e', he', rfl⟩ := he
      exact hlast e' he'
    refine ⟨fun other => (Entries.get? other (read after)).or (Entries.get? other (read before)),
      fun v => congrArg some (funext fun other => ?_)⟩
    have hentries : (unpackEntries (before ++ (key, v) :: after)).reverse =
        read after ++ (name, v.unpack) :: read before := by
      simp only [read, unpackEntries_eq, List.map_append, List.map_cons, List.reverse_append,
        List.reverse_cons, List.append_assoc, List.singleton_append, hkey]
    calc Entries.get? other (Entries.putAll (unpackEntries (before ++ (key, v) :: after)) [])
      _ = Entries.get? other (read after ++ (name, v.unpack) :: read before) := by
        rw [Entries.get?_putAll_reverse, hentries]
        exact Option.or_none
      _ = _ := Entries.get?_between hbehind v.unpack (read before) other
  | list front behind before after hnames hfront hbefore hafter =>
    have hearlier : ∀ e ∈ front.zip (before.map unpack), e.1 ≠ name := by
      rintro e he rfl
      exact hfront (List.of_mem_zip he).1
    refine ⟨fun other => (Entries.get? other (front.zip (before.map unpack))).or
      (Entries.get? other (behind.zip (after.map unpack))), fun v => ?_⟩
    have hlength : (unpackItems (before ++ v :: after)).length ≤ names.length := by
      simp only [unpackItems_eq, hnames, List.length_map, List.length_append, List.length_cons]
      omega
    have hzip : names.zip (unpackItems (before ++ v :: after)) =
        front.zip (before.map unpack) ++ (name, v.unpack) :: behind.zip (after.map unpack) := by
      rw [unpackItems_eq, hnames, List.map_append, List.map_cons,
        List.zip_append (by rw [List.length_map, hbefore]), List.zip_cons_cons]
    show (if (unpackItems (before ++ v :: after)).length ≤ names.length then _ else none) = _
    rw [if_pos hlength, hzip]
    exact congrArg some (funext (Entries.get?_between hearlier v.unpack _))

end Packed

/-! ## Room and lengths -/

namespace Packed

variable {v w : Packed}

/-- In a list a value may take the place of another, if it fits where that one does. -/
theorem fits_list_between {before after : List Packed} (hw : v.Fits → w.Fits)
    (h : (list (before ++ v :: after)).Fits) : (list (before ++ w :: after)).Fits := by
  obtain ⟨hlength, h⟩ := h
  refine ⟨by simpa using hlength, ?_⟩
  clear hlength
  induction before with
  | nil => exact ⟨hw h.1, h.2⟩
  | cons first rest ih => exact ⟨h.1, ih h.2⟩

theorem fits_map_between {before after : List (Packed × Packed)} {key : Packed}
    (hw : v.Fits → w.Fits) (h : (map (before ++ (key, v) :: after)).Fits) :
    (map (before ++ (key, w) :: after)).Fits := by
  obtain ⟨hlength, h⟩ := h
  refine ⟨by simpa using hlength, ?_⟩
  clear hlength
  induction before with
  | nil => exact ⟨h.1, hw h.2.1, h.2.2⟩
  | cons first rest ih => exact ⟨h.1, h.2.1, ih h.2.2⟩

theorem need_list_between (h : v.need = w.need) (before after : List Packed) :
    (list (before ++ v :: after)).need = (list (before ++ w :: after)).need := by
  refine congrArg (· + 2) ?_
  induction before with
  | nil => exact congrArg (max · (needItems after)) h
  | cons first rest ih => exact congrArg (max first.need) ih

theorem need_map_between (h : v.need = w.need) (before : List (Packed × Packed)) (key : Packed)
    (after : List (Packed × Packed)) :
    (map (before ++ (key, v) :: after)).need = (map (before ++ (key, w) :: after)).need := by
  refine congrArg (· + 2) ?_
  induction before with
  | nil => exact congrArg (fun n => max (max key.need n) (needEntries after)) h
  | cons first rest ih => exact congrArg (max (max first.1.need first.2.need)) ih

variable {names : List String} {name : String} {slot : Packed → Packed}

theorem Slot.fits (h : Slot names name slot) (hw : v.Fits → w.Fits) (hv : (slot v).Fits) :
    (slot w).Fits := by
  cases h with
  | map => exact fits_map_between hw hv
  | list => exact fits_list_between hw hv

theorem Slot.need_eq (h : Slot names name slot) (hneed : v.need = w.need) :
    (slot v).need = (slot w).need := by
  cases h with
  | map before key after => exact need_map_between hneed before key after
  | list front behind before after => exact need_list_between hneed before after

end Packed

/-! ## The data of an entry -/

open Packed (Slot)
open Wire (optional)

/-- What comes first is read as it was, so what is read after it is left to see to. -/
theorem bind_eq_some_of {α β γ : Type} {x : Option α} {f : α → Option β} {g : α → Option γ}
    {b : β} {c : γ} (h : x >>= f = some b) (hfg : ∀ a, f a = some b → g a = some c) :
    x >>= g = some c := by
  obtain ⟨a, rfl, hf⟩ := Option.bind_eq_some_iff.mp h
  exact hfg a hf

/-- An entry that is read without data is read with it, whatever it is, and is as it was but for
that. -/
theorem Entry.ofPayload?_slot {slot : Packed → Packed} {e : Entry}
    (h : Slot fieldNames "data" slot) (he : ofPayload? (slot .nil).unpack = some e) {v : Packed}
    (hv : v.unpack ≠ .null) :
    ofPayload? (slot v).unpack = some { e with data := some v.unpack } := by
  obtain ⟨others, hfields⟩ := h.fieldsOf
  have hnone : optional Wire.readPayload (some Packed.nil.unpack) = some none := rfl
  have hdata : optional Wire.readPayload (some v.unpack) = some (some v.unpack) :=
    Wire.optional_some hv rfl
  rw [ofPayload?, hfields, Option.bind_eq_bind, Option.bind_some] at he ⊢
  simp only [String.reduceEq, ↓reduceIte] at he ⊢
  refine bind_eq_some_of he fun id he => bind_eq_some_of he fun action he =>
    bind_eq_some_of he fun clientId he => bind_eq_some_of he fun connectionId he => ?data
  case data =>
    rw [hnone, Option.bind_eq_bind, Option.bind_some] at he
    rw [hdata, Option.bind_eq_bind, Option.bind_some]
    refine bind_eq_some_of he fun encoding he => bind_eq_some_of he fun timestamp he => ?_
    cases he
    rfl

/-- A message that is read without entries is read with such as are read themselves. -/
theorem Message.ofPayload?_slot {slot : Packed → Packed} {m : Message} {v : Packed}
    {es : List Entry} (h : Slot fieldNames "presence" slot)
    (hm : ofPayload? (slot .nil).unpack = some m) (hes : Entry.listOf? v.unpack = some es) :
    ofPayload? (slot v).unpack = some { m with presence := some es } := by
  obtain ⟨others, hfields⟩ := h.fieldsOf
  have hnone : optional Entry.listOf? (some Packed.nil.unpack) = some none := rfl
  have hpresence : optional Entry.listOf? (some v.unpack) = some (some es) := by
    refine Wire.optional_some ?_ hes
    rintro hnull
    rw [hnull] at hes
    cases hes
  rw [ofPayload?, hfields, Option.bind_eq_bind, Option.bind_some] at hm ⊢
  simp only [String.reduceEq, ↓reduceIte] at hm ⊢
  refine bind_eq_some_of hm fun action hm => bind_eq_some_of hm fun id hm =>
    bind_eq_some_of hm fun channel hm => bind_eq_some_of hm fun channelSerial hm =>
    bind_eq_some_of hm fun connectionId hm => bind_eq_some_of hm fun connectionKey hm =>
    bind_eq_some_of hm fun connectionDetails hm => bind_eq_some_of hm fun msgSerial hm =>
    bind_eq_some_of hm fun count hm => bind_eq_some_of hm fun flags hm =>
    bind_eq_some_of hm fun error hm => ?presence
  case presence =>
    rw [hnone, Option.bind_eq_bind, Option.bind_some] at hm
    rw [hpresence, Option.bind_eq_bind, Option.bind_some]
    refine bind_eq_some_of hm fun timestamp hm => bind_eq_some_of hm fun params hm => ?_
    cases hm
    rfl

/-- The entries of a list are read one by one. -/
theorem Entry.listOf?_between {before after : List Packed} {v : Packed} {es later : List Entry}
    {e : Entry} (hbefore : listOf? (Packed.list before).unpack = some es)
    (hv : ofPayload? v.unpack = some e) (hafter : listOf? (Packed.list after).unpack = some later) :
    listOf? (Packed.list (before ++ v :: after)).unpack = some (es ++ e :: later) := by
  have hall : ∀ items, listOf? (Packed.list items).unpack =
      (items.map Packed.unpack).mapM ofPayload? := fun items =>
    congrArg (fun ps : List Payload => ps.mapM ofPayload?) (Packed.unpackItems_eq items)
  rw [hall] at hbefore hafter
  rw [hall, List.map_append, List.map_cons, List.mapM_append, List.mapM_cons, hbefore, hv, hafter]
  rfl

/-! ## The law -/

/-- A message with a place left open for the data of one of its presence entries. -/
structure DataSlot where
  message : Packed → Packed
  before : List Packed
  entry : Packed → Packed
  after : List Packed

namespace DataSlot

/-- The message with the data in its place. -/
def fill (s : DataSlot) (v : Packed) : Packed :=
  s.message (.list (s.before ++ s.entry v :: s.after))

/-- All that is around the data is read: the message but for its entries, the entries before and
after, and the entry itself but for its data. -/
structure ReadsAs (s : DataSlot) (m : Message) (es : List Entry) (e : Entry) (later : List Entry) :
    Prop where
  messageSlot : Slot Message.fieldNames "presence" s.message
  entrySlot : Slot Entry.fieldNames "data" s.entry
  message : Message.ofPayload? (s.message .nil).unpack = some m
  before : Entry.listOf? (Packed.list s.before).unpack = some es
  entry : Entry.ofPayload? (s.entry .nil).unpack = some e
  after : Entry.listOf? (Packed.list s.after).unpack = some later

variable {s : DataSlot} {m : Message} {es later : List Entry} {e : Entry}

theorem ReadsAs.ofPayload?_fill (h : s.ReadsAs m es e later) {v : Packed}
    (hv : v.unpack ≠ .null) : Message.ofPayload? (s.fill v).unpack =
      some { m with presence := some (es ++ { e with data := some v.unpack } :: later) } := by
  have hentry := Entry.ofPayload?_slot h.entrySlot h.entry hv
  show Message.ofPayload? (s.message (.list (s.before ++ s.entry v :: s.after))).unpack = _
  exact Message.ofPayload?_slot h.messageSlot h.message
    (Entry.listOf?_between h.before hentry h.after)

/-- Where no bytes can be written and read back, so can as many as a length tells. -/
theorem ReadsAs.parse_fill (h : s.ReadsAs m es e later) (hfits : (s.fill (.bin [])).Fits)
    (hneed : (s.fill (.bin [])).need ≤ Packed.roomLimit) {bytes : List UInt8}
    (hlength : bytes.length < 2 ^ 32) (rest : List UInt8) :
    Packed.parse ((s.fill (.bin bytes)).write ++ rest) = some (s.fill (.bin bytes)) := by
  have hfits' : (s.fill (.bin bytes)).Fits := by
    refine h.messageSlot.fits (Packed.fits_list_between (h.entrySlot.fits fun _ => ?_)) hfits
    exact hlength
  have hentry : (s.entry (.bin bytes)).need = (s.entry (.bin [])).need := h.entrySlot.need_eq rfl
  have hneed' : (s.fill (.bin bytes)).need = (s.fill (.bin [])).need :=
    h.messageSlot.need_eq (Packed.need_list_between hentry s.before s.after)
  rw [Packed.parse, Packed.read_write _ hfits' (hneed'.trans_le hneed)]
  rfl

/-- Bytes that arrive as the data of a presence entry, under the layer `base64` and any number of
layers `utf-8` around it, are the data of the record that the entry becomes: the list of just these
bytes. The message arrives whatever they are, and as it does without them; and if it can be written
at all, then with any bytes that are shorter than a length tells. -/
theorem binary_data_arrives_as_its_bytes (s : DataSlot) (h : s.ReadsAs m es e later)
    {encoding : String} {front : List (List Char)} {k : Nat}
    (hencoding : e.encoding = some encoding)
    (hlayers : Text.partsOf '/' encoding.toList =
      front ++ "base64".toList :: List.replicate k "utf-8".toList) {p : Presence}
    (hp : Presence.ofEntry? m es.length e = some p) (data : List UInt8) :
    let arrived := { e with data := some (.text (String.ofList (Bytes.Base64.encode data))) }
    let whole := { m with presence := some (es ++ arrived :: later) }
    (∀ bytes, Packed.parse bytes = some (s.fill (.bin data)) →
        Message.decode bytes = .ok whole) ∧
      ((s.fill (.bin [])).Fits → (s.fill (.bin [])).need ≤ Packed.roomLimit →
        data.length < 2 ^ 32 →
          ∀ rest, Message.decode ((s.fill (.bin data)).write ++ rest) = .ok whole) ∧
      Presence.ofEntry? whole es.length arrived =
        some { p with data := .list (data.map fun b => .int b.toNat) } := by
  intro arrived whole
  have hread : Message.ofPayload? (s.fill (.bin data)).unpack = some whole :=
    h.ofPayload?_fill nofun
  have hdecode : ∀ bytes, Packed.parse bytes = some (s.fill (.bin data)) →
      Message.decode bytes = .ok whole := fun bytes hbytes => by
    simp only [Message.decode, hbytes, hread]
  refine ⟨hdecode, fun hfits hneed hlength rest =>
    hdecode _ (h.parse_fill hfits hneed hlength rest), ?_⟩
  have hdata : Encoding.decode (arrived.data.getD .null) arrived.encoding =
      Encoding.bytesPayload data := by
    show Encoding.decode (.text _) e.encoding = _
    rw [hencoding]
    exact Encoding.decode_base64 hlayers data
  unfold Presence.ofEntry? at hp ⊢
  refine bind_eq_some_of hp fun action hp => bind_eq_some_of hp fun clientId hp =>
    bind_eq_some_of hp fun connectionId hp => ?_
  cases hp
  rw [hdata]
  rfl

/-- Ann's entry comes as a list of its fields in order, with bytes for data, in a message that
comes as a map. -/
def annsBytes : DataSlot where
  message v := .map ([(.ofText "action", .int 14), (.ofText "channel", .ofText "room"),
    (.ofText "connectionId", .ofText "conn-1")] ++ (.ofText "presence", v) :: [])
  before := []
  entry v := .list ([.nil, .int 2, .ofText "ann", .nil] ++
    v :: [.ofText "json/base64/utf-8/utf-8"])
  after := []

def annsMessage : Message := { action := 14, channel := some "room", connectionId := some "conn-1" }

def annsEntry : Entry :=
  { action := 2, clientId := some "ann", encoding := some "json/base64/utf-8/utf-8" }

theorem readsAs_annsBytes : annsBytes.ReadsAs annsMessage [] annsEntry [] where
  messageSlot := .map _ _ _ (Packed.fieldName_ofText "presence") nofun
  entrySlot := .list ["id", "action", "clientId", "connectionId"] ["encoding", "timestamp"] _ _
    rfl (by decide) rfl (by decide)
  message := by rfl
  before := rfl
  entry := by rfl
  after := rfl

theorem anns_bytes_arrive :
    let arrived := { annsEntry with data := some (.text "AP8+Pw==") }
    let whole := { annsMessage with presence := some [arrived] }
    Message.decode (annsBytes.fill (.bin [0, 255, 62, 63])).write = .ok whole ∧
      (Presence.ofEntry? whole 0 arrived).map (·.data) =
        some (.list [.int 0, .int 255, .int 62, .int 63]) := by
  intro arrived whole
  have hmember : ∃ p, Presence.ofEntry? annsMessage 0 annsEntry = some p := ⟨_, rfl⟩
  obtain ⟨p, hp⟩ := hmember
  have hlayers : Text.partsOf '/' "json/base64/utf-8/utf-8".toList =
      ["json".toList] ++ "base64".toList :: List.replicate 2 "utf-8".toList := by decide
  obtain ⟨hread, -, hdata⟩ := binary_data_arrives_as_its_bytes annsBytes readsAs_annsBytes rfl
    hlayers hp [0, 255, 62, 63]
  have htext : String.ofList (Bytes.Base64.encode [0, 255, 62, 63]) = "AP8+Pw==" := by decide
  rw [htext] at hread hdata
  exact ⟨hread _ (by rfl), congrArg (Option.map (·.data)) hdata⟩

end DataSlot

end PresenceClient
