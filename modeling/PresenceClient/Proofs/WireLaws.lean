-- The law of the wire: a message that is encoded comes back when it is decoded, whatever follows
-- it. A record writes all its fields by name, and each is found again under its name; what is
-- absent is nil, and nil is read as absent.
import PresenceClient.Message.Wire
import PresenceClient.Proofs.PackedPayloads

namespace PresenceClient

/-! ## Messages in good form -/

/-- A whole number of so many bits, with a sign. -/
def IsSigned (bits : Nat) (n : Int) : Prop :=
  -(Number.twoTo (bits - 1) : Int) ≤ n ∧ n < Number.twoTo (bits - 1)

instance (bits : Nat) (n : Int) : Decidable (IsSigned bits n) :=
  inferInstanceAs (Decidable (_ ∧ _))

structure ErrorInfo.WellFormed (e : ErrorInfo) : Prop where
  code : IsSigned 32 e.code
  statusCode : ∀ n ∈ e.statusCode, IsSigned 32 n

structure ConnectionDetails.WellFormed (d : ConnectionDetails) : Prop where
  connectionStateTtl : ∀ n ∈ d.connectionStateTtl, IsSigned 64 n
  maxIdleInterval : ∀ n ∈ d.maxIdleInterval, IsSigned 64 n
  maxMessageSize : ∀ n ∈ d.maxMessageSize, IsSigned 64 n

structure Entry.WellFormed (e : Entry) : Prop where
  action : IsSigned 32 e.action
  data : ∀ p ∈ e.data, p.WellFormed
  timestamp : ∀ n ∈ e.timestamp, IsSigned 64 n

/-- Numbers have the bits of their fields, payloads are in good form, and each parameter is given
once. -/
structure Message.WellFormed (m : Message) : Prop where
  action : IsSigned 32 m.action
  connectionDetails : ∀ d ∈ m.connectionDetails, d.WellFormed
  msgSerial : ∀ n ∈ m.msgSerial, IsSigned 64 n
  count : ∀ n ∈ m.count, IsSigned 64 n
  flags : ∀ n ∈ m.flags, IsSigned 32 n
  error : ∀ e ∈ m.error, e.WellFormed
  presence : ∀ es ∈ m.presence, ∀ e ∈ es, e.WellFormed
  timestamp : ∀ n ∈ m.timestamp, IsSigned 64 n
  params : ∀ t ∈ m.params, t.keys.Nodup

/-! ## Messages with lengths of 32 bits -/

structure ConnectionDetails.Short (d : ConnectionDetails) : Prop where
  clientId : ∀ s ∈ d.clientId, IsShort s
  connectionKey : ∀ s ∈ d.connectionKey, IsShort s
  serverId : ∀ s ∈ d.serverId, IsShort s

structure Entry.Short (e : Entry) : Prop where
  id : ∀ s ∈ e.id, IsShort s
  clientId : ∀ s ∈ e.clientId, IsShort s
  connectionId : ∀ s ∈ e.connectionId, IsShort s
  data : ∀ p ∈ e.data, p.Short
  encoding : ∀ s ∈ e.encoding, IsShort s

/-- Every text, list and map inside is shorter than `2 ^ 32`. -/
structure Message.Short (m : Message) : Prop where
  id : ∀ s ∈ m.id, IsShort s
  channel : ∀ s ∈ m.channel, IsShort s
  channelSerial : ∀ s ∈ m.channelSerial, IsShort s
  connectionId : ∀ s ∈ m.connectionId, IsShort s
  connectionKey : ∀ s ∈ m.connectionKey, IsShort s
  connectionDetails : ∀ d ∈ m.connectionDetails, d.Short
  error : ∀ e ∈ m.error, IsShort e.message
  presence : ∀ es ∈ m.presence, es.length < 2 ^ 32 ∧ ∀ e ∈ es, e.Short
  params : ∀ t ∈ m.params, t.size < 2 ^ 32 ∧ ∀ e ∈ t.entries, IsShort e.1 ∧ IsShort e.2

/-- Data that means on the wire what it means here: no doubles, no null of its own, and not too
many containers inside one another. -/
structure Entry.IsPlain (e : Entry) : Prop where
  floatFree : ∀ p ∈ e.data, p.floatFree = true
  depth : ∀ p ∈ e.data, p.depth ≤ 127
  notNull : e.data ≠ some .null

namespace Wire

open Packed (Fits FitEntries need needEntries unpackEntries)

/-! ## Records by name -/

section Fields

variable {fields : List (String × Packed)}

theorem unpackEntries_named (fields : List (String × Packed)) :
    unpackEntries (fields.map fun (name, v) => (Packed.ofText name, v)) =
      fields.map fun e => (e.1, e.2.unpack) := by
  induction fields with
  | nil => rfl
  | cons e rest ih =>
    rw [List.map_cons, unpackEntries, Packed.fieldName_ofText, ih]
    rfl

/-- A record comes back with its fields put in order. -/
theorem unpack_packFields (fields : List (String × Packed)) : (packFields fields).unpack =
    .record (Entries.putAll (fields.map fun e => (e.1, e.2.unpack)) []) := by
  rw [packFields, Packed.unpack, unpackEntries_named]
  rfl

theorem packFields_ne_null (fields : List (String × Packed)) :
    (packFields fields).unpack ≠ .null := by
  rw [unpack_packFields]
  nofun

/-- The fields of a record are found under their names. -/
theorem fieldsOf_pack {v : Packed} (names : List String) (hv : v = packFields fields)
    (hnames : fields.map (·.1) = names) (hnodup : names.Nodup) :
    ∃ field, fieldsOf names v.unpack = some field ∧
      ∀ name, field name = (Entries.get? name fields).map Packed.unpack := by
  have hkeys : ((fields.map fun e => (e.1, e.2.unpack)).map (·.1)).Nodup := by
    rw [List.map_map]
    exact hnames ▸ hnodup
  refine ⟨fun name => Entries.get? name (Entries.putAll (fields.map fun e => (e.1, e.2.unpack)) []),
    ?_, fun name => ?_⟩
  · rw [hv, unpack_packFields]
    rfl
  · dsimp only
    rw [Entries.get?_putAll hkeys, Entries.get?_map]
    exact Option.or_none

theorem needEntries_named {n : Nat} (hn : 3 ≤ n) (h : ∀ e ∈ fields, e.2.need ≤ n) :
    needEntries (fields.map fun (name, v) => (Packed.ofText name, v)) ≤ n := by
  induction fields with
  | nil => exact Nat.zero_le _
  | cons e rest ih =>
    obtain ⟨he, hrest⟩ := List.forall_mem_cons.mp h
    exact Nat.max_le.mpr ⟨Nat.max_le.mpr ⟨hn, he⟩, ih hrest⟩

theorem need_packFields {n : Nat} (hn : 3 ≤ n) (h : ∀ e ∈ fields, e.2.need ≤ n) :
    (packFields fields).need ≤ n + 2 := Nat.add_le_add_right (needEntries_named hn h) 2

theorem fitEntries_named (hnames : ∀ name ∈ fields.map (·.1), IsShort name)
    (h : ∀ e ∈ fields, e.2.Fits) :
    FitEntries (fields.map fun (name, v) => (Packed.ofText name, v)) := by
  induction fields with
  | nil => trivial
  | cons e rest ih =>
    obtain ⟨hname, hrest⟩ := List.forall_mem_cons.mp hnames
    obtain ⟨hv, hvalues⟩ := List.forall_mem_cons.mp h
    exact ⟨Packed.fits_ofText hname, hv, ih hrest hvalues⟩

theorem fits_packFields (hlength : fields.length < 2 ^ 32)
    (hnames : ∀ name ∈ fields.map (·.1), IsShort name) (h : ∀ e ∈ fields, e.2.Fits) :
    (packFields fields).Fits := ⟨by simpa using hlength, fitEntries_named hnames h⟩

end Fields

/-! ## Fields -/

theorem plain_int {bits : Nat} {n : Int} (h : IsSigned bits n) :
    plain 0 (readInt bits) (some (Packed.int n).unpack) = some n := if_pos h

theorem plain_text (s : String) : plain "" readText (some (Packed.ofText s).unpack) = some s := by
  rw [Packed.unpack_ofText]
  rfl

/-- What is there and is not null is read. -/
theorem optional_some {α : Type} {read : Payload → Option α} {p : Payload} {a : α}
    (hp : p ≠ .null) (h : read p = some a) : optional read (some p) = some (some a) := by
  cases p with
  | null => exact absurd rfl hp
  | _ => exact congrArg (Option.map some) h

/-- What may be absent is read as it was written, as long as what is there does not read as
null. -/
theorem optional_pack {α : Type} {read : Payload → Option α} {pack : α → Packed} {a : Option α}
    (h : ∀ x ∈ a, (pack x).unpack ≠ .null ∧ read (pack x).unpack = some x) :
    optional read (some (packOption pack a).unpack) = some a := by
  cases a with
  | none => rfl
  | some x => exact optional_some (h x rfl).1 (h x rfl).2

theorem optional_text (s : Option String) : optional readText (some (packText s).unpack) = some s :=
  optional_pack fun s _ => by simp [Packed.unpack_ofText, readText]

theorem optional_int {bits : Nat} {n : Option Int} (h : ∀ k ∈ n, IsSigned bits k) :
    optional (readInt bits) (some (packInt n).unpack) = some n :=
  optional_pack fun k hk => ⟨nofun, if_pos (h k hk)⟩

/-- Data comes back, unless it is a null of its own. -/
theorem optional_data {data : Option Payload} (h : ∀ p ∈ data, p.WellFormed)
    (hf : ∀ p ∈ data, p.floatFree = true) (hnull : data ≠ some .null) :
    optional readPayload (some (packOption Packed.ofPayload data).unpack) = some data := by
  refine optional_pack fun p hp => ?_
  rw [Packed.unpack_ofPayload p (h p hp) (hf p hp)]
  exact ⟨fun he => hnull (he ▸ hp), rfl⟩

end Wire

open Wire

/-! ## Records -/

theorem ErrorInfo.ofPayload?_pack {e : ErrorInfo} (h : e.WellFormed) :
    ErrorInfo.ofPayload? e.pack.unpack = some e := by
  obtain ⟨field, hfield, hget⟩ := fieldsOf_pack ErrorInfo.fieldNames
    (show e.pack = _ from rfl) rfl (by decide)
  rw [ErrorInfo.ofPayload?, hfield, Option.bind_eq_bind, Option.bind_some]
  simp only [hget, Entries.get?, String.reduceEq, ↓reduceIte, Option.map_some, plain_int h.code,
    optional_int h.statusCode, plain_text]
  rfl

theorem ConnectionDetails.ofPayload?_pack {d : ConnectionDetails} (h : d.WellFormed) :
    ConnectionDetails.ofPayload? d.pack.unpack = some d := by
  obtain ⟨field, hfield, hget⟩ := fieldsOf_pack ConnectionDetails.fieldNames
    (show d.pack = _ from rfl) rfl (by decide)
  rw [ConnectionDetails.ofPayload?, hfield, Option.bind_eq_bind, Option.bind_some]
  simp only [hget, Entries.get?, String.reduceEq, ↓reduceIte, Option.map_some, optional_text,
    optional_int h.connectionStateTtl, optional_int h.maxIdleInterval,
    optional_int h.maxMessageSize]
  rfl

theorem Entry.ofPayload?_pack {e : Entry} (h : e.WellFormed) (hplain : e.IsPlain) :
    Entry.ofPayload? e.pack.unpack = some e := by
  obtain ⟨field, hfield, hget⟩ := fieldsOf_pack Entry.fieldNames
    (show e.pack = _ from rfl) rfl (by decide)
  rw [Entry.ofPayload?, hfield, Option.bind_eq_bind, Option.bind_some]
  simp only [hget, Entries.get?, String.reduceEq, ↓reduceIte, Option.map_some, optional_text,
    plain_int h.action, optional_data h.data hplain.floatFree hplain.notNull,
    optional_int h.timestamp]
  rfl

theorem Entry.listOf?_pack {es : List Entry} (h : ∀ e ∈ es, e.WellFormed)
    (hplain : ∀ e ∈ es, e.IsPlain) : Entry.listOf? (Entry.packAll es).unpack = some es := by
  have hitems : (Packed.unpackItems (es.map Entry.pack)).mapM Entry.ofPayload? = some es := by
    induction es with
    | nil => rfl
    | cons e rest ih =>
      have he := Entry.ofPayload?_pack (h e List.mem_cons_self) (hplain e List.mem_cons_self)
      have hrest := ih (fun x hx => h x (List.mem_cons_of_mem _ hx))
        fun x hx => hplain x (List.mem_cons_of_mem _ hx)
      simp [Packed.unpackItems, he, hrest]
  exact hitems

theorem map_unpack_params (es : List (String × String)) :
    (es.map fun (name, value) => (name, Packed.ofText value)).map (fun e => (e.1, e.2.unpack)) =
      es.map fun e => (e.1, Payload.text e.2) := by
  simp [Function.comp_def, Packed.unpack_ofText]

theorem mapM_readText (es : List (String × String)) :
    (es.map fun e => (e.1, Payload.text e.2)).mapM
      (fun (name, p) => (readText p).map fun s => (name, s)) = some es := by
  induction es with
  | nil => rfl
  | cons e rest ih =>
    rw [List.map_cons, List.mapM_cons, ih]
    rfl

/-- Parameters come back as a map, whatever their order was. -/
theorem readParams_pack {t : Table String String} (h : t.keys.Nodup) :
    ∃ t', readParams (packParams t).unpack = some t' ∧ t'.get? = t.get? := by
  refine ⟨⟨Entries.putAll t.entries []⟩, ?_, ?_⟩
  · have hput : Entries.putAll (t.entries.map fun e => (e.1, Payload.text e.2)) [] = _ :=
      Entries.putAll_map Payload.text t.entries []
    rw [packParams, unpack_packFields, map_unpack_params, hput, readParams, mapM_readText]
    rfl
  · funext k
    exact (Entries.get?_putAll h [] k).trans Option.or_none

/-- The parameters may come back in another order; all else is as it was. -/
theorem Message.ofPayload?_pack {m : Message} (h : m.WellFormed)
    (hplain : ∀ es ∈ m.presence, ∀ e ∈ es, e.IsPlain) :
    ∃ params, Message.ofPayload? m.pack.unpack = some { m with params := params } ∧
      params.map Table.get? = m.params.map Table.get? := by
  have hdetails : optional ConnectionDetails.ofPayload?
      (some (packOption ConnectionDetails.pack m.connectionDetails).unpack) =
        some m.connectionDetails :=
    optional_pack fun d hd => ⟨packFields_ne_null _,
      ConnectionDetails.ofPayload?_pack (h.connectionDetails d hd)⟩
  have herror : optional ErrorInfo.ofPayload? (some (packOption ErrorInfo.pack m.error).unpack) =
      some m.error :=
    optional_pack fun e he => ⟨packFields_ne_null _, ErrorInfo.ofPayload?_pack (h.error e he)⟩
  have hpresence : optional Entry.listOf? (some (packOption Entry.packAll m.presence).unpack) =
      some m.presence :=
    optional_pack fun es hes => ⟨nofun, Entry.listOf?_pack (h.presence es hes) (hplain es hes)⟩
  have hparams : ∃ params, optional readParams (some (packOption packParams m.params).unpack) =
      some params ∧ params.map Table.get? = m.params.map Table.get? := by
    cases hm : m.params with
    | none => exact ⟨none, rfl, rfl⟩
    | some t =>
      obtain ⟨t', hread, hsame⟩ := readParams_pack (h.params t hm)
      exact ⟨some t', optional_some (packFields_ne_null _) hread, congrArg some hsame⟩
  obtain ⟨params, hread, hsame⟩ := hparams
  refine ⟨params, ?_, hsame⟩
  obtain ⟨field, hfield, hget⟩ := fieldsOf_pack Message.fieldNames
    (show m.pack = _ from rfl) rfl (by decide)
  rw [Message.ofPayload?, hfield, Option.bind_eq_bind, Option.bind_some]
  simp only [hget, Entries.get?, String.reduceEq, ↓reduceIte, Option.map_some, optional_text,
    plain_int h.action, hdetails, optional_int h.msgSerial, optional_int h.count,
    optional_int h.flags, herror, hpresence, optional_int h.timestamp, hread]
  rfl

/-! ## Room and lengths -/

namespace Wire

/-- What may be absent needs no more room than what it is. -/
theorem need_packOption {α : Type} {pack : α → Packed} {a : Option α} {n : Nat} (hn : 1 ≤ n)
    (h : ∀ x ∈ a, (pack x).need ≤ n) : (packOption pack a).need ≤ n := by
  cases a with
  | none => exact hn
  | some x => exact h x rfl

theorem fits_packOption {α : Type} {pack : α → Packed} {a : Option α}
    (h : ∀ x ∈ a, (pack x).Fits) : (packOption pack a).Fits := by
  cases a with
  | none => trivial
  | some x => exact h x rfl

theorem need_packText {n : Nat} (hn : 3 ≤ n) (s : Option String) : (packText s).need ≤ n :=
  need_packOption (Nat.le_of_add_left_le hn) fun _ _ => hn

theorem need_packInt {n : Nat} (hn : 1 ≤ n) (k : Option Int) : (packInt k).need ≤ n :=
  need_packOption hn fun _ _ => hn

theorem fits_packText {s : Option String} (h : ∀ x ∈ s, IsShort x) : (packText s).Fits :=
  fits_packOption fun x hx => Packed.fits_ofText (h x hx)

/-- The numbers of a message have 32 or 64 bits. -/
theorem fits_int {bits : Nat} {n : Int} (h : IsSigned bits n) (hbits : bits ≤ 64) :
    (Packed.int n).Fits := by
  have hmono : Number.twoTo (bits - 1) ≤ 2 ^ 63 := Nat.pow_le_pow_right (by decide) (by omega)
  obtain ⟨hlow, hhigh⟩ := h
  refine ⟨?_, ?_⟩ <;> omega

theorem fits_packInt {bits : Nat} {n : Option Int} (h : ∀ k ∈ n, IsSigned bits k)
    (hbits : bits ≤ 64) : (packInt n).Fits := fits_packOption fun k hk => fits_int (h k hk) hbits

end Wire

theorem ErrorInfo.need_pack (e : ErrorInfo) : e.pack.need ≤ 5 := by
  refine need_packFields (Nat.le_refl _) ?_
  simp [need_packInt, Packed.need, Packed.ofText]

theorem ConnectionDetails.need_pack (d : ConnectionDetails) : d.pack.need ≤ 5 := by
  refine need_packFields (Nat.le_refl _) ?_
  simp [need_packInt, need_packText]

theorem Entry.need_pack {e : Entry} (h : e.IsPlain) : e.pack.need ≤ 259 := by
  have hdata : (packOption Packed.ofPayload e.data).need ≤ 257 := by
    refine need_packOption (by decide) fun p hp => ?_
    have hdepth := h.depth p hp
    have hneed := Packed.need_ofPayload p
    omega
  refine need_packFields (by decide) ?_
  simp [need_packInt, need_packText, hdata, Packed.need]

theorem Entry.need_packAll {es : List Entry} (h : ∀ e ∈ es, e.IsPlain) :
    (Entry.packAll es).need ≤ 261 := by
  have hitems : Packed.needItems (es.map Entry.pack) ≤ 259 := by
    induction es with
    | nil => exact Nat.zero_le _
    | cons e rest ih =>
      have hrest := ih fun x hx => h x (List.mem_cons_of_mem _ hx)
      exact Nat.max_le.mpr ⟨Entry.need_pack (h e List.mem_cons_self), hrest⟩
  exact Nat.add_le_add_right hitems 2

theorem need_packParams (t : Table String String) : (packParams t).need ≤ 5 := by
  refine need_packFields (Nat.le_refl _) fun e he => ?_
  obtain ⟨_, -, rfl⟩ := List.mem_map.mp he
  exact Nat.le_refl _

/-- A message needs little of the room that there is. -/
theorem Message.need_pack {m : Message} (h : ∀ es ∈ m.presence, ∀ e ∈ es, e.IsPlain) :
    m.pack.need ≤ 263 := by
  have hdetails : (packOption ConnectionDetails.pack m.connectionDetails).need ≤ 261 :=
    need_packOption (by decide) fun d _ => d.need_pack.trans (by decide)
  have herror : (packOption ErrorInfo.pack m.error).need ≤ 261 :=
    need_packOption (by decide) fun e _ => e.need_pack.trans (by decide)
  have hpresence : (packOption Entry.packAll m.presence).need ≤ 261 :=
    need_packOption (by decide) fun es hes => Entry.need_packAll (h es hes)
  have hparams : (packOption packParams m.params).need ≤ 261 :=
    need_packOption (by decide) fun t _ => (need_packParams t).trans (by decide)
  refine need_packFields (by decide) ?_
  simp [need_packInt, need_packText, hdetails, herror, hpresence, hparams, Packed.need]

theorem ErrorInfo.fits_pack {e : ErrorInfo} (h : e.WellFormed) (hs : IsShort e.message) :
    e.pack.Fits := by
  refine fits_packFields (show 3 < 2 ^ 32 by decide)
    (show ∀ name ∈ ErrorInfo.fieldNames, IsShort name by decide) ?_
  simp [fits_int h.code, fits_packInt h.statusCode, Packed.fits_ofText hs]

theorem ConnectionDetails.fits_pack {d : ConnectionDetails} (h : d.WellFormed) (hs : d.Short) :
    d.pack.Fits := by
  refine fits_packFields (show 6 < 2 ^ 32 by decide)
    (show ∀ name ∈ ConnectionDetails.fieldNames, IsShort name by decide) ?_
  simp [fits_packText hs.clientId, fits_packText hs.connectionKey, fits_packText hs.serverId,
    fits_packInt h.connectionStateTtl, fits_packInt h.maxIdleInterval,
    fits_packInt h.maxMessageSize]

theorem Entry.fits_pack {e : Entry} (h : e.WellFormed) (hs : e.Short) : e.pack.Fits := by
  have hdata : (packOption Packed.ofPayload e.data).Fits :=
    fits_packOption fun p hp => Packed.fits_ofPayload p (h.data p hp) (hs.data p hp)
  refine fits_packFields (show 7 < 2 ^ 32 by decide)
    (show ∀ name ∈ Entry.fieldNames, IsShort name by decide) ?_
  simp [fits_packText hs.id, fits_int h.action, fits_packText hs.clientId,
    fits_packText hs.connectionId, hdata, fits_packText hs.encoding, fits_packInt h.timestamp]

theorem Entry.fits_packAll {es : List Entry} (h : ∀ e ∈ es, e.WellFormed)
    (hs : es.length < 2 ^ 32 ∧ ∀ e ∈ es, e.Short) : (Entry.packAll es).Fits := by
  obtain ⟨hlength, hs⟩ := hs
  have hitems : Packed.FitItems (es.map Entry.pack) := by
    clear hlength
    induction es with
    | nil => trivial
    | cons e rest ih =>
      obtain ⟨he, hrest⟩ := List.forall_mem_cons.mp h
      obtain ⟨hse, hsrest⟩ := List.forall_mem_cons.mp hs
      exact ⟨Entry.fits_pack he hse, ih hrest hsrest⟩
  exact ⟨by simpa using hlength, hitems⟩

theorem fits_packParams {t : Table String String}
    (h : t.size < 2 ^ 32 ∧ ∀ e ∈ t.entries, IsShort e.1 ∧ IsShort e.2) : (packParams t).Fits := by
  obtain ⟨hlength, h⟩ := h
  refine fits_packFields ?_ (fun name hname => ?_) fun e he => ?_
  · rw [List.length_map]
    exact hlength
  · rw [List.map_map] at hname
    obtain ⟨e, he, rfl⟩ := List.mem_map.mp hname
    exact (h e he).1
  · obtain ⟨param, hparam, rfl⟩ := List.mem_map.mp he
    exact Packed.fits_ofText (h param hparam).2

theorem Message.fits_pack {m : Message} (h : m.WellFormed) (hs : m.Short) : m.pack.Fits := by
  have hdetails : (packOption ConnectionDetails.pack m.connectionDetails).Fits :=
    fits_packOption fun d hd =>
      ConnectionDetails.fits_pack (h.connectionDetails d hd) (hs.connectionDetails d hd)
  have herror : (packOption ErrorInfo.pack m.error).Fits :=
    fits_packOption fun e he => ErrorInfo.fits_pack (h.error e he) (hs.error e he)
  have hpresence : (packOption Entry.packAll m.presence).Fits :=
    fits_packOption fun es hes => Entry.fits_packAll (h.presence es hes) (hs.presence es hes)
  have hparams : (packOption packParams m.params).Fits :=
    fits_packOption fun t ht => fits_packParams (hs.params t ht)
  refine fits_packFields (show 14 < 2 ^ 32 by decide)
    (show ∀ name ∈ Message.fieldNames, IsShort name by decide) ?_
  simp [fits_int h.action, fits_packText hs.id, fits_packText hs.channel,
    fits_packText hs.channelSerial, fits_packText hs.connectionId, fits_packText hs.connectionKey,
    hdetails, fits_packInt h.msgSerial, fits_packInt h.count, fits_packInt h.flags, herror,
    hpresence, fits_packInt h.timestamp, hparams]

/-! ## The law -/

/-- A message comes back from its bytes as it was, whatever bytes follow them: its parameters as a
map, and all else without a difference. -/
theorem what_is_encoded_is_decoded (m : Message) (rest : List UInt8) (h : m.WellFormed)
    (hshort : m.Short) (hplain : ∀ es ∈ m.presence, ∀ e ∈ es, e.IsPlain) :
    ∃ m', Message.decode (m.encode ++ rest) = .ok m' ∧ { m' with params := m.params } = m ∧
      m'.params.map Table.get? = m.params.map Table.get? := by
  obtain ⟨params, hread, hsame⟩ := Message.ofPayload?_pack h hplain
  have hneed : m.pack.need ≤ Packed.roomLimit := (Message.need_pack hplain).trans (by decide)
  have hparse : Packed.parse (m.encode ++ rest) = some m.pack := by
    rw [Packed.parse, Message.encode, Packed.read_write m.pack (Message.fits_pack h hshort) hneed]
    rfl
  refine ⟨{ m with params := params }, ?_, rfl, hsame⟩
  rw [Message.decode, hparse]
  dsimp only
  rw [hread]

/-- Ann enters, with data of several kinds, on a channel with two parameters. -/
def annEnters : Message :=
  { action := Message.Action.presence.code
    id := some "conn-1:0"
    channel := some "room"
    msgSerial := some 0
    error := some { code := 40000, message := "no" }
    presence := some
      [{ action := Presence.Action.enter.code
         clientId := some "ann"
         data := some (.record
           [("age", .int 18446744073709551615), ("names", .list [.text "é", .null])])
         timestamp := some (-1) }]
    params := some ⟨[("rewind", "1"), ("delta", "x")]⟩ }

theorem wellFormed_annEnters : annEnters.WellFormed := by
  refine ⟨by decide, nofun, ?serial, nofun, nofun, ?error, ?presence, nofun, ?params⟩
  case serial =>
    rintro _ ⟨⟩
    decide
  case error =>
    rintro _ ⟨⟩
    exact ⟨by decide, nofun⟩
  case presence =>
    rintro _ ⟨⟩ e he
    cases List.mem_singleton.mp he
    refine ⟨by decide, ?_, ?_⟩
    · rintro _ ⟨⟩
      refine ⟨List.pairwise_pair.mpr (by decide), ?_⟩
      simp [Payload.WellFormed, Payload.WellFormedFields, Payload.WellFormedItems]
    · rintro _ ⟨⟩
      decide
  case params =>
    rintro _ ⟨⟩
    decide

theorem short_annEnters : annEnters.Short := by
  refine ⟨?_, ?_, nofun, nofun, nofun, nofun, ?_, ?presence, ?params⟩
  case presence =>
    rintro _ ⟨⟩
    refine ⟨by decide, fun e he => ?_⟩
    cases List.mem_singleton.mp he
    refine ⟨nofun, ?_, nofun, ?_, nofun⟩
    · rintro _ ⟨⟩
      decide
    · rintro _ ⟨⟩
      simp only [Payload.Short, Payload.ShortFields, Payload.ShortItems]
      decide
  case params =>
    rintro _ ⟨⟩
    decide
  all_goals
    rintro _ ⟨⟩
    decide

theorem plain_annEnters : ∀ es ∈ annEnters.presence, ∀ e ∈ es, e.IsPlain := by
  rintro _ ⟨⟩ e he
  cases List.mem_singleton.mp he
  refine ⟨?_, ?_, nofun⟩
  all_goals
    rintro _ ⟨⟩
    decide

/-- She comes back as she was, and a byte behind her does not matter. -/
theorem ann_comes_back :
    annEnters.WellFormed ∧ annEnters.Short ∧ (∀ es ∈ annEnters.presence, ∀ e ∈ es, e.IsPlain) ∧
      ∃ m', Message.decode (annEnters.encode ++ [0xc1]) = .ok m' ∧
        { m' with params := annEnters.params } = annEnters ∧
        m'.params.map Table.get? = annEnters.params.map Table.get? :=
  ⟨wellFormed_annEnters, short_annEnters, plain_annEnters,
    what_is_encoded_is_decoded annEnters [0xc1] wellFormed_annEnters short_annEnters
      plain_annEnters⟩

end PresenceClient
