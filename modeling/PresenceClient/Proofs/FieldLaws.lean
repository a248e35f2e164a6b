-- The law of fields. Of the entries of a message only the last one of each field counts. So what
-- stands in an earlier one of the field, or under a name that is nobody's field, may be anything,
-- and it makes no difference in which order the fields come.
import PresenceClient.Message.Wire
import PresenceClient.Proofs.PackedFronts
import PresenceClient.Proofs.PayloadForms

namespace PresenceClient

/-! ## The last entry of a key -/

namespace Entries

variable {κ κ' α β : Type} [DecidableEq κ] [DecidableEq κ']

/-- Of the entries that are put under one key the last one stays. -/
theorem get?_putAll_reverse [LT κ] [DecidableLT κ] (new es : List (κ × α)) (k : κ) :
    get? k (putAll new es) = (get? k new.reverse).or (get? k es) := by
  induction new using List.reverseRecOn with
  | nil => rfl
  | append_singleton new e ih =>
    have hputAll : putAll (new ++ [e]) es = put e.1 e.2 (putAll new es) := List.foldl_append
    rw [hputAll, List.reverse_append, List.reverse_singleton, List.singleton_append, get?]
    by_cases hk : k = e.1
    · subst hk
      rw [get?_put_self, if_pos rfl, Option.some_or]
    · rw [get?_put_ne hk, ih, if_neg hk]

/-- Other names for the keys make no difference, if they tell the key that is looked for. -/
theorem get?_rename {es : List (κ × α)} {f : κ → κ'} (g : α → β) {k : κ} {k' : κ'}
    (h : ∀ e ∈ es, k' = f e.1 ↔ k = e.1) :
    get? k' (es.map fun e => (f e.1, g e.2)) = (get? k es).map g := by
  induction es with
  | nil => rfl
  | cons e rest ih =>
    have hrest := ih fun e' he' => h e' (List.mem_cons_of_mem e he')
    rw [List.map_cons, get?, get?, hrest]
    by_cases hk : k = e.1
    · rw [if_pos hk, if_pos ((h e List.mem_cons_self).mpr hk), Option.map_some]
    · rw [if_neg hk, if_neg fun hk' => hk ((h e List.mem_cons_self).mp hk')]

theorem get?_append (es later : List (κ × α)) (k : κ) :
    get? k (es ++ later) = (get? k es).or (get? k later) := by
  induction es with
  | nil => rfl
  | cons e rest ih =>
    rw [List.cons_append, get?, get?, ih]
    split <;> rfl

theorem exists_of_mem {es : List (κ × α)} {e : κ × α} (h : e ∈ es) :
    ∃ v, get? e.1 es = some v := by
  induction es with
  | nil => cases h
  | cons first rest ih =>
    by_cases hk : e.1 = first.1
    · exact ⟨first.2, if_pos hk⟩
    · obtain ⟨v, hv⟩ := ih ((List.mem_cons.mp h).resolve_left fun he => hk (congrArg Prod.fst he))
      exact ⟨v, (if_neg hk).trans hv⟩

/-- Only the entries of a key count for it. -/
theorem get?_filter (es : List (κ × α)) (k : κ) :
    get? k (es.filter fun e => e.1 = k) = get? k es := by
  induction es with
  | nil => rfl
  | cons e rest ih =>
    by_cases hk : k = e.1
    · simp [get?, hk]
    · simp [get?, hk, Ne.symm hk, ih]

end Entries

theorem Bytes.ofText_of_toText? {bytes : List UInt8} {s : String}
    (h : Bytes.toText? bytes = some s) : Bytes.ofText s = bytes := by
  unfold toText? String.fromUTF8? at h
  split at h
  · cases h
    rfl
  · cases h

namespace Packed

/-! ## Maps with text for keys -/

/-- A map of entries under texts. A text is told by its bytes, which may be any. -/
def textMap (es : List (List UInt8 × Packed)) : Packed := .map (es.map fun e => (.text e.1, e.2))

/-- The last value under a name. -/
def last? (name : String) (es : List (List UInt8 × Packed)) : Option Packed :=
  Entries.get? (Bytes.ofText name) es.reverse

variable {es : List (List UInt8 × Packed)} {name : String} {bytes : List UInt8}

/-- What is no text counts as empty, and no other bytes make up a name. -/
theorem eq_textOrEmpty_iff (hname : name ≠ "") :
    name = textOrEmpty bytes ↔ Bytes.ofText name = bytes := by
  unfold textOrEmpty
  constructor
  · intro h
    cases ht : Bytes.toText? bytes with
    | none => exact absurd (h.trans (by rw [ht]; rfl)) hname
    | some s =>
      rw [ht, Option.getD_some] at h
      exact h ▸ Bytes.ofText_of_toText? ht
  · rintro rfl
    rw [Bytes.toText?_ofText, Option.getD_some]

/-- An entry under another name, or with a later one under its own, is not the last one. -/
theorem last?_cut {e : List UInt8 × Packed} (before : List (List UInt8 × Packed))
    {after : List (List UInt8 × Packed)}
    (h : e.1 ≠ Bytes.ofText name ∨ ∃ e' ∈ after, e'.1 = e.1) :
    last? name (before ++ after) = last? name (before ++ e :: after) := by
  simp only [last?, List.reverse_append, List.reverse_cons, List.append_assoc,
    List.singleton_append, Entries.get?_append]
  by_cases hk : Bytes.ofText name = e.1
  · obtain ⟨e', he', hkey⟩ := h.resolve_left fun hne => hne hk.symm
    obtain ⟨v, hv⟩ := Entries.exists_of_mem (List.mem_reverse.mpr he')
    rw [hk, ← hkey, hv, Option.some_or, Option.some_or]
  · rw [Entries.get?, if_neg hk]

/-- The order of entries under different names makes no difference to the last one of each. -/
theorem last?_reorder {es' : List (List UInt8 × Packed)}
    (h : ∀ key, (es'.filter fun e => e.1 = key) = es.filter fun e => e.1 = key) (name : String) :
    last? name es' = last? name es := by
  have hfilter : ∀ es : List (List UInt8 × Packed), last? name es =
      Entries.get? (Bytes.ofText name) (es.filter fun e => e.1 = Bytes.ofText name).reverse :=
    fun es => by rw [last?, ← Entries.get?_filter, List.filter_reverse]
  rw [hfilter es', hfilter es, h]

theorem unpack_textMap (es : List (List UInt8 × Packed)) : (textMap es).unpack =
    .record (Entries.putAll (es.map fun e => (textOrEmpty e.1, e.2.unpack)) []) := by
  have hentries : unpackEntries (es.map fun e => (.text e.1, e.2)) =
      es.map fun e => (textOrEmpty e.1, e.2.unpack) := by
    induction es with
    | nil => rfl
    | cons e rest ih => rw [List.map_cons, unpackEntries, ih]; rfl
  rw [textMap, unpack, hentries]
  rfl

/-- The field of a name is the last value under it. -/
theorem field_textMap (es : List (List UInt8 × Packed)) (hname : name ≠ "") :
    Entries.get? name (Entries.putAll (es.map fun e => (textOrEmpty e.1, e.2.unpack)) []) =
      (last? name es).map unpack := by
  rw [Entries.get?_putAll_reverse, ← List.map_reverse, Entries.get?_rename (k := Bytes.ofText name),
    last?]
  · exact Option.or_none
  · exact fun e _ => eq_textOrEmpty_iff hname

end Packed

/-! ## Messages by their fields -/

open Packed (textMap last?)

/-- A message goes by its fields alone. -/
theorem Message.ofPayload?_congr {fields fields' : List (String × Payload)}
    (h : ∀ name ∈ fieldNames, Entries.get? name fields = Entries.get? name fields') :
    ofPayload? (.record fields) = ofPayload? (.record fields') := by
  simp only [fieldNames, List.forall_mem_cons] at h
  obtain ⟨h1, h2, h3, h4, h5, h6, h7, h8, h9, h10, h11, h12, h13, h14, -⟩ := h
  rw [ofPayload?, ofPayload?, Wire.fieldsOf, Wire.fieldsOf, Option.bind_eq_bind,
    Option.bind_some, Option.bind_some]
  beta_reduce
  rw [h1, h2, h3, h4, h5, h6, h7, h8, h9, h10, h11, h12, h13, h14]

/-- What is under names that are nobody's field makes no difference, nor do values that are not
the last one of their name. -/
theorem Message.decode_congr {bytes bytes' : List UInt8} {es es' : List (List UInt8 × Packed)}
    (h : Packed.parse bytes = some (textMap es)) (h' : Packed.parse bytes' = some (textMap es'))
    (hlast : ∀ name ∈ fieldNames, last? name es' = last? name es) :
    decode bytes' = decode bytes := by
  have hfields : ofPayload? (textMap es').unpack = ofPayload? (textMap es).unpack := by
    rw [Packed.unpack_textMap, Packed.unpack_textMap]
    refine ofPayload?_congr fun name hname => ?_
    have hne : name ≠ "" := by
      rintro rfl
      exact absurd hname (by decide)
    rw [Packed.field_textMap es' hne, Packed.field_textMap es hne, hlast name hname]
  simp only [decode, h, h', hfields]

/-- The entries come in some bytes, and in whatever bytes they come, these are read as the given
ones are: as the same message, or as none. -/
def Message.ReadsAs (es : List (List UInt8 × Packed)) (bytes : List UInt8) : Prop :=
  (∃ bytes', Packed.parse bytes' = some (textMap es)) ∧
    ∀ bytes', Packed.parse bytes' = some (textMap es) → decode bytes' = decode bytes

namespace Message

variable {bytes : List UInt8} {es es' : List (List UInt8 × Packed)}

theorem readsAs_of_last (h : Packed.parse bytes = some (textMap es))
    (hlength : es'.length ≤ es.length) (hsub : ∀ e ∈ es', e ∈ es)
    (hlast : ∀ name ∈ fieldNames, last? name es' = last? name es) : ReadsAs es' bytes := by
  refine ⟨Packed.exists_parse_of_entries h (by simpa using hlength) fun e he => ?_,
    fun bytes' h' => decode_congr h h' hlast⟩
  obtain ⟨e', he', rfl⟩ := List.mem_map.mp he
  exact List.mem_map_of_mem (hsub e' he')

/-- Whatever entries with text for keys a message brings, how it is read depends on the last entry
of each of its fields alone. So an entry may be left out that is nobody's field, or that has a
later one of its name, and entries may come in any order that keeps the order of those of one
name. What is left is a message still, or fails as before. -/
theorem decoding_goes_by_the_last_entry_of_each_field (bytes : List UInt8)
    (es : List (List UInt8 × Packed)) (h : Packed.parse bytes = some (textMap es)) :
    (∀ bytes' es', Packed.parse bytes' = some (textMap es') →
      (∀ name ∈ fieldNames, last? name es' = last? name es) → decode bytes' = decode bytes) ∧
    (∀ before e after, es = before ++ e :: after →
      ((∀ name ∈ fieldNames, e.1 ≠ Bytes.ofText name) ∨ ∃ e' ∈ after, e'.1 = e.1) →
      ReadsAs (before ++ after) bytes) ∧
    ∀ es', es'.Perm es →
      (∀ key, (es'.filter fun e => e.1 = key) = es.filter fun e => e.1 = key) →
      ReadsAs es' bytes := by
  refine ⟨fun bytes' es' h' hlast => decode_congr h h' hlast, ?_, fun es' hperm hkeys => ?_⟩
  · rintro before e after rfl hcut
    refine readsAs_of_last h (by simp) (fun e' he' => ?_) fun name hname =>
      Packed.last?_cut before (hcut.imp_left fun hnone => hnone name hname)
    rcases List.mem_append.mp he' with he' | he'
    · exact List.mem_append_left _ he'
    · exact List.mem_append_right _ (List.mem_cons_of_mem e he')
  · exact readsAs_of_last h hperm.length_eq.le (fun e he => hperm.mem_iff.mp he) fun name _ =>
      Packed.last?_reorder hkeys name

/-- An action that is no number. -/
def rubbish : List UInt8 × Packed := (Bytes.ofText "action", .list [.nil])

/-- A value that is nobody's field. -/
def extras : List UInt8 × Packed := (Bytes.ofText "extras", .map [(.int 1, .nil)])

def greets : List UInt8 × Packed := (Bytes.ofText "action", .int 4)

def named : List UInt8 × Packed := (Bytes.ofText "connectionId", .text (Bytes.ofText "conn-1"))

/-- The rubbish comes first, so it does no harm, and neither do the extras. -/
theorem a_greeting_with_rubbish_is_a_greeting :
    let bytes := (textMap [rubbish, extras, greets, named]).write
    decode bytes = .ok { action := Action.connected.code, connectionId := some "conn-1" } ∧
      ReadsAs [extras, greets, named] bytes ∧ ReadsAs [rubbish, greets, named] bytes ∧
      ReadsAs [rubbish, extras, named, greets] bytes := by
  have hparse : Packed.parse (textMap [rubbish, extras, greets, named]).write =
      some (textMap [rubbish, extras, greets, named]) := by rfl
  have hdecode : decode (textMap [rubbish, extras, greets, named]).write =
      .ok { action := Action.connected.code, connectionId := some "conn-1" } := by rfl
  obtain ⟨-, hcut, horder⟩ := decoding_goes_by_the_last_entry_of_each_field _ _ hparse
  refine ⟨hdecode, hcut [] rubbish [extras, greets, named] rfl (.inr ⟨greets, by simp, rfl⟩),
    hcut [rubbish] extras [greets, named] rfl (.inl (by decide +kernel)),
    horder _ (.cons _ (.cons _ (.swap _ _ _))) fun key => ?_⟩
  have hne : greets.1 ≠ named.1 := by decide +kernel
  by_cases hk : greets.1 = key
  · simp [List.filter_cons, hk, show named.1 ≠ key from fun he => hne (hk.trans he.symm)]
  · simp [List.filter_cons, hk]

end Message

end PresenceClient
