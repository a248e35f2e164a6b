-- The law of application data: what is published with any payload arrives with that payload. Text
-- travels as it is, null as nothing, and all else as JSON text, which reads back value by value:
-- each reader takes the text of its value and leaves what follows.
import PresenceClient.Presence.Arrival
import PresenceClient.Proofs.JsonText
import PresenceClient.Proofs.PayloadForms

namespace PresenceClient

namespace Payload

open Number (isDigit)

/-! ## Beginnings -/

theorem skipBlanks_cons {c : Char} (h : isBlank c = false) (cs : List Char) :
    skipBlanks (c :: cs) = c :: cs := List.dropWhile_cons_of_neg (Bool.not_eq_true _ ▸ h)

theorem exists_writeInt_cons (n : Int) :
    ∃ c cs, writeInt n = c :: cs ∧ (c = '-' ∨ isDigit c = true) := by
  by_cases hneg : n < 0
  · exact ⟨'-', _, if_pos hneg, .inl rfl⟩
  · obtain ⟨d, ds, hds, hd⟩ := exists_toDigits_cons n.natAbs
    exact ⟨d, ds, (if_neg hneg).trans hds, .inr hd⟩

/-- A value without doubles begins with no blank and does not end a list. -/
theorem exists_write_cons {p : Payload} (hf : p.floatFree = true) :
    ∃ c cs, p.write = c :: cs ∧ isBlank c = false ∧ c ≠ ']' := by
  cases p with
  | null => exact ⟨'n', _, rfl, rfl, by decide⟩
  | bool b => cases b with
    | true => exact ⟨'t', _, rfl, rfl, by decide⟩
    | false => exact ⟨'f', _, rfl, rfl, by decide⟩
  | int n =>
    obtain ⟨c, cs, hcs, hc⟩ := exists_writeInt_cons n
    refine ⟨c, cs, hcs, ?_, ?_⟩
    · refine Bool.eq_false_iff.mpr fun hb => ?_
      simp only [isBlank, Bool.or_eq_true, beq_iff_eq] at hb
      rcases hb with ((rfl | rfl) | rfl) | rfl <;> exact absurd hc (by decide)
    · rintro rfl
      exact absurd hc (by decide)
  | float x => cases hf
  | text s => exact ⟨'"', _, rfl, rfl, by decide⟩
  | list items => exact ⟨'[', _, rfl, rfl, by decide⟩
  | record fields => exact ⟨'{', _, rfl, rfl, by decide⟩

theorem exists_writeItems_cons {p : Payload} (others : List Payload) (hf : p.floatFree = true) :
    ∃ c cs, writeItems (p :: others) = c :: cs ∧ isBlank c = false ∧ c ≠ ']' := by
  obtain ⟨c, cs, hwrite, hc⟩ := exists_write_cons hf
  cases others with
  | nil => exact ⟨c, cs ++ [']'], by rw [writeItems, hwrite]; rfl, hc⟩
  | cons q more =>
    exact ⟨c, cs ++ ',' :: writeItems (q :: more), by rw [writeItems, hwrite]; rfl, hc⟩

theorem exists_writeFields_cons (e : String × Payload) (others : List (String × Payload)) :
    ∃ cs, writeFields (e :: others) = '"' :: cs := by
  cases others with
  | nil => exact ⟨_, rfl⟩
  | cons q more => exact ⟨_, rfl⟩

/-- What begins like a number is read as one. -/
theorem read_number {room : Nat} {c : Char} (hc : c = '-' ∨ isDigit c = true) (cs : List Char) :
    read room (c :: cs) = readNumber (c :: cs) := by
  have hother : c ∉ ['n', 't', 'f', '"', '[', '{'] := by
    intro hm
    simp only [List.mem_cons, List.not_mem_nil, or_false] at hm
    rcases hm with rfl | rfl | rfl | rfl | rfl | rfl <;> exact absurd hc (by decide)
  rw [read] <;> intros <;> simp_all

/-! ## Containers -/

/-- The reader takes the text of a payload from the front of any text, and no more. -/
def Takes (value : List Char → Option (Payload × List Char)) (p : Payload) : Prop :=
  ∀ rest, Follows rest → value (p.write ++ rest) = some (p, rest)

theorem Takes.skip {value : List Char → Option (Payload × List Char)} {p : Payload}
    (h : Takes value p) (hf : p.floatFree = true) {rest : List Char} (hrest : Follows rest) :
    value (skipBlanks (p.write ++ rest)) = some (p, rest) := by
  obtain ⟨c, cs, hwrite, hblank, -⟩ := exists_write_cons hf
  have hback := h rest hrest
  rw [hwrite, List.cons_append] at hback ⊢
  rwa [skipBlanks_cons hblank]

section Containers

variable {value : List Char → Option (Payload × List Char)}

/-- Items are read one by one. A comma or a bracket stands behind each, so the next value does not
run into it. -/
theorem readItems_writeItems {items : List Payload} {steps : Nat} (hne : items ≠ [])
    (hsteps : items.length ≤ steps) (hf : floatFreeItems items = true)
    (h : ∀ p ∈ items, Takes value p) (rest : List Char) :
    readItems value steps (writeItems items ++ rest) = some (items, rest) := by
  induction items generalizing steps with
  | nil => exact absurd rfl hne
  | cons p others ih =>
    obtain ⟨steps, rfl⟩ := Nat.exists_eq_succ_of_ne_zero (Nat.ne_zero_of_lt hsteps)
    obtain ⟨hp, hothers⟩ := Bool.and_eq_true_iff.mp hf
    have htakes := h p List.mem_cons_self
    cases others with
    | nil =>
      rw [writeItems, List.append_assoc, List.singleton_append, readItems,
        htakes.skip hp (.bracket rest)]
      rfl
    | cons q more =>
      have hmore := ih (List.cons_ne_nil _ _) (Nat.le_of_succ_le_succ hsteps) hothers
        fun x hx => h x (List.mem_cons_of_mem _ hx)
      rw [writeItems, List.append_assoc, List.cons_append, readItems,
        htakes.skip hp (.comma _)]
      show (readItems value steps (writeItems (q :: more) ++ rest)).bind _ = _
      rw [hmore]
      rfl

/-- One step reads one field: its name, its value, and what stands behind it. -/
theorem readFields_field (name : String) {p : Payload} {cs rest : List Char} (steps : Nat)
    (h : value (skipBlanks cs) = some (p, rest)) :
    readFields value (steps + 1) (writeText name ++ ':' :: cs) =
      match skipBlanks rest with
      | ',' :: rest => do
        let (ps, rest) ← readFields value steps rest
        some ((name, p) :: ps, rest)
      | '}' :: rest => some ([(name, p)], rest)
      | _ => none := by
  rw [writeText, List.cons_append, List.append_assoc, List.singleton_append]
  show (readText (name.toList.flatMap writeChar ++ '"' :: ':' :: cs)).bind _ = _
  rw [readText_flatMap]
  show (value (skipBlanks cs)).bind _ = _
  rw [h]
  rfl

theorem readFields_writeFields {fields : List (String × Payload)} {steps : Nat} (hne : fields ≠ [])
    (hsteps : fields.length ≤ steps) (hf : floatFreeFields fields = true)
    (h : ∀ e ∈ fields, Takes value e.2) (rest : List Char) :
    readFields value steps (writeFields fields ++ rest) = some (fields, rest) := by
  induction fields generalizing steps with
  | nil => exact absurd rfl hne
  | cons e others ih =>
    obtain ⟨steps, rfl⟩ := Nat.exists_eq_succ_of_ne_zero (Nat.ne_zero_of_lt hsteps)
    obtain ⟨hp, hothers⟩ := Bool.and_eq_true_iff.mp hf
    have htakes := h e List.mem_cons_self
    cases others with
    | nil =>
      rw [writeFields, List.append_assoc, List.cons_append, List.append_assoc,
        List.singleton_append, readFields_field e.1 steps (htakes.skip hp (.brace rest))]
      rfl
    | cons q more =>
      have hmore := ih (List.cons_ne_nil _ _) (Nat.le_of_succ_le_succ hsteps) hothers
        fun x hx => h x (List.mem_cons_of_mem _ hx)
      rw [writeFields, List.append_assoc, List.cons_append, List.append_assoc, List.cons_append,
        readFields_field e.1 steps (htakes.skip hp (.comma _))]
      show (readFields value steps (writeFields (q :: more) ++ rest)).bind _ = _
      rw [hmore]
      rfl

theorem length_le_writeItems (items : List Payload) : items.length ≤ (writeItems items).length := by
  induction items with
  | nil => exact Nat.zero_le _
  | cons p others ih =>
    cases others with
    | nil => simp [writeItems]
    | cons q more =>
      simp only [writeItems, List.length_append, List.length_cons] at ih ⊢
      omega

theorem length_le_writeFields (fields : List (String × Payload)) :
    fields.length ≤ (writeFields fields).length := by
  induction fields with
  | nil => exact Nat.zero_le _
  | cons e others ih =>
    cases others with
    | nil =>
      simp only [writeFields, List.length_append, List.length_cons, List.length_nil]
      omega
    | cons q more =>
      simp only [writeFields, List.length_append, List.length_cons] at ih ⊢
      omega

end Containers

/-! ## Values -/

theorem takes_list {room : Nat} {items : List Payload} (hf : floatFreeItems items = true)
    (h : ∀ p ∈ items, Takes (read room) p) : Takes (read (room + 1)) (.list items) := by
  intro rest _
  rw [write, List.cons_append, read]
  cases items with
  | nil => rfl
  | cons p others =>
    obtain ⟨c, cs, hwrite, hblank, hc⟩ :=
      exists_writeItems_cons others (Bool.and_eq_true_iff.mp hf).1
    have hsteps : (p :: others).length ≤ (writeItems (p :: others) ++ rest).length + 1 := by
      have := length_le_writeItems (p :: others)
      rw [List.length_append]
      omega
    have hread := readItems_writeItems (List.cons_ne_nil _ _) hsteps hf h rest
    -- The list is not over at its first character, since a value begins there.
    rw [hwrite, List.cons_append] at hread ⊢
    rw [skipBlanks_cons hblank, hread]
    split
    · exact absurd (List.cons.inj ‹_›).1 hc
    · rfl

theorem takes_record {room : Nat} {fields : List (String × Payload)}
    (hascending : Entries.Ascending fields) (hf : floatFreeFields fields = true)
    (h : ∀ e ∈ fields, Takes (read room) e.2) : Takes (read (room + 1)) (.record fields) := by
  intro rest _
  rw [write, List.cons_append, read]
  cases fields with
  | nil => rfl
  | cons e others =>
    obtain ⟨cs, hwrite⟩ := exists_writeFields_cons e others
    have hsteps : (e :: others).length ≤ (writeFields (e :: others) ++ rest).length + 1 := by
      have := length_le_writeFields (e :: others)
      rw [List.length_append]
      omega
    have hread := readFields_writeFields (List.cons_ne_nil _ _) hsteps hf h rest
    rw [hwrite, List.cons_append] at hread ⊢
    rw [skipBlanks_cons rfl, hread, ← ofFields_ascending hascending]
    rfl

-- By recursion on the payload. Each container takes one from the room, as it adds one to the depth.
mutual

/-- A payload without doubles is taken when there is room for its containers. -/
theorem takes_read : (p : Payload) → p.WellFormed → p.floatFree = true → {room : Nat} →
    p.depth ≤ room → Takes (read room) p
  | .null, _, _, _, _ => fun _ _ => by simp [write, read]
  | .bool true, _, _, _, _ => fun _ _ => by simp [write, read]
  | .bool false, _, _, _, _ => fun _ _ => by simp [write, read]
  | .int n, hn, _, _, _ => fun rest hrest => by
    obtain ⟨c, cs, hcs, hc⟩ := exists_writeInt_cons n
    rw [write, ← readNumber_writeInt hn hrest, hcs, List.cons_append, read_number hc]
  | .float _, _, hf, _, _ => absurd hf Bool.false_ne_true
  | .text s, _, _, _, _ => fun rest _ => by
    rw [write, writeText, List.cons_append, List.append_assoc, List.singleton_append, read,
      readText_flatMap]
    rfl
  | .list items, h, hf, _ + 1, hroom =>
    takes_list hf (takes_items items h hf (Nat.le_of_succ_le_succ hroom))
  | .record fields, h, hf, _ + 1, hroom =>
    takes_record h.1 hf (takes_fields fields h.2 hf (Nat.le_of_succ_le_succ hroom))

theorem takes_items : (items : List Payload) → WellFormedItems items → floatFreeItems items = true →
    {room : Nat} → depthItems items ≤ room → ∀ p ∈ items, Takes (read room) p
  | [], _, _, _, _ => nofun
  | p :: rest, h, hf, _, hroom => by
    obtain ⟨hp, hrest⟩ := Bool.and_eq_true_iff.mp hf
    obtain ⟨hfirst, hothers⟩ := Nat.max_le.mp hroom
    exact List.forall_mem_cons.mpr ⟨takes_read p h.1 hp hfirst, takes_items rest h.2 hrest hothers⟩

theorem takes_fields : (fields : List (String × Payload)) → WellFormedFields fields →
    floatFreeFields fields = true → {room : Nat} → depthFields fields ≤ room →
      ∀ e ∈ fields, Takes (read room) e.2
  | [], _, _, _, _ => nofun
  | (_, p) :: rest, h, hf, _, hroom => by
    obtain ⟨hp, hrest⟩ := Bool.and_eq_true_iff.mp hf
    obtain ⟨hfirst, hothers⟩ := Nat.max_le.mp hroom
    exact List.forall_mem_cons.mpr ⟨takes_read p h.1 hp hfirst, takes_fields rest h.2 hrest hothers⟩

end

/-- The text of a payload is read back as the payload. -/
theorem parse_render {p : Payload} (h : p.WellFormed) (hf : p.floatFree = true)
    (hdepth : p.depth ≤ depthLimit) : parse p.render = some p := by
  obtain ⟨c, cs, hwrite, hblank, -⟩ := exists_write_cons hf
  have hread : read depthLimit p.write = some (p, []) := by
    have := takes_read p h hf hdepth [] .nothing
    rwa [List.append_nil] at this
  rw [parse, parseWithin, render, String.toList_ofList]
  rw [hwrite] at hread ⊢
  rw [skipBlanks_cons hblank, hread]
  rfl

end Payload

/-! ## The law -/

theorem Encoding.layers_json : layers "json" = [.json] := rfl

/-- What was made ready to travel is decoded to what it was. -/
theorem Encoding.decode_encode {d : Payload} (h : d.WellFormed) (hf : d.floatFree = true)
    (hdepth : d.depth ≤ Payload.depthLimit) :
    decode ((encode d).1.getD .null) (encode d).2 = d := by
  have hjson : decode (.text d.render) (some "json") = d := by
    rw [decode, if_neg (by decide), layers_json, peelAll, peel, Payload.parse_render h hf hdepth]
    rfl
  cases d with
  | null => rfl
  | text s => rfl
  | _ => exact hjson

/-- What is published for a client arrives as a record of that client, with the same action and
the same payload, whatever message carries it. -/
theorem what_is_published_arrives (channel clientId connectionId : String)
    (action : Presence.Action) (d : Payload) (envelope : Message) (index : Nat)
    (hconnection : envelope.connectionId = some connectionId) (h : d.WellFormed)
    (hf : d.floatFree = true) (hdepth : d.depth ≤ 127) :
    ∃ e p, (Message.publish channel action clientId d).presence = some [e] ∧
      Presence.ofEntry? envelope index e = some p ∧
      p.action = action ∧ p.clientId = clientId ∧ p.connectionId = connectionId ∧ p.data = d := by
  have hdata := Encoding.decode_encode h hf hdepth
  rcases hencode : Encoding.encode d with ⟨wired, encoding⟩
  rw [hencode] at hdata
  let arrived : Presence :=
    { id := envelope.id.map fun id => Presence.idWithin id index
      action, clientId, connectionId, data := d
      timestamp := envelope.timestamp }
  refine ⟨{ action := action.code, clientId := some clientId, data := wired, encoding }, arrived,
    ?published, ?arrived, rfl, rfl, rfl, rfl⟩
  case published => rw [Message.publish, hencode]
  case arrived =>
    simp [arrived, Presence.ofEntry?, Presence.Action.ofCode?_code, hconnection, hdata]

/-- Text that looks like JSON text, a line break and a quote, the least and the greatest number. -/
def annsData : Payload :=
  .record
    [("text", .text "[1,2]"), ("texts", .list [.text "a\n\"é", .null, .bool true]),
      ("whole", .list [.int (-9223372036854775808), .int 18446744073709551615, .record []])]

theorem wellFormed_annsData : annsData.WellFormed := by
  refine ⟨?_, ?_⟩
  · unfold Entries.Ascending
    decide
  · simp [Payload.WellFormed, Payload.WellFormedFields, Payload.WellFormedItems, Entries.Ascending]

/-- Ann's data arrives as it was. -/
theorem anns_data_arrives :
    annsData.WellFormed ∧ annsData.floatFree = true ∧ annsData.depth ≤ 127 ∧
      ∃ e p, (Message.publish "room" .update "ann" annsData).presence = some [e] ∧
        Presence.ofEntry? { connectionId := some "conn-1" } 0 e = some p ∧
        p.action = .update ∧ p.clientId = "ann" ∧ p.connectionId = "conn-1" ∧ p.data = annsData :=
  ⟨wellFormed_annsData, rfl, by decide, what_is_published_arrives "room" "ann" "conn-1" .update
    annsData { connectionId := some "conn-1" } 0 rfl wellFormed_annsData rfl (by decide)⟩

end PresenceClient
