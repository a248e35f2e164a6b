-- The law of the ids. An entry that leaves its id open gets one from the message around it: the
-- connection, the serial and the place in the message, in decimal digits. Read from its end, such
-- an id gives back its serial and its place, whatever the connection is called.
import PresenceClient.Presence.Arrival
import PresenceClient.Proofs.JsonText

namespace PresenceClient

/-! ## Digits -/

namespace Number

theorem ofDigits_toDigits (n : Nat) : ofDigits (Nat.toDigits 10 n) = n := by
  have hsteps : ofDigits (Nat.toDigits 10 n) = Nat.ofDigitChars 10 (Nat.toDigits 10 n) 0 := by
    simp only [ofDigits, Nat.ofDigitChars, Nat.mul_comm]
  rw [hsteps]
  exact Nat.ofDigitChars_toDigits (by decide) (by decide)

theorem readNat?_toDigits (n : Nat) : readNat? (Nat.toDigits 10 n) = some n := by
  have hdigits : (Nat.toDigits 10 n).all isDigit = true :=
    List.all_eq_true.mpr fun _ => Payload.isDigit_of_mem_toDigits
  unfold readNat?
  rw [if_neg (by simp [Nat.toDigits_ne_nil, hdigits]), ofDigits_toDigits]

/-- The first digit is no sign, so the digits are read as they are. -/
theorem readSigned?_toDigits {n : Nat} (h : n < 2 ^ 63) :
    readSigned? (Nat.toDigits 10 n) = some (n : Int) := by
  have hread := readNat?_toDigits n
  obtain ⟨d, ds, hds, hd⟩ := Payload.exists_toDigits_cons n
  rw [hds] at hread ⊢
  have hrange : -0x8000000000000000 ≤ (n : Int) ∧ (n : Int) < 0x8000000000000000 := by omega
  unfold readSigned?
  split
  · rename_i heq
    rw [(List.cons.inj heq).1] at hd
    exact absurd hd (by decide)
  · rename_i heq
    rw [(List.cons.inj heq).1] at hd
    exact absurd hd (by decide)
  · simp [hread, hrange]

end Number

/-! ## Parts -/

namespace Text

variable {mark : Char} {cs : List Char}

theorem partsOf_of_not_mem (h : mark ∉ cs) : partsOf mark cs = [cs] := by
  induction cs with
  | nil => rfl
  | cons c rest ih =>
    obtain ⟨hne, hrest⟩ := not_or.mp (mt List.mem_cons.mpr h)
    rw [partsOf, if_neg (Ne.symm hne), ih hrest]

/-- What stands behind the last mark is the last part. -/
theorem partsOf_append (front : List Char) (h : mark ∉ cs) :
    partsOf mark (front ++ mark :: cs) = partsOf mark front ++ [cs] := by
  induction front with
  | nil => simp [partsOf, partsOf_of_not_mem h]
  | cons c rest ih =>
    rw [List.cons_append, partsOf, partsOf, ih]
    split
    · rfl
    · cases hparts : partsOf mark rest with
      | nil => exact absurd hparts (partsOf_ne_nil mark rest)
      | cons part parts => rfl

end Text

/-! ## Ids that are given -/

theorem colon_not_mem_toDigits (n : Nat) : ':' ∉ Nat.toDigits 10 n := fun h =>
  absurd (Payload.isDigit_of_mem_toDigits h) (by decide)

/-- The id that a message has for a connection and a serial of it. -/
def Message.idOf (connection : String) (serial : Nat) : String :=
  connection ++ ":" ++ toString serial

namespace Presence

theorem toList_idWithin (connection : String) (serial index : Nat) :
    (idWithin (Message.idOf connection serial) index).toList =
      (connection.toList ++ ':' :: Nat.toDigits 10 serial) ++ ':' :: Nat.toDigits 10 index := by
  simp [idWithin, Message.idOf, Nat.toString_eq_repr]

variable {p : Presence} {connection : String} {serial index : Nat}

/-- An id that was given names a record of the connection. -/
theorem not_isSynthesized_of_id
    (hid : p.id = some (idWithin (Message.idOf connection serial) index))
    (hconnection : p.connectionId = connection) : p.isSynthesized = false := by
  unfold isSynthesized
  simp [hid, hconnection, toList_idWithin, List.append_assoc]

/-- An id that was given is taken apart again from its end, colons before that notwithstanding. -/
theorem order?_of_id (hid : p.id = some (idWithin (Message.idOf connection serial) index))
    (hserial : serial < 2 ^ 63) (hindex : index < 2 ^ 63) :
    p.order? = some ((serial : Int), (index : Int)) := by
  have hparts :
      (Text.partsOf ':' (idWithin (Message.idOf connection serial) index).toList).reverse =
      Nat.toDigits 10 index :: Nat.toDigits 10 serial ::
        (Text.partsOf ':' connection.toList).reverse := by
    rw [toList_idWithin, Text.partsOf_append _ (colon_not_mem_toDigits index),
      Text.partsOf_append _ (colon_not_mem_toDigits serial)]
    simp
  unfold order?
  simp [hid, hparts, Number.readSigned?_toDigits hserial, Number.readSigned?_toDigits hindex]

end Presence

/-! ## Entries that leave their ids open -/

/-- The entry says who does what, and leaves its id and its connection to the message around it. -/
structure Entry.IsOpen (e : Entry) : Prop where
  client : e.clientId.isSome = true
  action : (Presence.Action.ofCode? e.action).isSome = true
  id : e.id = none
  connectionId : e.connectionId = none

/-- The message was published on a connection under a serial. -/
structure Message.IsFrom (m : Message) (connection : String) (serial : Nat) : Prop where
  id : m.id = some (Message.idOf connection serial)
  connectionId : m.connectionId = some connection

namespace Presence

variable {m : Message} {e : Entry} {connection : String} {serial : Nat}

/-- An open entry becomes a record of the connection, under the serial and in its place. -/
theorem record_of_open (hm : m.IsFrom connection serial) (he : e.IsOpen) (index : Nat) :
    ∃ p, ofEntry? m index e = some p ∧ e.clientId = some p.clientId ∧
      p.connectionId = connection ∧
      p.id = some (idWithin (Message.idOf connection serial) index) := by
  obtain ⟨client, hclient⟩ := Option.isSome_iff_exists.mp he.client
  obtain ⟨action, haction⟩ := Option.isSome_iff_exists.mp he.action
  unfold ofEntry?
  simp [hclient, haction, he.id, hm.id, he.connectionId, hm.connectionId]

/-- Whatever a connection is called, open entries of two of its messages become records that count
as its own and are ordered as they were sent: by the serials of the messages, then by the places in
a message, whatever times they bear. -/
theorem open_entries_are_ordered_as_they_were_sent (connection : String) {n m i j : Nat}
    (hn : n < 2 ^ 63) (hm : m < 2 ^ 63) (hi : i < 2 ^ 63) (hj : j < 2 ^ 63)
    {sent other : Message} (hsent : sent.IsFrom connection n) (hother : other.IsFrom connection m)
    {d e : Entry} (hd : d.IsOpen) (he : e.IsOpen) :
    ∃ p q, ofEntry? sent i d = some p ∧ ofEntry? other j e = some q ∧
      p.isSynthesized = false ∧ q.isSynthesized = false ∧
      p.order? = some ((n : Int), (i : Int)) ∧ q.order? = some ((m : Int), (j : Int)) ∧
      (p.key = q.key ↔ d.clientId = e.clientId) ∧
      (p.isNewerThan q = true ↔ m < n ∨ n = m ∧ j < i) := by
  obtain ⟨p, hp, hpclient, hpconnection, hpid⟩ := record_of_open hsent hd i
  obtain ⟨q, hq, hqclient, hqconnection, hqid⟩ := record_of_open hother he j
  have hpown := not_isSynthesized_of_id hpid hpconnection
  have hqown := not_isSynthesized_of_id hqid hqconnection
  have hporder := order?_of_id hpid hn hi
  have hqorder := order?_of_id hqid hm hj
  refine ⟨p, q, hp, hq, hpown, hqown, hporder, hqorder, ?key, ?newer⟩
  case key =>
    rw [hpclient, hqclient]
    simp [key, hpconnection, hqconnection]
  case newer =>
    have horder : p.isNewerThan q = orderAfter (n, i) (m, j) := by
      simp [isNewerThan, hpown, hqown, hporder, hqorder]
    rw [horder, orderAfter, decide_eq_true_iff]
    omega

/-- The tenth message counts as newer than the ninth, though its time is the earlier one and its
serial comes first in the order of texts. -/
theorem the_tenth_message_is_newer_than_the_ninth :
    let ninth : Message :=
      { id := some "a:1:9", connectionId := some "a:1", timestamp := some 500 }
    let tenth : Message :=
      { id := some "a:1:10", connectionId := some "a:1", timestamp := some 100 }
    let entry : Entry := { action := Action.update.code, clientId := some "ann" }
    tenth.IsFrom "a:1" 10 ∧ ninth.IsFrom "a:1" 9 ∧ entry.IsOpen ∧
      ∃ p q, ofEntry? tenth 0 entry = some p ∧ ofEntry? ninth 2 entry = some q ∧
        p.order? = some (10, 0) ∧ q.order? = some (9, 2) ∧ p.key = q.key ∧
        p.isNewerThan q = true := by
  intro ninth tenth entry
  have htenth : tenth.IsFrom "a:1" 10 := ⟨by decide, rfl⟩
  have hninth : ninth.IsFrom "a:1" 9 := ⟨by decide, rfl⟩
  have hentry : entry.IsOpen := ⟨rfl, rfl, rfl, rfl⟩
  obtain ⟨p, q, hp, hq, -, -, hporder, hqorder, hkey, hnewer⟩ :=
    open_entries_are_ordered_as_they_were_sent "a:1" (n := 10) (m := 9) (i := 0) (j := 2)
      (by decide) (by decide) (by decide) (by decide) htenth hninth hentry hentry
  exact ⟨htenth, hninth, hentry, p, q, hp, hq, hporder, hqorder, hkey.mpr rfl,
    hnewer.mpr (.inl (by decide))⟩

end Presence

end PresenceClient
