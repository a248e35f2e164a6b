-- What is written in packed form reads back, whatever follows it. Each kind of value has several
-- forms, from one byte for what is small to eight bytes of length or number. The reader tells
-- them apart by the first byte and comes to the same value with all.
import Mathlib.Algebra.Group.Int.Defs
import Mathlib.Algebra.Group.Nat.Defs
import PresenceClient.Packed.Reader

namespace PresenceClient.Packed

open Number (Binary64 twoTo)

/-! ## Plain bytes -/

theorem takeBytes_append (front rest : List UInt8) :
    takeBytes front.length (front ++ rest) = some (front, rest) := by
  induction front with
  | nil => rfl
  | cons b front ih => simp [takeBytes, ih]

theorem length_bigEndian (width n : Nat) : (bigEndian width n).length = width := by
  induction width generalizing n with
  | zero => rfl
  | succ width ih => simp [bigEndian, ih]

theorem ofBigEndian_append (front : List UInt8) (b : UInt8) :
    ofBigEndian (front ++ [b]) = ofBigEndian front * 0x100 + b.toNat := by
  simp [ofBigEndian]

theorem ofBigEndian_bigEndian {width n : Nat} (h : n < 0x100 ^ width) :
    ofBigEndian (bigEndian width n) = n := by
  induction width generalizing n with
  | zero =>
    have hn : n = 0 := by omega
    rw [hn]
    rfl
  | succ width ih =>
    have hhigh : n / 0x100 < 0x100 ^ width := by
      rw [Nat.pow_succ] at h
      exact Nat.div_lt_of_lt_mul (by rwa [Nat.mul_comm])
    rw [bigEndian, ofBigEndian_append, ih hhigh, UInt8.toNat_ofNat']
    omega

theorem readNat_bigEndian {width n : Nat} (h : n < 0x100 ^ width) (rest : List UInt8) :
    readNat width (bigEndian width n ++ rest) = some (n, rest) := by
  have htake := takeBytes_append (bigEndian width n) rest
  rw [length_bigEndian] at htake
  simp [readNat, htake, ofBigEndian_bigEndian h]

/-- A number comes back from its two's complement. -/
theorem signed_complement {width : Nat} {n : Int} (hlow : -(twoTo (8 * width) : Int) ≤ 2 * n) :
    signed width (n + twoTo (8 * width)).toNat = n := by
  have hpos := Number.twoTo_pos (8 * width)
  have hlarge : ¬2 * (n + twoTo (8 * width)).toNat < twoTo (8 * width) := by omega
  rw [signed, if_neg hlarge]
  omega

/-! ## Heads -/

section Heads

variable {b : UInt8} {n : Nat} {head : Head} {bytes rest : List UInt8}

theorem headOf_shortInt (h : n < 0x80) : headOf n rest = some (.whole (.int n), rest) := by
  unfold headOf
  rw [if_pos h]

theorem headOf_shortMap (hlow : 0x80 ≤ n) (hhigh : n < 0x90) :
    headOf n rest = some (.map (n - 0x80), rest) := by
  unfold headOf
  rw [if_neg (by omega), if_pos hhigh]

theorem headOf_shortList (hlow : 0x90 ≤ n) (hhigh : n < 0xa0) :
    headOf n rest = some (.list (n - 0x90), rest) := by
  unfold headOf
  rw [if_neg (by omega), if_neg (by omega), if_pos hhigh]

theorem headOf_shortText (hlow : 0xa0 ≤ n) (hhigh : n < 0xc0) :
    headOf n rest = some (.text (n - 0xa0), rest) := by
  unfold headOf
  rw [if_neg (by omega), if_neg (by omega), if_neg (by omega), if_pos hhigh]

theorem headOf_shortNegative (h : 0xe0 ≤ n) :
    headOf n rest = some (.whole (.int ((n : Int) - 0x100)), rest) := by
  unfold headOf
  rw [if_neg (by omega), if_neg (by omega), if_neg (by omega), if_neg (by omega), if_pos h]

/-- A head of one byte. -/
theorem readHead_short (hn : n < 0x100) (h : headOf n rest = some (head, rest)) :
    readHead ([UInt8.ofNat n] ++ rest) = some (head, rest) := by
  show headOf (UInt8.ofNat n).toNat rest = _
  rw [UInt8.toNat_ofNat', Nat.mod_eq_of_lt hn, h]

/-- A head that a number stands behind. -/
theorem readHead_number {width : Nat} {f : Nat → Head} (hb : ∀ bytes, headOf b.toNat bytes =
      (readNat width bytes).map fun (n, rest) => (f n, rest)) (hn : n < 0x100 ^ width) :
    readHead (b :: bigEndian width n ++ rest) = some (f n, rest) := by
  show headOf b.toNat (bigEndian width n ++ rest) = _
  rw [hb, readNat_bigEndian hn]
  rfl

theorem readHead_textHead (h : n < 2 ^ 32) :
    readHead (textHead n ++ rest) = some (.text n, rest) := by
  unfold textHead
  split
  · refine readHead_short (by omega) ?_
    rw [headOf_shortText (by omega) (by omega), Nat.add_sub_cancel_left]
  · repeat' split
    all_goals exact readHead_number (fun _ => rfl) (by omega)

theorem readHead_binHead (h : n < 2 ^ 32) :
    readHead (binHead n ++ rest) = some (.bin n, rest) := by
  unfold binHead
  repeat' split
  all_goals exact readHead_number (fun _ => rfl) (by omega)

theorem readHead_extHead (h : n < 2 ^ 32) :
    readHead (extHead n ++ rest) = some (.ext n, rest) := by
  unfold extHead
  repeat' split
  any_goals exact readHead_number (fun _ => rfl) (by omega)
  all_goals
    rename_i hn
    rw [hn]
    rfl

theorem readHead_listHead (h : n < 2 ^ 32) :
    readHead (listHead n ++ rest) = some (.list n, rest) := by
  unfold listHead
  split
  · refine readHead_short (by omega) ?_
    rw [headOf_shortList (by omega) (by omega), Nat.add_sub_cancel_left]
  · repeat' split
    all_goals exact readHead_number (fun _ => rfl) (by omega)

theorem readHead_mapHead (h : n < 2 ^ 32) :
    readHead (mapHead n ++ rest) = some (.map n, rest) := by
  unfold mapHead
  split
  · refine readHead_short (by omega) ?_
    rw [headOf_shortMap (by omega) (by omega), Nat.add_sub_cancel_left]
  · repeat' split
    all_goals exact readHead_number (fun _ => rfl) (by omega)

/-- The head of a negative number. -/
theorem readHead_negative (width : Nat) {z : Int} (hb : ∀ bytes, headOf b.toNat bytes =
      (readNat width bytes).map fun (n, rest) => (.whole (.int (signed width n)), rest))
    (hneg : z < 0) (hlow : -(twoTo (8 * width) : Int) ≤ 2 * z)
    (hwidth : twoTo (8 * width) = 0x100 ^ width) :
    readHead (b :: bigEndian width (z + twoTo (8 * width)).toNat ++ rest) =
      some (.whole (.int z), rest) := by
  have hsmall : (z + twoTo (8 * width)).toNat < 0x100 ^ width := by
    have hpos := Number.twoTo_pos (8 * width)
    omega
  rw [readHead_number (f := fun n => .whole (.int (signed width n))) hb hsmall,
    signed_complement hlow]

theorem readHead_writeInt {z : Int} (hlow : -2 ^ 63 ≤ z) (hhigh : z < 2 ^ 64) :
    readHead (writeInt z ++ rest) = some (.whole (.int z), rest) := by
  unfold writeInt
  split
  · rename_i hpos
    obtain ⟨n, rfl⟩ := Int.eq_ofNat_of_zero_le hpos
    rw [Int.toNat_natCast]
    dsimp only
    split
    · exact readHead_short (by omega) (headOf_shortInt ‹_›)
    · repeat' split
      all_goals exact readHead_number (f := fun n => .whole (.int n)) (fun _ => rfl) (by omega)
  · rename_i hneg
    have hbelow : z < 0 := by omega
    split
    · refine readHead_short (by omega) ?_
      rw [headOf_shortNegative (by omega)]
      congr 4
      omega
    · split
      · exact readHead_negative 1 (fun _ => rfl) hbelow (show -256 ≤ 2 * z by omega) rfl
      split
      · exact readHead_negative 2 (fun _ => rfl) hbelow (show -65536 ≤ 2 * z by omega) rfl
      split
      · exact readHead_negative 4 (fun _ => rfl) hbelow
          (show -4294967296 ≤ 2 * z by omega) rfl
      · exact readHead_negative 8 (fun _ => rfl) hbelow
          (show -18446744073709551616 ≤ 2 * z by omega) rfl

theorem readHead_single (word : UInt32) :
    readHead ((Packed.single word).write ++ rest) = some (.whole (.single word), rest) := by
  rw [write, readHead_number (f := fun n => .whole (.single (UInt32.ofNat n))) (fun _ => rfl)
    word.toNat_lt, UInt32.ofNat_toNat]

theorem readHead_double (x : Binary64) :
    readHead ((Packed.double x).write ++ rest) = some (.whole (.double x), rest) := by
  rw [write, readHead_number (f := fun n => .whole (.double ⟨UInt64.ofNat n⟩)) (fun _ => rfl)
    x.bits.toNat_lt, UInt64.ofNat_toNat]

end Heads

/-! ## Values that can be written -/

mutual

/-- Whole numbers have at most 64 bits, and every text, list and map has a length of 32 bits. -/
def Fits : Packed → Prop
  | .int n => -2 ^ 63 ≤ n ∧ n < 2 ^ 64
  | .text bytes | .bin bytes => bytes.length < 2 ^ 32
  | .ext tag bytes => -0x80 ≤ tag ∧ tag < 0x80 ∧ bytes.length < 2 ^ 32
  | .list items => items.length < 2 ^ 32 ∧ FitItems items
  | .map entries => entries.length < 2 ^ 32 ∧ FitEntries entries
  | .nil | .bool _ | .single _ | .double _ => True

def FitItems : List Packed → Prop
  | [] => True
  | v :: rest => v.Fits ∧ FitItems rest

def FitEntries : List (Packed × Packed) → Prop
  | [] => True
  | (k, v) :: rest => k.Fits ∧ v.Fits ∧ FitEntries rest

end

mutual

/-- The room that a value needs in order to be read. -/
def need : Packed → Nat
  | .bin _ => 2
  | .text _ | .ext _ _ => 3
  | .list items => needItems items + 2
  | .map entries => needEntries entries + 2
  | .nil | .bool _ | .int _ | .single _ | .double _ => 1

def needItems : List Packed → Nat
  | [] => 0
  | v :: rest => max v.need (needItems rest)

def needEntries : List (Packed × Packed) → Nat
  | [] => 0
  | (k, v) :: rest => max (max k.need v.need) (needEntries rest)

end

/-! ## Values -/

section Values

variable {room : Nat} {bytes rest : List UInt8}

theorem read_of_whole {v : Packed} (h : readHead bytes = some (.whole v, rest)) (hroom : 1 ≤ room) :
    read room bytes = some (v, rest) := by
  match room, hroom with
  | 1, _ => simp [read, h]
  | _ + 2, _ => simp [read, h]

theorem read_text (h : bytes.length < 2 ^ 32) (hroom : 3 ≤ room) :
    read room ((Packed.text bytes).write ++ rest) = some (.text bytes, rest) := by
  obtain ⟨room, rfl⟩ := Nat.exists_eq_add_of_le' hroom
  simp [read, write, readHead_textHead h, takeBytes_append]

theorem read_bin (h : bytes.length < 2 ^ 32) (hroom : 2 ≤ room) :
    read room ((Packed.bin bytes).write ++ rest) = some (.bin bytes, rest) := by
  obtain ⟨room, rfl⟩ := Nat.exists_eq_add_of_le' hroom
  simp [read, write, readHead_binHead h, takeBytes_append]

theorem read_ext {tag : Int} (hlow : -0x80 ≤ tag) (hhigh : tag < 0x80) (h : bytes.length < 2 ^ 32)
    (hroom : 3 ≤ room) :
    read room ((Packed.ext tag bytes).write ++ rest) = some (.ext tag bytes, rest) := by
  obtain ⟨room, rfl⟩ := Nat.exists_eq_add_of_le' hroom
  have hbyte : ofBigEndian [UInt8.ofNat (tag + 0x100).toNat] = (tag + 0x100).toNat % 0x100 := by
    simp [ofBigEndian]
  have htag : signed 1 (ofBigEndian [UInt8.ofNat (tag + 0x100).toNat]) = tag := by
    have hrange : twoTo (8 * 1) = 0x100 := rfl
    rw [hbyte, signed, hrange]
    split <;> omega
  simp [read, write, readHead_extHead h, readNat, takeBytes, takeBytes_append, htag]

mutual

/-- What is written reads back, with whatever follows it left behind. -/
theorem read_write : (v : Packed) → v.Fits → ∀ {room : Nat} {rest : List UInt8}, v.need ≤ room →
    read room (v.write ++ rest) = some (v, rest)
  | .nil, _, _, _, hroom => read_of_whole rfl hroom
  | .bool false, _, _, _, hroom => read_of_whole rfl hroom
  | .bool true, _, _, _, hroom => read_of_whole rfl hroom
  | .int _, h, _, _, hroom => read_of_whole (readHead_writeInt h.1 h.2) hroom
  | .single word, _, _, _, hroom => read_of_whole (readHead_single word) hroom
  | .double x, _, _, _, hroom => read_of_whole (readHead_double x) hroom
  | .text _, h, _, _, hroom => read_text h hroom
  | .bin _, h, _, _, hroom => read_bin h hroom
  | .ext _ _, h, _, _, hroom => read_ext h.1 h.2.1 h.2.2 hroom
  | .list items, h, room, rest, hroom => by
    obtain ⟨room, rfl⟩ := Nat.exists_eq_add_of_le' (Nat.le_of_add_left_le hroom)
    have hmany : readMany (read room) items.length (writeItems items ++ rest) =
        some (items, rest) :=
      readMany_write items h.2 (Nat.le_of_add_le_add_right hroom)
    simp [read, write, readHead_listHead h.1, hmany]
  | .map entries, h, room, rest, hroom => by
    obtain ⟨room, rfl⟩ := Nat.exists_eq_add_of_le' (Nat.le_of_add_left_le hroom)
    have hpairs : readPairs (read room) entries.length (writeEntries entries ++ rest) =
        some (entries, rest) := readPairs_write entries h.2 (Nat.le_of_add_le_add_right hroom)
    simp [read, write, readHead_mapHead h.1, hpairs]

theorem readMany_write : (items : List Packed) → FitItems items →
    ∀ {room : Nat} {rest : List UInt8}, needItems items ≤ room →
      readMany (read room) items.length (writeItems items ++ rest) = some (items, rest)
  | [], _, _, _, _ => rfl
  | v :: items, h, room, rest, hroom => by
    obtain ⟨hv, hitems⟩ := Nat.max_le.mp hroom
    simp [readMany, writeItems, read_write v h.1 hv, readMany_write items h.2 hitems]

theorem readPairs_write : (entries : List (Packed × Packed)) → FitEntries entries →
    ∀ {room : Nat} {rest : List UInt8}, needEntries entries ≤ room →
      readPairs (read room) entries.length (writeEntries entries ++ rest) = some (entries, rest)
  | [], _, _, _, _ => rfl
  | (k, v) :: entries, h, room, rest, hroom => by
    obtain ⟨hkv, hentries⟩ := Nat.max_le.mp hroom
    obtain ⟨hk, hv⟩ := Nat.max_le.mp hkv
    simp [readPairs, writeEntries, read_write k h.1 hk, read_write v h.2.1 hv,
      readPairs_write entries h.2.2 hentries]

end

end Values

end PresenceClient.Packed
