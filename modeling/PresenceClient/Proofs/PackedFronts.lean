-- What is read from the front of some bytes does not depend on what follows. So the entries of
-- a map can be taken out of it one by one, and any of them, in any order, make up a map that is
-- read within the same room.
import Mathlib.Data.List.Induction
import PresenceClient.Proofs.PackedBytes

namespace PresenceClient.Packed

/-! ## Readers -/

/-- The reader takes some bytes from the front, and would take them whatever followed. -/
def ReadsFront {α : Type} (r : List UInt8 → Option (α × List UInt8)) : Prop :=
  ∀ bytes a rest, r bytes = some (a, rest) →
    ∃ front, bytes = front ++ rest ∧ ∀ other, r (front ++ other) = some (a, other)

section Readers

variable {α β : Type} {r : List UInt8 → Option (α × List UInt8)}

theorem readsFront_pure (a : α) : ReadsFront fun bytes => some (a, bytes) := by
  rintro bytes b rest h
  cases h
  exact ⟨[], rfl, fun _ => rfl⟩

theorem readsFront_none : ReadsFront fun _ => (none : Option (α × List UInt8)) := nofun

theorem readsFront_bind {f : α → List UInt8 → Option (β × List UInt8)} (hr : ReadsFront r)
    (hf : ∀ a, ReadsFront (f a)) : ReadsFront fun bytes => (r bytes).bind fun x => f x.1 x.2 := by
  intro bytes b rest h
  obtain ⟨⟨a, behind⟩, ha, hb⟩ := Option.bind_eq_some_iff.mp h
  obtain ⟨front, rfl, hfront⟩ := hr bytes a behind ha
  obtain ⟨front', rfl, hfront'⟩ := hf a behind b rest hb
  refine ⟨front ++ front', (List.append_assoc _ _ _).symm, fun other => ?_⟩
  dsimp only
  rw [List.append_assoc, hfront]
  exact hfront' other

theorem readsFront_map (g : α → β) (hr : ReadsFront r) :
    ReadsFront fun bytes => (r bytes).map fun x => (g x.1, x.2) := by
  have h := readsFront_bind hr fun a => readsFront_pure (g a)
  intro bytes b rest
  simp only [Option.map_eq_bind]
  exact h bytes b rest

end Readers

/-! ## The readers of packed values -/

theorem readsFront_takeBytes (n : Nat) : ReadsFront (takeBytes n) := by
  induction n with
  | zero => exact readsFront_pure []
  | succ n ih =>
    intro bytes a rest h
    cases bytes with
    | nil => cases h
    | cons b bytes =>
      obtain ⟨⟨taken, behind⟩, htaken, he⟩ := Option.map_eq_some_iff.mp h
      cases he
      obtain ⟨front, rfl, hfront⟩ := ih bytes taken rest htaken
      refine ⟨b :: front, rfl, fun other => ?_⟩
      rw [List.cons_append, takeBytes, hfront]
      rfl

theorem readsFront_readNat (width : Nat) : ReadsFront (readNat width) :=
  readsFront_map ofBigEndian (readsFront_takeBytes width)

theorem length_of_takeBytes {n : Nat} {bytes front rest : List UInt8}
    (h : takeBytes n bytes = some (front, rest)) : front.length = n := by
  induction n generalizing bytes front with
  | zero =>
    cases h
    rfl
  | succ n ih =>
    cases bytes with
    | nil => cases h
    | cons b bytes =>
      obtain ⟨⟨taken, behind⟩, htaken, he⟩ := Option.map_eq_some_iff.mp h
      cases he
      exact congrArg (· + 1) (ih htaken)

theorem ofBigEndian_lt (bytes : List UInt8) : ofBigEndian bytes < 0x100 ^ bytes.length := by
  induction bytes using List.reverseRecOn with
  | nil => decide
  | append_singleton bytes b ih =>
    have hb := b.toNat_lt
    rw [ofBigEndian_append, List.length_append, List.length_singleton, Nat.pow_succ]
    omega

/-- A number is no greater than its bytes can tell. -/
theorem lt_of_readNat {width n : Nat} {bytes rest : List UInt8}
    (h : readNat width bytes = some (n, rest)) : n < 0x100 ^ width := by
  obtain ⟨⟨front, behind⟩, hfront, he⟩ := Option.map_eq_some_iff.mp h
  cases he
  exact length_of_takeBytes hfront ▸ ofBigEndian_lt front

/-! ## Heads -/

/-- Four bytes can count the entries of a map, and a map does not stand in a head. -/
def Head.Countable : Head → Prop
  | .map n => n < 2 ^ 32
  | .whole (.map _) => False
  | _ => True

/-- A reader of heads reads from the front, and what it reads is countable. -/
structure Heads (r : List UInt8 → Option (Head × List UInt8)) : Prop where
  front : ReadsFront r
  countable : ∀ bytes head rest, r bytes = some (head, rest) → head.Countable

theorem heads_fixed {head : Head} (h : head.Countable) : Heads fun bytes => some (head, bytes) := by
  refine ⟨readsFront_pure head, fun bytes other rest he => ?_⟩
  cases he
  exact h

/-- A head may go by a number that stands behind its first byte, and by nothing else. -/
theorem heads_number {width : Nat} {f : Nat × List UInt8 → Head × List UInt8}
    (hrest : ∀ x, (f x).2 = x.2) (hhead : ∀ n bytes other, (f (n, bytes)).1 = (f (n, other)).1)
    (h : ∀ x, x.1 < 0x100 ^ width → (f x).1.Countable) :
    Heads fun bytes => (readNat width bytes).map f := by
  constructor
  · intro bytes head rest he
    obtain ⟨⟨n, behind⟩, hn, he⟩ := Option.map_eq_some_iff.mp he
    obtain ⟨front, hbytes, hfront⟩ := readsFront_readNat width bytes n behind hn
    have hbehind := (hrest (n, behind)).symm.trans (congrArg Prod.snd he)
    refine ⟨front, hbytes.trans (congrArg (front ++ ·) hbehind), fun other => ?_⟩
    dsimp only
    rw [hfront, Option.map_some]
    have hfst : (f (n, other)).1 = head := (hhead n other behind).trans (congrArg Prod.fst he)
    exact congrArg some (Prod.ext hfst (hrest (n, other)))
  · intro bytes head rest he
    obtain ⟨⟨n, behind⟩, hn, he⟩ := Option.map_eq_some_iff.mp he
    have hcount := h (n, behind) (lt_of_readNat hn)
    rwa [he] at hcount

theorem heads_headOf (b : Nat) : Heads (headOf b) := by
  unfold headOf
  by_cases h1 : b < 0x80
  · simp only [h1, if_true]
    exact heads_fixed trivial
  by_cases h2 : b < 0x90
  · simp only [h1, h2, if_true, if_false]
    exact heads_fixed (show b - 0x80 < 2 ^ 32 by omega)
  by_cases h3 : b < 0xa0
  · simp only [h1, h2, h3, if_true, if_false]
    exact heads_fixed trivial
  by_cases h4 : b < 0xc0
  · simp only [h1, h2, h3, h4, if_true, if_false]
    exact heads_fixed trivial
  by_cases h5 : 0xe0 ≤ b
  · simp only [h1, h2, h3, h4, h5, if_true, if_false]
    exact heads_fixed trivial
  simp only [h1, h2, h3, h4, h5, if_false]
  -- What is left goes by its code: a head of its own, or a number of so many bytes.
  split
  any_goals exact heads_fixed trivial
  all_goals refine heads_number (fun _ => rfl) (fun _ _ _ => rfl) fun x hx => ?_
  any_goals exact trivial
  · exact Nat.lt_of_lt_of_le hx (by decide)
  · exact hx

theorem heads_readHead : Heads readHead := by
  constructor
  · intro bytes head rest h
    cases bytes with
    | nil => cases h
    | cons b bytes =>
      obtain ⟨front, rfl, hfront⟩ := (heads_headOf b.toNat).front bytes head rest h
      exact ⟨b :: front, rfl, hfront⟩
  · intro bytes head rest h
    cases bytes with
    | nil => cases h
    | cons b bytes => exact (heads_headOf b.toNat).countable bytes head rest h

/-! ## Values -/

theorem readsFront_readMany {value : List UInt8 → Option (Packed × List UInt8)}
    (h : ReadsFront value) (n : Nat) : ReadsFront (readMany value n) := by
  induction n with
  | zero => exact readsFront_pure []
  | succ n ih =>
    exact readsFront_bind h fun v => readsFront_bind ih fun vs => readsFront_pure (v :: vs)

theorem readsFront_readPairs {value : List UInt8 → Option (Packed × List UInt8)}
    (h : ReadsFront value) (n : Nat) : ReadsFront (readPairs value n) := by
  induction n with
  | zero => exact readsFront_pure []
  | succ n ih =>
    exact readsFront_bind h fun k => readsFront_bind h fun v => readsFront_bind ih fun es =>
      readsFront_pure ((k, v) :: es)

/-- What is read behind the head of a value. -/
def readBehind : (room : Nat) → Head → List UInt8 → Option (Packed × List UInt8)
  | _, .whole v => fun bytes => some (v, bytes)
  | 0, _ => fun _ => none
  | _ + 1, .bin n => fun bytes => (takeBytes n bytes).map fun x => (.bin x.1, x.2)
  | room + 1, .text n =>
    if room = 0 then fun _ => none
    else fun bytes => (takeBytes n bytes).map fun x => (.text x.1, x.2)
  | room + 1, .ext n =>
    if room = 0 then fun _ => none
    else fun bytes => (readNat 1 bytes).bind fun tag => (takeBytes n tag.2).bind fun x =>
      some (.ext (signed 1 tag.1) x.1, x.2)
  | room + 1, .list n => fun bytes =>
    (readMany (read room) n bytes).map fun x => (.list x.1, x.2)
  | room + 1, .map n => fun bytes =>
    (readPairs (read room) n bytes).map fun x => (.map x.1, x.2)

theorem read_eq_bind (room : Nat) : read (room + 1) =
    fun bytes => (readHead bytes).bind fun x => readBehind room x.1 x.2 := by
  funext bytes
  cases room with
  | zero =>
    rw [read, Option.bind_eq_bind]
    congr 1
    funext ⟨head, behind⟩
    cases head <;> rfl
  | succ room =>
    rw [read, Option.bind_eq_bind]
    congr 1
    funext ⟨head, behind⟩
    cases head with
    | text n =>
      dsimp only [readBehind]
      split <;> rfl
    | ext n =>
      dsimp only [readBehind]
      split <;> rfl
    | _ => rfl

theorem readsFront_read : (room : Nat) → ReadsFront (read room)
  | 0 => readsFront_none
  | room + 1 => by
    rw [read_eq_bind]
    refine readsFront_bind heads_readHead.front fun head => ?_
    cases room with
    | zero => cases head with
      | whole v => exact readsFront_pure v
      | _ => exact readsFront_none
    | succ room => cases head with
      | whole v => exact readsFront_pure v
      | bin n => exact readsFront_map Packed.bin (readsFront_takeBytes n)
      | text n =>
        dsimp only [readBehind]
        split
        · exact readsFront_none
        · exact readsFront_map Packed.text (readsFront_takeBytes n)
      | ext n =>
        dsimp only [readBehind]
        split
        · exact readsFront_none
        · exact readsFront_bind (readsFront_readNat 1) fun tag =>
            readsFront_bind (readsFront_takeBytes n) fun bytes =>
              readsFront_pure (Packed.ext (signed 1 tag) bytes)
      | list n => exact readsFront_map Packed.list (readsFront_readMany (readsFront_read room) n)
      | map n => exact readsFront_map Packed.map (readsFront_readPairs (readsFront_read room) n)

/-! ## The entries of a map -/

/-- Some bytes are read as the value, whatever follows them. -/
def Written (room : Nat) (v : Packed) : Prop :=
  ∃ front, ∀ rest, read room (front ++ rest) = some (v, rest)

theorem written_of_read {room : Nat} {bytes rest : List UInt8} {v : Packed}
    (h : read room bytes = some (v, rest)) : Written room v := by
  obtain ⟨front, -, hfront⟩ := readsFront_read room bytes v rest h
  exact ⟨front, hfront⟩

/-- The entries that are read are as many as are asked for, and each of them is written. -/
theorem written_of_readPairs {room n : Nat} {bytes rest : List UInt8} {es : List (Packed × Packed)}
    (h : readPairs (read room) n bytes = some (es, rest)) :
    es.length = n ∧ ∀ e ∈ es, Written room e.1 ∧ Written room e.2 := by
  induction n generalizing bytes es with
  | zero =>
    cases h
    exact ⟨rfl, nofun⟩
  | succ n ih =>
    simp only [readPairs, Option.bind_eq_bind] at h
    obtain ⟨⟨k, behind⟩, hk, h⟩ := Option.bind_eq_some_iff.mp h
    obtain ⟨⟨v, behind'⟩, hv, h⟩ := Option.bind_eq_some_iff.mp h
    obtain ⟨⟨es', behind''⟩, hes, h⟩ := Option.bind_eq_some_iff.mp h
    cases h
    obtain ⟨hlength, hall⟩ := ih hes
    refine ⟨congrArg (· + 1) hlength, fun e he => ?_⟩
    rcases List.mem_cons.mp he with rfl | he
    · exact ⟨written_of_read hk, written_of_read hv⟩
    · exact hall e he

/-- Entries that are written make up bytes that are read as all of them. -/
theorem readPairs_of_written {room : Nat} {es : List (Packed × Packed)}
    (h : ∀ e ∈ es, Written room e.1 ∧ Written room e.2) :
    ∃ front, ∀ rest, readPairs (read room) es.length (front ++ rest) = some (es, rest) := by
  induction es with
  | nil => exact ⟨[], fun _ => rfl⟩
  | cons e es ih =>
    obtain ⟨⟨fk, hk⟩, ⟨fv, hv⟩⟩ := h e List.mem_cons_self
    obtain ⟨front, hfront⟩ := ih fun e' he' => h e' (List.mem_cons_of_mem e he')
    refine ⟨fk ++ (fv ++ front), fun rest => ?_⟩
    simp only [List.length_cons, readPairs, List.append_assoc, hk, hv, hfront, Option.bind_eq_bind,
      Option.bind_some]

/-- A map is read as a head and that many entries. -/
theorem pairs_of_read {room : Nat} {bytes rest : List UInt8} {es : List (Packed × Packed)}
    (h : read (room + 2) bytes = some (.map es, rest)) :
    ∃ n behind, n < 2 ^ 32 ∧ readPairs (read room) n behind = some (es, rest) := by
  rw [read_eq_bind] at h
  obtain ⟨⟨head, behind⟩, hhead, h⟩ := Option.bind_eq_some_iff.mp h
  have hcount := heads_readHead.countable bytes head behind hhead
  dsimp only at h
  cases head with
  | map n =>
    obtain ⟨⟨entries, rest'⟩, hpairs, he⟩ := Option.map_eq_some_iff.mp h
    cases he
    exact ⟨n, behind, hcount, hpairs⟩
  | whole v =>
    cases h
    cases hcount
  | bin n =>
    obtain ⟨x, -, he⟩ := Option.map_eq_some_iff.mp h
    cases he
  | list n =>
    obtain ⟨x, -, he⟩ := Option.map_eq_some_iff.mp h
    cases he
  | text n =>
    dsimp only [readBehind] at h
    split at h
    · cases h
    · obtain ⟨x, -, he⟩ := Option.map_eq_some_iff.mp h
      cases he
  | ext n =>
    dsimp only [readBehind] at h
    split at h
    · cases h
    · obtain ⟨tag, -, h⟩ := Option.bind_eq_some_iff.mp h
      obtain ⟨x, -, he⟩ := Option.bind_eq_some_iff.mp h
      cases he

/-- That many entries behind the shortest head are read as a map. -/
theorem read_of_pairs {room n : Nat} {bytes rest : List UInt8} {es : List (Packed × Packed)}
    (hn : n < 2 ^ 32) (h : readPairs (read room) n bytes = some (es, rest)) :
    read (room + 2) (mapHead n ++ bytes) = some (.map es, rest) := by
  rw [read_eq_bind]
  dsimp only
  rw [readHead_mapHead hn, Option.bind_some]
  exact congrArg (Option.map fun x => (Packed.map x.1, x.2)) h

/-- Any entries of a map that is read, in any order, make up a map that is read, as long as they
are no more than before. -/
theorem exists_parse_of_entries {bytes : List UInt8} {es es' : List (Packed × Packed)}
    (h : parse bytes = some (.map es)) (hlength : es'.length ≤ es.length)
    (hsub : ∀ e ∈ es', e ∈ es) : ∃ bytes', parse bytes' = some (.map es') := by
  obtain ⟨⟨v, rest⟩, hread, he⟩ := Option.map_eq_some_iff.mp h
  cases he
  obtain ⟨n, behind, hcount, hpairs⟩ := pairs_of_read hread
  obtain ⟨rfl, hall⟩ := written_of_readPairs hpairs
  obtain ⟨front, hfront⟩ := readPairs_of_written fun e he => hall e (hsub e he)
  have hread' : read roomLimit (mapHead es'.length ++ (front ++ [])) = some (.map es', []) :=
    read_of_pairs (Nat.lt_of_le_of_lt hlength hcount) (hfront [])
  exact ⟨_, Option.map_eq_some_iff.mpr ⟨_, hread', rfl⟩⟩

end PresenceClient.Packed
