-- Texts and whole numbers in JSON text and back. Every character of a text is written in a way
-- that reads back as it and nothing more, and the digits of a number end where the number does.
import Mathlib.Tactic.IntervalCases
import PresenceClient.Payload.Parser
import PresenceClient.Payload.Printer

namespace PresenceClient.Payload

open Number (isDigit twoTo)

/-! ## Characters -/

/-- A control character is escaped, and what follows its backslash is undone. -/
theorem readEscape_control (n : Nat) (h : n < 0x20) :
    ∃ e, writeChar (Char.ofNat n) = '\\' :: e ∧
      ∀ rest, readEscape (e ++ rest) = some (Char.ofNat n, rest) := by
  interval_cases n <;> exact ⟨_, rfl, fun _ => rfl⟩

/-- A character stands for itself, or a backslash escapes it. -/
theorem writeChar_cases (c : Char) :
    (writeChar c = [c] ∧ c ≠ '"' ∧ c ≠ '\\' ∧ ¬c.toNat < 0x20) ∨
      ∃ e, writeChar c = '\\' :: e ∧ ∀ rest, readEscape (e ++ rest) = some (c, rest) := by
  by_cases hquote : c = '"'
  · subst hquote
    exact .inr ⟨['"'], rfl, fun _ => rfl⟩
  by_cases hslash : c = '\\'
  · subst hslash
    exact .inr ⟨['\\'], rfl, fun _ => rfl⟩
  by_cases hcontrol : c.toNat < 0x20
  · right
    have hback := readEscape_control c.toNat hcontrol
    rwa [Char.ofNat_toNat] at hback
  · exact .inl ⟨by rw [writeChar, if_neg hquote, if_neg hslash, if_neg hcontrol],
      hquote, hslash, hcontrol⟩

/-- One step reads what one character wrote. -/
theorem readChars_writeChar (steps : Nat) (c : Char) (rest : List Char) :
    readChars (steps + 1) (writeChar c ++ rest) =
      (readChars steps rest).map fun (cs, rest) => (c :: cs, rest) := by
  rcases writeChar_cases c with ⟨hwrite, hquote, hslash, hcontrol⟩ | ⟨e, hwrite, hback⟩
  · rw [hwrite, List.singleton_append, readChars, if_neg hcontrol]
    · cases readChars steps rest <;> rfl
    · exact hquote
    · exact hslash
  · rw [hwrite, List.cons_append, readChars, hback]
    show (readChars steps rest).bind _ = _
    cases readChars steps rest <;> rfl

/-! ## Text -/

theorem readChars_flatMap {cs : List Char} {steps : Nat} (h : cs.length < steps)
    (rest : List Char) :
    readChars steps (cs.flatMap writeChar ++ '"' :: rest) = some (cs, rest) := by
  induction cs generalizing steps with
  | nil =>
    obtain ⟨steps, rfl⟩ := Nat.exists_eq_succ_of_ne_zero (Nat.ne_of_gt h)
    rfl
  | cons c cs ih =>
    obtain ⟨steps, rfl⟩ := Nat.exists_eq_succ_of_ne_zero (Nat.ne_zero_of_lt h)
    rw [List.flatMap_cons, List.append_assoc, readChars_writeChar, ih (Nat.lt_of_succ_lt_succ h)]
    rfl

theorem length_le_flatMap (cs : List Char) : cs.length ≤ (cs.flatMap writeChar).length := by
  induction cs with
  | nil => exact Nat.le_refl _
  | cons c cs ih =>
    have hpos : 1 ≤ (writeChar c).length := by
      rcases writeChar_cases c with ⟨hwrite, -⟩ | ⟨e, hwrite, -⟩ <;> simp [hwrite]
    simp only [List.flatMap_cons, List.length_append, List.length_cons]
    omega

theorem readText_flatMap (s : String) (rest : List Char) :
    readText (s.toList.flatMap writeChar ++ '"' :: rest) = some (s, rest) := by
  have hsteps : s.toList.length <
      (s.toList.flatMap writeChar ++ '"' :: rest).length + 1 := by
    have := length_le_flatMap s.toList
    simp only [List.length_append]
    omega
  rw [readText, readChars_flatMap hsteps]
  simp

/-! ## Digits -/

theorem isDigit_eq (c : Char) : isDigit c = c.isDigit := by
  simp [isDigit, Char.isDigit, Char.le_def]

theorem isDigit_of_mem_toDigits {n : Nat} {c : Char} (h : c ∈ Nat.toDigits 10 n) :
    isDigit c = true :=
  (isDigit_eq c).trans (Nat.isDigit_of_mem_toDigits (by decide) (by decide) h)

theorem exists_toDigits_cons (n : Nat) :
    ∃ d ds, Nat.toDigits 10 n = d :: ds ∧ isDigit d = true := by
  obtain ⟨d, ds, hds⟩ := List.exists_cons_of_ne_nil (Nat.toDigits_ne_nil (n := n) (b := 10))
  exact ⟨d, ds, hds, isDigit_of_mem_toDigits (hds ▸ List.mem_cons_self)⟩

/-- Only the number zero begins with a zero. -/
theorem exists_toDigits_cons_of_pos {n : Nat} (h : 0 < n) :
    ∃ d ds, Nat.toDigits 10 n = d :: ds ∧ d ≠ '0' := by
  induction n using Nat.base_induction 10 (by decide) with
  | single m hm =>
    exact ⟨m.digitChar, [], Nat.toDigits_of_lt_base hm, by simpa using Nat.ne_of_gt h⟩
  | digit m k hk hm ih =>
    obtain ⟨d, ds, hds, hd⟩ := ih hm
    refine ⟨d, ds ++ Nat.toDigits 10 k, ?_, hd⟩
    rw [← Nat.toDigits_append_toDigits (by decide) hm hk, hds, List.cons_append]

/-- Digits are gathered without a loss as long as the number they write fits. -/
theorem gather_eq {ds : List Char} {v : Nat} (h : Nat.ofDigitChars 10 ds v < twoTo 64) :
    gather ds v = (Nat.ofDigitChars 10 ds v, 0) := by
  induction ds generalizing v with
  | nil => rfl
  | cons d ds ih =>
    rw [Nat.ofDigitChars_cons, Nat.mul_comm] at h ⊢
    -- What is gathered so far is no greater than the whole, so it fits as well.
    have hgrows : v * 10 + digitValue d ≤ Nat.ofDigitChars 10 ds (v * 10 + digitValue d) := by
      rw [Nat.ofDigitChars_eq_ofDigitChars_zero]
      exact Nat.le_add_right_of_le (Nat.le_mul_of_pos_left _ (Nat.pow_pos (by decide)))
    rw [gather, if_pos (Nat.lt_of_le_of_lt hgrows h)]
    exact ih h

theorem gather_toDigits {n : Nat} (h : n < twoTo 64) : gather (Nat.toDigits 10 n) 0 = (n, 0) := by
  have hback : Nat.ofDigitChars 10 (Nat.toDigits 10 n) 0 = n :=
    Nat.ofDigitChars_toDigits (by decide) (by decide)
  rw [gather_eq (hback.symm ▸ h), hback]

/-! ## Whole numbers -/

/-- What can follow a value: nothing, a comma, or the end of a container. -/
inductive Follows : List Char → Prop where
  | nothing : Follows []
  | comma (rest : List Char) : Follows (',' :: rest)
  | bracket (rest : List Char) : Follows (']' :: rest)
  | brace (rest : List Char) : Follows ('}' :: rest)

section Follows

variable {rest : List Char}

/-- No digit can follow. -/
theorem Follows.takeWhile (h : Follows rest) : rest.takeWhile isDigit = [] := by cases h <;> rfl

theorem Follows.dropWhile (h : Follows rest) : rest.dropWhile isDigit = rest := by cases h <;> rfl

theorem Follows.readFraction (h : Follows rest) : readFraction rest = some (none, rest) := by
  cases h <;> rfl

theorem Follows.readExponent (h : Follows rest) : readExponent rest = some (none, rest) := by
  cases h <;> rfl

theorem readDigits_append {ds : List Char} (hne : ds ≠ []) (hds : ∀ d ∈ ds, isDigit d = true)
    (h : Follows rest) : readDigits (ds ++ rest) = some (ds, rest) := by
  rw [readDigits, List.takeWhile_append_of_pos hds, List.dropWhile_append_of_pos hds,
    h.takeWhile, h.dropWhile, List.append_nil]
  simp [hne]

theorem readWhole_toDigits (n : Nat) (h : Follows rest) :
    readWhole (Nat.toDigits 10 n ++ rest) = some (Nat.toDigits 10 n, rest) := by
  have hread : readDigits (Nat.toDigits 10 n ++ rest) = some (Nat.toDigits 10 n, rest) :=
    readDigits_append Nat.toDigits_ne_nil (fun _ => isDigit_of_mem_toDigits) h
  rcases Nat.eq_zero_or_pos n with rfl | hn
  · rw [Nat.toDigits_zero, List.singleton_append, readWhole, h.takeWhile]
    rfl
  · obtain ⟨d, ds, hds, hd⟩ := exists_toDigits_cons_of_pos hn
    rw [hds, List.cons_append] at hread ⊢
    rwa [readWhole]
    simpa using hd

theorem numberOf_toDigits {n : Nat} (hn : n < twoTo 64) :
    numberOf false (Nat.toDigits 10 n) none none = some (.int n) := by
  rw [numberOf, gather_toDigits hn]
  rfl

theorem numberOf_minus {n : Nat} (hn : 0 < n ∧ n ≤ twoTo 63) :
    numberOf true (Nat.toDigits 10 n) none none = some (.int (-n)) := by
  have hfits : n < twoTo 64 := Nat.lt_of_le_of_lt hn.2 (by decide)
  rw [numberOf, gather_toDigits hfits]
  exact if_pos hn

/-- A whole number of 64 bits reads back as itself. -/
theorem readNumber_writeInt {n : Int} (hn : -2 ^ 63 ≤ n ∧ n < 2 ^ 64) (h : Follows rest) :
    readNumber (writeInt n ++ rest) = some (.int n, rest) := by
  by_cases hneg : n < 0
  · have habs : 0 < n.natAbs ∧ n.natAbs ≤ twoTo 63 := by
      have : twoTo 63 = 2 ^ 63 := rfl
      omega
    rw [writeInt, if_pos hneg, List.cons_append, readNumber]
    simp only [readWhole_toDigits n.natAbs h, h.readFraction, h.readExponent, numberOf_minus habs,
      Option.bind_eq_bind, Option.bind_some]
    rw [← Int.eq_neg_natAbs_of_nonpos (Int.le_of_lt hneg)]
  · have habs : n.natAbs < twoTo 64 := by
      have : twoTo 64 = 2 ^ 64 := rfl
      omega
    -- The first digit is no sign, so none is taken off.
    have hunsigned : ∀ cs, Nat.toDigits 10 n.natAbs ++ rest = '-' :: cs → False := by
      obtain ⟨d, ds, hds, hd⟩ := exists_toDigits_cons n.natAbs
      intro cs hcs
      rw [hds, List.cons_append] at hcs
      obtain ⟨rfl, -⟩ := List.cons.inj hcs
      cases hd
    rw [writeInt, if_neg hneg, readNumber]
    · simp only [readWhole_toDigits n.natAbs h, h.readFraction, h.readExponent,
        numberOf_toDigits habs, Option.bind_eq_bind, Option.bind_some]
      rw [Int.natAbs_of_nonneg (Int.not_lt.mp hneg)]
    · exact hunsigned

end Follows

end PresenceClient.Payload
