-- Punycode: a text beyond ASCII in letters, digits and hyphens. Its ASCII characters stand
-- first; then come, in ascending order of the other characters, the steps from the place of
-- one to the place of the next, as numbers whose digits tell where each number ends.

namespace PresenceClient.Link.Punycode

/-! ## Digits -/

/-- The digit of a value below thirty-six. -/
def digit (n : Nat) : Char :=
  if n < 26 then Char.ofNat ('a'.toNat + n) else Char.ofNat ('0'.toNat + (n - 26))

def value? (c : Char) : Option Nat :=
  if 'a' ≤ c ∧ c ≤ 'z' then some (c.toNat - 'a'.toNat)
  else if '0' ≤ c ∧ c ≤ '9' then some (c.toNat - '0'.toNat + 26)
  else none

/-- A digit below this one, at a place, is the last of its number. The places are counted in
steps of thirty-six. -/
def threshold (bias place : Nat) : Nat := min 26 (max 1 (place - bias))

theorem threshold_pos (bias place : Nat) : 1 ≤ threshold bias place := by
  simp only [threshold]
  omega

/-- Divide by thirty-five until little is left, and count thirty-six for each time. -/
def flatten (delta count : Nat) : Nat :=
  if 455 < delta then flatten (delta / 35) (count + 36) else count + 36 * delta / (delta + 38)
termination_by delta
decreasing_by exact Nat.div_lt_self (by omega) (by decide)

/-- The bias after a step, for so many characters. -/
def adapt (delta size : Nat) (isFirst : Bool) : Nat :=
  let delta := if isFirst then delta / 700 else delta / 2
  flatten (delta + delta / size) 0

/-! ## Writing -/

/-- A number from a place on, its last digit first. -/
def writeNumber (bias place n : Nat) : List Char :=
  let t := threshold bias place
  if n < t then [digit n]
  else digit (t + (n - t) % (36 - t)) :: writeNumber bias (place + 36) ((n - t) / (36 - t))
termination_by n
decreasing_by
  have := threshold_pos bias place
  exact Nat.lt_of_le_of_lt (Nat.div_le_self _ _) (by omega)

/-- What was written and where the writing stands. -/
structure Progress where
  written : List Char
  /-- The step since the last number. -/
  delta : Nat
  bias : Nat
  /-- The characters that are in their places. -/
  placed : Nat

/-- Go past one character of the text on the way to those with number `n`; `ascii` stood
first. -/
def pass (n ascii : Nat) (p : Progress) (c : Char) : Progress :=
  if c.toNat < n then { p with delta := p.delta + 1 }
  else if c.toNat = n then
    { written := p.written ++ writeNumber p.bias 36 p.delta
      delta := 0
      bias := adapt p.delta (p.placed + 1) (p.placed == ascii)
      placed := p.placed + 1 }
  else p

/-- Write the places of the characters with the given numbers, the last of which was
`before`. -/
def writeSteps (cs : List Char) (ascii : Nat) : (numbers : List Nat) → (before : Nat) →
    Progress → Progress
  | [], _, p => p
  | n :: rest, before, p =>
    let p := cs.foldl (pass n ascii) { p with delta := p.delta + (n - before) * (p.placed + 1) }
    writeSteps cs ascii rest (n + 1) { p with delta := p.delta + 1 }

def isAscii (c : Char) : Bool := decide (c.toNat < 0x80)

/-- The numbers of the characters beyond ASCII, each once, in ascending order. -/
def numbersOf (cs : List Char) : List Nat :=
  let numbers := (cs.filter fun c => !isAscii c).map Char.toNat
  (numbers.mergeSort fun a b => decide (a ≤ b)).eraseDups

def encode (cs : List Char) : List Char :=
  let ascii := cs.filter isAscii
  let start : Progress := { written := [], delta := 0, bias := 72, placed := ascii.length }
  let steps := (writeSteps cs ascii.length (numbersOf cs) 0x80 start).written
  if ascii.isEmpty then steps else ascii ++ '-' :: steps

/-! ## Reading -/

/-- A number from a place on, and what stands behind it; each digit counts `weight`. -/
def readNumber (bias : Nat) : (place weight sum : Nat) → List Char → Option (Nat × List Char)
  | _, _, _, [] => none
  | place, weight, sum, c :: rest => match value? c with
    | none => none
    | some d =>
      let t := threshold bias place
      let sum := sum + d * weight
      if d < t then some (sum, rest) else readNumber bias (place + 36) (weight * (36 - t)) sum rest

theorem length_readNumber {bias place weight sum : Nat} {cs rest : List Char} {n : Nat}
    (h : readNumber bias place weight sum cs = some (n, rest)) : rest.length < cs.length := by
  induction cs generalizing place weight sum with
  | nil => simp [readNumber] at h
  | cons c cs ih =>
    simp only [readNumber] at h
    split at h
    · simp at h
    · split at h
      · simp only [Option.some.injEq, Prod.mk.injEq] at h
        simp [h.2]
      · have := ih h
        simp only [List.length_cons]
        omega

/-- Put the characters that the steps name into their places, from a place of number `n` on. -/
def readSteps (bias n place : Nat) (text : List Char) (cs : List Char) : Option (List Char) :=
  match cs with
  | [] => some text
  | c :: rest => match h : readNumber bias 36 1 place (c :: rest) with
    | none => none
    | some (sum, rest') =>
      let size := text.length + 1
      let n := n + sum / size
      if n.isValidChar then
        have := length_readNumber h
        readSteps (adapt (sum - place) size (place == 0)) n (sum % size + 1)
          (text.insertIdx (sum % size) (Char.ofNat n)) rest'
      else none
termination_by cs.length
decreasing_by exact this

/-- The text that some letters, digits and hyphens stand for. The last hyphen ends the ASCII
characters, if there are any before it. -/
def decode? (cs : List Char) : Option (List Char) :=
  let back := cs.reverse
  let steps := (back.takeWhile (· != '-')).reverse
  let ascii := ((back.dropWhile (· != '-')).drop 1).reverse
  readSteps 72 0x80 0 ascii (if ascii.isEmpty then cs else steps)

end PresenceClient.Link.Punycode
