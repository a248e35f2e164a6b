-- The composed form of a text: marks stand in the order of their ranks, and a character that
-- can be written as one is not written as a base with marks.
import PresenceClient.Text.Composed.Table

namespace PresenceClient.Text

namespace Composed

/-! ## Order of marks -/

/-- The rank of a mark; what stands in a place of its own has none. -/
def rank (c : Char) : Nat :=
  if c.toNat < 0x300 then 0
  else match ranks.find? fun r => Listing.holds r.members c with
    | some r => r.value
    | none => 0

/-- Put a character before an ordered text. It goes behind the marks of lower rank. -/
def place (c : Char) : List Char → List Char
  | [] => [c]
  | d :: rest =>
    if 0 < rank d ∧ rank d < rank c then d :: place c rest else c :: d :: rest

/-- Each run of marks in ascending order of rank; marks of one rank keep their order. -/
def ordered (cs : List Char) : List Char := cs.foldr place []

/-! ## Korean syllables

A syllable is composed of one of nineteen initials and one of twenty-one vowels, and that of
such a pair and one of twenty-seven finals. -/

def firstSyllable : Nat := 0xac00

def syllablePair? (n : Nat) : Option (Nat × Nat) :=
  let index := n - firstSyllable
  if n < firstSyllable ∨ 19 * 21 * 28 ≤ index then none
  else if index % 28 = 0 then some (0x1100 + index / 28 / 21, 0x1161 + index / 28 % 21)
  else some (n - index % 28, 0x11a7 + index % 28)

def syllable? (a b : Nat) : Option Nat :=
  if 0x1100 ≤ a ∧ a < 0x1100 + 19 ∧ 0x1161 ≤ b ∧ b < 0x1161 + 21 then
    some (firstSyllable + ((a - 0x1100) * 21 + (b - 0x1161)) * 28)
  else if firstSyllable ≤ a ∧ a < firstSyllable + 19 * 21 * 28 ∧ (a - firstSyllable) % 28 = 0 ∧
      0x11a7 < b ∧ b < 0x11a7 + 28 then some (a + (b - 0x11a7))
  else none

/-! ## Taking apart -/

/-- The two characters of which one is composed. -/
def pair? (n : Nat) : Option (Nat × Nat) :=
  (syllablePair? n).or ((pairs.find? fun p => p.whole == n).map fun p => (p.base, p.added))

def split (c : Char) : List Char := match pair? c.toNat with
  | some (base, added) => [Char.ofNat base, Char.ofNat added]
  | none => [c]

/-- All bases with their marks, in order. No character is composed in more than three steps. -/
def apart (cs : List Char) : List Char :=
  ordered (((cs.flatMap split).flatMap split).flatMap split)

/-! ## Putting together -/

def whole? (a b : Char) : Option Char :=
  ((syllable? a.toNat b.toNat).or
    ((pairs.find? fun p => p.base == a.toNat && p.added == b.toNat).map Pair.whole)).map Char.ofNat

/-- A text that is being put together. -/
structure Progress where
  /-- What is finished, the last character first. -/
  done : List Char
  /-- The character that may still take something in. -/
  base : Option Char
  /-- What stands behind the base, the last character first. -/
  marks : List Char

def Progress.result (p : Progress) : List Char :=
  (p.marks ++ p.base.toList ++ p.done).reverse

/-- The base takes a character in unless one between them stands in the way: one of the same
rank, or any before a character without a rank. -/
def Progress.add (p : Progress) (c : Char) : Progress :=
  match p.base with
  | none => if rank c = 0 then { p with base := some c } else { p with done := c :: p.done }
  | some b =>
    let isFree := p.marks.head?.all fun m => decide (rank m < rank c)
    match if isFree then whole? b c else none with
    | some w => { p with base := some w }
    | none =>
      if rank c = 0 then { done := p.marks ++ b :: p.done, base := some c, marks := [] }
      else { p with marks := c :: p.marks }

def together (cs : List Char) : List Char := (cs.foldl Progress.add ⟨[], none, []⟩).result

end Composed

/-- The composed form of a folded text. Below the marks nothing is to be composed. -/
def composed (cs : List Char) : List Char :=
  if cs.all fun c => decide (c.toNat < 0x300) then cs
  else Composed.together (Composed.apart cs)

end PresenceClient.Text
