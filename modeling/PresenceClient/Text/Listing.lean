-- Listings: tables of code points, kept as lines of words with a blank between each two. The
-- numbers in a word are hexadecimal; what else stands in it depends on the table.
import PresenceClient.Number.Hexadecimal
import PresenceClient.Text.Parts

namespace PresenceClient.Text.Listing

/-! ## Words -/

/-- The words of some lines. -/
def words (lines : List String) : List (List Char) :=
  lines.flatMap fun line => partsOf ' ' line.toList

/-- The number that a word writes. -/
def number (word : List Char) : Nat := (Number.readIn? 16 word).getD 0

/-- The numbers of a word, with a mark between each two. -/
def numbers (mark : Char) (word : List Char) : List Nat := (partsOf mark word).map number

/-! ## Spans -/

/-- The code points from `first` to `last`. -/
structure Span where
  first : Nat
  last : Nat
deriving DecidableEq, Repr

def Span.holds (s : Span) (n : Nat) : Bool := decide (s.first ≤ n ∧ n ≤ s.last)

/-- One code point, or the first and the last with a hyphen between. -/
def span (word : List Char) : Span := match cutAt '-' word with
  | some (first, last) => ⟨number first, number last⟩
  | none => ⟨number word, number word⟩

def spans (lines : List String) : List Span := (words lines).map span

/-- Does one of the spans hold the character? -/
def holds (spans : List Span) (c : Char) : Bool := spans.any fun s => s.holds c.toNat

end PresenceClient.Text.Listing
