-- Folding: a text as it is where case, width and manner of writing do not matter.
import PresenceClient.Text.Folding.Table

namespace PresenceClient.Text

namespace Folding

/-- What stands for a code point by a run. -/
def Run.image? (r : Run) (n : Nat) : Option (List Nat) :=
  let away := n - r.members.first
  if r.members.holds n && away % r.distance == 0 then
    some [r.image + away / r.distance * r.imageDistance]
  else none

/-- What stands for a code point by a row. -/
def Row.image? (r : Row) (n : Nat) : Option (List Nat) :=
  if n < r.first then none else r.images[n - r.first]?

def runs : List Run := parallelRuns ++ jointRuns ++ alternateRuns

def rows : List Row := lowRows ++ middleRows ++ highRows

/-- What stands for a code point, if it is not itself. -/
def image? (n : Nat) : Option (List Nat) :=
  (runs.findSome? fun r => r.image? n).or (rows.findSome? fun r => r.image? n)

end Folding

/-- What stands for a character, which for most is the character itself. -/
def fold (c : Char) : List Char :=
  if c.toNat < 0x80 then [c.toLower]
  else if Listing.holds Folding.traceless c then []
  else match Folding.image? c.toNat with
    | some image => image.map Char.ofNat
    | none => [c]

def folded (cs : List Char) : List Char := cs.flatMap fold

end PresenceClient.Text
