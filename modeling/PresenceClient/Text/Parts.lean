-- A text cut at every occurrence of a mark. Putting the mark back gives the text.

namespace PresenceClient.Text

/-- The parts between the occurrences of `mark`; one more than there are of those. -/
def partsOf (mark : Char) : List Char → List (List Char)
  | [] => [[]]
  | c :: rest =>
    if c = mark then [] :: partsOf mark rest
    else match partsOf mark rest with
      | [] => [[c]]
      | part :: parts => (c :: part) :: parts

theorem partsOf_ne_nil (mark : Char) (cs : List Char) : partsOf mark cs ≠ [] := by
  cases cs with
  | nil => simp [partsOf]
  | cons c rest =>
    unfold partsOf
    split
    · simp
    · split <;> simp

/-- What stands before the first `mark` and what stands after it. -/
def cutAt (mark : Char) : List Char → Option (List Char × List Char)
  | [] => none
  | c :: rest =>
    if c = mark then some ([], rest)
    else (cutAt mark rest).map fun (before, after) => (c :: before, after)

end PresenceClient.Text
