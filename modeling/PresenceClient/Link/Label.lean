-- Labels: the parts of a domain between its dots. A label beyond ASCII is written in punycode,
-- behind a mark that says so.
import PresenceClient.Link.Punycode
import PresenceClient.Text.Assigned
import PresenceClient.Text.Composed
import PresenceClient.Text.Direction
import PresenceClient.Text.Folding
import PresenceClient.Text.Joining

namespace PresenceClient.Link

open Punycode (isAscii)
open Text.Listing (Span spans)

/-- A label as it is meant and as it is written in ASCII. -/
structure Label where
  text : List Char
  written : List Char
deriving DecidableEq, Repr

namespace Label

/-! ## Sound labels -/

/-- What is assigned and has no place in a label: controls, format characters, characters for
private use, and such as stand for a text with a full stop in it. -/
def barred : List Span := spans [
  "80-9f 600-605 61c 6dd 70f 890-891 8e2 1680 200e-200f 2024-2026 2028-202e 2066-2069 2488-249b",
  "2ff0-2fff 31ef 33c2 33c7 33d8 d800-f8ff fe12 fe19 fe30 fe52 fff9-fffd 110bd 110cd 13430-1343f",
  "1f100 e0001-e007f f0000-10fffd"]

def isAdmitted (c : Char) : Bool := Text.isAssigned c && !Text.Listing.holds barred c

/-- May the text be a label beyond ASCII? It is folded and composed, and begins with no mark. -/
def isSound (text : List Char) : Bool :=
  text.any (fun c => !isAscii c) && text.all isAdmitted && !text.head?.any Text.isMark &&
    Text.joinersNeeded [] text && Text.composed (Text.folded text) == text

/-! ## Writing and reading -/

/-- What a label in punycode begins with. -/
def mark : List Char := "xn--".toList

/-- The longest label that is written in punycode. -/
def writtenLimit : Nat := 1000

/-- The most characters behind the mark that are read. -/
def readLimit : Nat := 2000

def write? (text : List Char) : Option Label :=
  if isSound text && decide (text.length ≤ writtenLimit) then
    some ⟨text, mark ++ Punycode.encode text⟩
  else none

def read? (written : List Char) : Option Label := do
  let rest := written.drop mark.length
  let text ← Punycode.decode? rest
  if written.all isAscii && decide (rest.length ≤ readLimit) && isSound text then
    some ⟨text, written⟩
  else none

/-- The label that a folded and composed text stands for. -/
def ofText? (text : List Char) : Option Label :=
  if mark.isPrefixOf text then read? text
  else if text.all isAscii then some ⟨text, text⟩
  else write? text

/-! ## Direction -/

def directions (l : Label) : List Text.Direction := l.text.map Text.Direction.ofChar

/-- Do the labels of a domain keep their directions? They have to, each of them, as soon as one
of them holds a character that runs backward. -/
def areSettled (labels : List Label) : Bool :=
  !(labels.any fun l => l.directions.any Text.Direction.isBackward) ||
    labels.all fun l => Text.Direction.isSettled l.directions

end Label

end PresenceClient.Link
