-- Queries of addresses: pairs of names and values, as a form is written. Nothing in a name
-- or a value can be taken for one of the marks between them.
import PresenceClient.Bytes.Utf8
import PresenceClient.Link.Percent
import PresenceClient.Text.Parts

namespace PresenceClient.Link.Query

abbrev Pair := String × String

/-! ## Writing -/

/-- Letters, digits and four more stand for themselves. -/
def keeps (c : Char) : Bool :=
  c.isAlphanum || c == '*' || c == '-' || c == '.' || c == '_'

/-- A blank is written as `+`. -/
def encodeChar (c : Char) : List Char := if c = ' ' then ['+'] else Percent.encodeChar keeps c

def encode (s : String) : List Char := s.toList.flatMap encodeChar

def encodePair (p : Pair) : List Char := encode p.1 ++ '=' :: encode p.2

/-- The pairs with a mark between each two. -/
def render : List Pair → List Char
  | [] => []
  | [p] => encodePair p
  | p :: rest => encodePair p ++ '&' :: render rest

/-- A query with more pairs at its end. -/
def append (query : List Char) (pairs : List Pair) : List Char :=
  if query.isEmpty then render pairs
  else if pairs.isEmpty then query
  else query ++ '&' :: render pairs

/-! ## Reading -/

/-- The text that a name or value writes; none if its bytes are no text. -/
def decode? (cs : List Char) : Option String :=
  Bytes.toText? (Percent.decode (cs.map fun c => if c = '+' then ' ' else c))

/-- A part without `=` is a name with an empty value. -/
def readPair? (cs : List Char) : Option Pair :=
  match Text.cutAt '=' cs with
  | some (name, value) => do
    let name ← decode? name
    let value ← decode? value
    some (name, value)
  | none => (decode? cs).map fun name => (name, "")

/-- The pairs of a query. Empty parts are skipped. -/
def parse? (query : List Char) : Option (List Pair) :=
  ((Text.partsOf '&' query).filter fun part => !part.isEmpty).mapM readPair?

end PresenceClient.Link.Query
