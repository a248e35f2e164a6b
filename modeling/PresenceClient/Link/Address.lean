-- Addresses of links: where a link goes, and what it says of itself in the query.
import PresenceClient.Link
import PresenceClient.Link.Host
import PresenceClient.Link.Query

namespace PresenceClient.Link

structure Address where
  /-- Is what is sent kept secret? -/
  secure : Bool
  /-- Name and password as they are written, with their mark at the end. -/
  user : List Char
  host : Host
  /-- None for the one that such links usually have. -/
  portNumber : Option Nat
  /-- The path between its slashes, never without a part. -/
  path : List (List Char)
  query : Option (List Char)
  fragment : Option (List Char)
deriving DecidableEq, Repr

namespace Address

/-! ## What stands for itself -/

def isPlain (c : Char) : Bool := decide (0x20 < c.toNat ∧ c.toNat < 0x7f)

def keptInFragment (c : Char) : Bool := isPlain c && !"\"<>\x60".toList.contains c

def keptInPath (c : Char) : Bool := keptInFragment c && !"#?\x7b\x7d".toList.contains c

def keptInUser (c : Char) : Bool := keptInPath c && !"/:;=@[\\]^|".toList.contains c

def keptInQuery (c : Char) : Bool := isPlain c && !"\"#<>\x27".toList.contains c

/-! ## The parts of a text -/

def isSlash (c : Char) : Bool := c == '/' || c == '\\'

/-- Does the character end the part that says whom and where? -/
def endsAuthority (c : Char) : Bool := isSlash c || c == '?' || c == '#'

/-- Tabs and ends of lines do not count. -/
def isIgnored (c : Char) : Bool := c == '\t' || c == '\n' || c == '\r'

/-- What stands before the last `mark`, if there is one, and what stands after it. -/
def cutAtLast (mark : Char) (cs : List Char) : List Char × List Char :=
  match Text.cutAt mark cs.reverse with
  | some (after, before) => (before.reverse, after.reverse)
  | none => ([], cs)

/-- Name and password, written out. The mark between them stands only before a password. -/
def userOf (text : List Char) : List Char :=
  let (name, password) := (Text.cutAt ':' text).getD (text, [])
  let name := Percent.encode keptInUser name
  let password := Percent.encode keptInUser password
  if password.isEmpty then if name.isEmpty then [] else name ++ ['@']
  else name ++ ':' :: password ++ ['@']

/-- What stands before the first colon outside brackets, and what stands from there on. -/
def cutPort : (inside : Bool) → List Char → List Char × List Char
  | _, [] => ([], [])
  | inside, c :: rest =>
    if c = ':' ∧ !inside then ([], c :: rest)
    else
      let (host, behind) := cutPort (c == '[' || (inside && c != ']')) rest
      (c :: host, behind)

/-- The number that stands after its colon. -/
def readPort? (usual : Nat) : List Char → Except AddressError (Option Nat)
  | [] => .ok none
  | _ :: digits =>
    if digits.isEmpty then .ok none
    else match Number.readNat? digits with
      | none => .error .invalidPort
      | some n =>
        if n ≥ 0x10000 then .error .invalidPort
        else .ok (if n = usual then none else some n)

/-! ## Paths -/

/-- The parts between slashes of either kind. -/
def segmentsOf (cs : List Char) : List (List Char) :=
  Text.partsOf '/' (cs.map fun c => if c = '\\' then '/' else c)

/-- One dot, which may be written by its number. -/
def dotForms : List (List Char) := [['.'], "%2e".toList]

def isHere (segment : List Char) : Bool := dotForms.contains (segment.map Char.toLower)

def isUp (segment : List Char) : Bool :=
  dotForms.any fun a => dotForms.any fun b => segment.map Char.toLower == a ++ b

/-- A letter with a colon or a bar, as drives are named. There is no way up from one. -/
def isDrive : List Char → Bool
  | [letter, mark] => letter.isAlpha && (mark == ':' || mark == '|')
  | _ => false

/-- Go up, where `visited` holds the way from the last part on. -/
def goUp : (visited : List (List Char)) → List (List Char)
  | [] => []
  | last :: rest => if isDrive last then last :: rest else rest

/-- Follow the parts of a path. Where the last one is a step, an empty part takes its place. -/
def follow : (visited : List (List Char)) → List (List Char) → List (List Char)
  | visited, [] => visited.reverse
  | visited, [last] =>
    if isUp last then ([] :: goUp visited).reverse
    else if isHere last then ([] :: visited).reverse
    else (last :: visited).reverse
  | visited, part :: rest =>
    if isUp part then follow (goUp visited) rest
    else if isHere part then follow visited rest
    else follow (part :: visited) rest

def pathOf (cs : List Char) : List (List Char) :=
  let cs := match cs with
    | [] => []
    | c :: rest => if isSlash c then rest else c :: rest
  follow [] ((segmentsOf cs).map (Percent.encode keptInPath))

/-! ## Reading and writing -/

def usualPort (secure : Bool) : Nat := if secure then 443 else 80

/-- The address that a text gives, from its host on. -/
def parse? (secure : Bool) (text : List Char) : Except AddressError Address := do
  let cs := (text.filter fun c => !isIgnored c).dropWhile isSlash
  let authority := cs.takeWhile fun c => !endsAuthority c
  let rest := cs.dropWhile fun c => !endsAuthority c
  let (user, place) := cutAtLast '@' authority
  let (host, behind) := cutPort false place
  let host ← Host.parse? host
  let portNumber ← readPort? (usualPort secure) behind
  let (rest, fragment) := match Text.cutAt '#' rest with
    | some (rest, fragment) => (rest, some fragment)
    | none => (rest, none)
  let (path, query) := match Text.cutAt '?' rest with
    | some (path, query) => (path, some query)
    | none => (rest, none)
  return {
    secure := secure
    user := userOf user
    host := host
    portNumber := portNumber
    path := pathOf path
    query := query.map (Percent.encode keptInQuery)
    fragment := fragment.map (Percent.encode keptInFragment) }

def scheme (secure : Bool) : List Char := if secure then "wss".toList else "ws".toList

/-- The address up to its query. -/
def renderPlace (a : Address) : List Char :=
  scheme a.secure ++ "://".toList ++ a.user ++ a.host.render ++
    (match a.portNumber with
      | some n => ':' :: Nat.toDigits 10 n
      | none => []) ++
    a.path.flatMap fun part => '/' :: part

def render (a : Address) : List Char :=
  a.renderPlace ++
    (match a.query with
      | some query => '?' :: query
      | none => []) ++
    (match a.fragment with
      | some fragment => '#' :: fragment
      | none => [])

/-- The address with more pairs at the end of its query. -/
def addPairs (a : Address) (pairs : List Query.Pair) : Address :=
  { a with query := some (Query.append (a.query.getD []) pairs) }

end Address

/-! ## The address of a link -/

def pairIf (name : String) (value : Option String) : List Query.Pair :=
  match value with
  | some value => [(name, value)]
  | none => []

/-- Who opens the link: by a token, or else by a key. -/
def credentials (p : LinkParams) : List Query.Pair :=
  match p.token with
  | some token => [("access_token", token)]
  | none => pairIf "key" p.key

/-- What the query of a link says, in this order. -/
def pairs (p : LinkParams) : List Query.Pair :=
  credentials p ++
    [("format", "msgpack"), ("v", "5"), ("agent", "ably-presence-rs/0.1"), ("heartbeats", "true"),
      ("echo", if p.echo then "true" else "false")] ++
    pairIf "clientId" p.clientId ++ pairIf "resume" p.resume ++ p.extra.entries

/-- Where a link with these parameters goes. -/
def addressOf (p : LinkParams) : Except AddressError Address := do
  let address ← Address.parse? p.tls (p.host.toList ++ ['/'])
  return address.addPairs (pairs p)

end PresenceClient.Link
