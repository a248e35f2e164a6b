-- Payloads read from JSON text. Each reader takes a text from its front and gives a
-- result with the rest. The whole text must be one value; at most `limit`
-- containers may lie inside one another; of two fields with one name the later stays.
import PresenceClient.Payload
import PresenceClient.Number.Hexadecimal
import PresenceClient.Number.Signed

namespace PresenceClient.Payload

open Number (Binary64 hexValue? isDigit ofDigits tenTo twoTo)

def isBlank (c : Char) : Bool := c == ' ' || c == '\t' || c == '\n' || c == '\r'

def skipBlanks (cs : List Char) : List Char := cs.dropWhile isBlank

/-! ## Text -/

/-- Four hexadecimal digits. -/
def readUnit : List Char → Option (Nat × List Char)
  | a :: b :: c :: d :: rest => do
    let a ← hexValue? a
    let b ← hexValue? b
    let c ← hexValue? c
    let d ← hexValue? d
    some (((a * 16 + b) * 16 + c) * 16 + d, rest)
  | _ => none

/-- A character given by one unit, or by a high and a low one. A unit of a pair that
stands alone is refused. -/
def readEscapedUnit (cs : List Char) : Option (Char × List Char) := do
  let (high, rest) ← readUnit cs
  if 0xD800 ≤ high ∧ high < 0xDC00 then
    match rest with
    | '\\' :: 'u' :: rest =>
      let (low, rest) ← readUnit rest
      if 0xDC00 ≤ low ∧ low < 0xE000 then
        some (Char.ofNat (0x10000 + (high - 0xD800) * 0x400 + (low - 0xDC00)), rest)
      else none
    | _ => none
  else if 0xDC00 ≤ high ∧ high < 0xE000 then none
  else some (Char.ofNat high, rest)

/-- What follows a backslash. -/
def readEscape : List Char → Option (Char × List Char)
  | '"' :: rest => some ('"', rest)
  | '\\' :: rest => some ('\\', rest)
  | '/' :: rest => some ('/', rest)
  | 'b' :: rest => some (Char.ofNat 8, rest)
  | 'f' :: rest => some (Char.ofNat 12, rest)
  | 'n' :: rest => some ('\n', rest)
  | 'r' :: rest => some ('\r', rest)
  | 't' :: rest => some ('\t', rest)
  | 'u' :: rest => readEscapedUnit rest
  | _ => none

/-- Characters up to the closing quote. `steps` bounds their number. -/
def readChars : (steps : Nat) → List Char → Option (List Char × List Char)
  | 0, _ => none
  | _ + 1, [] => none
  | _ + 1, '"' :: rest => some ([], rest)
  | steps + 1, '\\' :: rest => do
    let (c, rest) ← readEscape rest
    let (cs, rest) ← readChars steps rest
    some (c :: cs, rest)
  | steps + 1, c :: rest =>
    if c.toNat < 0x20 then none
    else do
      let (cs, rest) ← readChars steps rest
      some (c :: cs, rest)

/-- The text that an opening quote has begun. -/
def readText (cs : List Char) : Option (String × List Char) := do
  let (chars, rest) ← readChars (cs.length + 1) cs
  some (String.ofList chars, rest)

/-! ## Numbers

A number keeps as many leading digits as fit into 64 bits. Digits beyond those only move
the point. A number with a point or an exponent, or a whole one that does not fit, is the
double nearest to the digits, times or divided by the double of the power of ten. -/

def digitValue (c : Char) : Nat := c.toNat - '0'.toNat

/-- Digits taken in front, and how many of them found no room below `2 ^ 64`. Once one
has found none, none after it does. -/
def gather : (digits : List Char) → (value : Nat) → Nat × Nat
  | [], value => (value, 0)
  | c :: rest, value =>
    let next := value * 10 + digitValue c
    if next < twoTo 64 then gather rest next else (value, rest.length + 1)

/-- The power of ten as a double, up to the greatest there is. -/
def powerOfTen (n : Nat) : Binary64 := Binary64.ofNat (tenTo n)

/-- Divide by `10 ^ n`, in steps of at most `10 ^ 308`. -/
def shrink (x : Binary64) (n : Nat) : Binary64 :=
  if x.isZero then x
  else if n ≤ 308 then x.div (powerOfTen n)
  else shrink (x.div (powerOfTen 308)) (n - 308)
termination_by n
decreasing_by omega

/-- The double of `digits * 10 ^ exponent`; none if it is too large. -/
def scale (digits : Nat) (exponent : Int) : Option Binary64 :=
  let x := Binary64.ofNat digits
  if exponent < 0 then some (shrink x exponent.natAbs)
  else if x.isZero then some x
  else if 308 < exponent then none
  else
    let y := x.mul (powerOfTen exponent.toNat)
    if y.isFinite then some y else none

/-- Digits in front, at least one. -/
def readDigits (cs : List Char) : Option (List Char × List Char) :=
  let digits := cs.takeWhile isDigit
  if digits.isEmpty then none else some (digits, cs.dropWhile isDigit)

/-- The exponent, if one follows. -/
def readExponent : List Char → Option (Option Int × List Char)
  | c :: rest =>
    if c = 'e' ∨ c = 'E' then
      let (negative, rest) := match rest with
        | '+' :: rest => (false, rest)
        | '-' :: rest => (true, rest)
        | rest => (false, rest)
      do
        let (digits, rest) ← readDigits rest
        let size : Nat := ofDigits digits
        some (some (if negative then -(size : Int) else size), rest)
    else some (none, c :: rest)
  | [] => some (none, [])

/-- The digits after a point, if there is one. -/
def readFraction : List Char → Option (Option (List Char) × List Char)
  | '.' :: rest => do
    let (digits, rest) ← readDigits rest
    some (some digits, rest)
  | rest => some (none, rest)

/-- The whole digits: a zero alone, or digits that do not begin with one. -/
def readWhole : List Char → Option (List Char × List Char)
  | '0' :: rest => if (rest.takeWhile isDigit).isEmpty then some (['0'], rest) else none
  | cs => readDigits cs

/-- The value that the parts of a number stand for. -/
def numberOf (negative : Bool) (whole : List Char) (fraction : Option (List Char))
    (exponent : Option Int) : Option Payload :=
  let (value, dropped) := gather whole 0
  match fraction, exponent, dropped with
  | none, none, 0 =>
    if !negative then some (.int value)
    else if 0 < value ∧ value ≤ twoTo 63 then some (.int (-(value : Int)))
    else some (.float (Binary64.ofNat value).negate)
  | _, _, _ =>
    let places := fraction.getD []
    let (value, unread) := gather places value
    let kept := places.length - unread
    (scale value ((dropped : Int) - (kept : Int) + exponent.getD 0)).map fun x =>
      .float (if negative then x.negate else x)

def readNumber (cs : List Char) : Option (Payload × List Char) := do
  let (negative, cs) := match cs with
    | '-' :: rest => (true, rest)
    | cs => (false, cs)
  let (whole, cs) ← readWhole cs
  let (fraction, cs) ← readFraction cs
  let (exponent, cs) ← readExponent cs
  let value ← numberOf negative whole fraction exponent
  some (value, cs)

/-! ## Values -/

/-- Items after an opening bracket and a first look at what follows. -/
def readItems (value : List Char → Option (Payload × List Char)) :
    (steps : Nat) → List Char → Option (List Payload × List Char)
  | 0, _ => none
  | steps + 1, cs => do
    let (p, rest) ← value (skipBlanks cs)
    match skipBlanks rest with
    | ',' :: rest =>
      let (ps, rest) ← readItems value steps rest
      some (p :: ps, rest)
    | ']' :: rest => some ([p], rest)
    | _ => none

def readFields (value : List Char → Option (Payload × List Char)) :
    (steps : Nat) → List Char → Option (List (String × Payload) × List Char)
  | 0, _ => none
  | steps + 1, cs =>
    match skipBlanks cs with
    | '"' :: rest => do
      let (name, rest) ← readText rest
      match skipBlanks rest with
      | ':' :: rest =>
        let (p, rest) ← value (skipBlanks rest)
        match skipBlanks rest with
        | ',' :: rest =>
          let (ps, rest) ← readFields value steps rest
          some ((name, p) :: ps, rest)
        | '}' :: rest => some ([(name, p)], rest)
        | _ => none
      | _ => none
    | _ => none

/-- A value that begins at once. A container needs room for one more. -/
def read : (room : Nat) → List Char → Option (Payload × List Char)
  | _, 'n' :: 'u' :: 'l' :: 'l' :: rest => some (.null, rest)
  | _, 't' :: 'r' :: 'u' :: 'e' :: rest => some (.bool true, rest)
  | _, 'f' :: 'a' :: 'l' :: 's' :: 'e' :: rest => some (.bool false, rest)
  | _, '"' :: rest => do
    let (s, rest) ← readText rest
    some (.text s, rest)
  | room + 1, '[' :: rest =>
    match skipBlanks rest with
    | ']' :: rest => some (.list [], rest)
    | _ => do
      let (ps, rest) ← readItems (read room) (rest.length + 1) rest
      some (.list ps, rest)
  | room + 1, '{' :: rest =>
    match skipBlanks rest with
    | '}' :: rest => some (.record [], rest)
    | _ => do
      let (ps, rest) ← readFields (read room) (rest.length + 1) rest
      some (ofFields ps, rest)
  | _, cs => readNumber cs

/-- Read a whole text with at most `limit` containers inside one another. -/
def parseWithin (limit : Nat) (s : String) : Option Payload := do
  let (p, rest) ← read limit (skipBlanks s.toList)
  if (skipBlanks rest).isEmpty then some p else none

/-- As many containers as a payload in text may have inside one another. -/
def depthLimit : Nat := 127

/-- Read a whole text. -/
def parse (s : String) : Option Payload := parseWithin depthLimit s

end PresenceClient.Payload
