-- Directions: which way a character is written, and which texts keep one direction.
import PresenceClient.Text.Mark

namespace PresenceClient.Text

open Listing (Span spans)

inductive Direction where
  | rightward
  | leftward
  /-- Digits, which run rightward in either kind of text. -/
  | digit
  /-- Digits of the Arabic kind, which stand in leftward text only. -/
  | arabicDigit
  /-- The direction is that of the character before. -/
  | mark
  /-- The direction is that of the text around. -/
  | neutral
deriving DecidableEq, Repr

namespace Direction

/-! ## Tables, beyond ASCII -/

def leftwardSpans : List Span := spans [
  "5be-5f4 608 60b 60d 61b-64a 66d-6d5 6e5-6e6 6ee-6ef 6fa-7f5 7fa-8c9 fbb2-fbc2 fe73",
  "10800-1091b 10920-10b35 10b40-10d23 10d4a-10d4f 10d6f-10d8f 10e80-10ec7 10f00-10ff6",
  "1e800-1ed3d"]

def digitSpans : List Span := spans [
  "6f0-6f9 102e1-102fb"]

def arabicDigitSpans : List Span := spans [
  "660-669 66b-66c 10d30-10d49 10e60-10e7e"]

def neutralSpans : List Span := spans [
  "a1-d7 f7 2b9-2ba 2c2-2cf 2d2-2ed 2ef-2ff 375 3f6 58a-58f 606-607 609-60a 60c 60e-60f 66a 6de",
  "6e9 7f6-7f9 9f2-9f3 9fb af1 bf3-bfa c78-c7e e3f f3a-f3d 1390-1399 1400 169b-169c 17db",
  "17f0-180a 1940-1945 19de-19ff 200c-214d 218a-2335 237b-2394 2396-26ab 26ad-27ff 2900-2bff",
  "2ce5-2cea 2cf9-2cff 2e00-3004 3008-3020 3030 3037 303d-303f 30a0 30fb 31c0-31e5 4dc0-4dff",
  "a490-a4c6 a60d-a60f a673-a67f a700-a721 a788 a828-a82b a838-a839 a874-a877 ab6a-ab6b",
  "fbc3-fe46 10101 10140-1018c 10190-101a0 1091f 10b39-10b3f 10d6e 10ed0-10ed8 11052-11065",
  "11660-1166c 11fd5-11ff1 16fe2 1cc00-1cef0 1d1e9-1d245 1d300-1d356 1e2ff 1eef0-1f12f",
  "1f16d-1f16f 1f1ad 1f260-1fbfa"]

/-- Marks without a width that have a direction all the same. -/
def rightwardMarks : List Span := spans [
  "cbf cc6 11a07 11a08 11c3f"]

/-! ## Characters -/

/-- The direction of a character that may stand in a name. -/
def ofChar (c : Char) : Direction :=
  if c.toNat < 0x80 then
    if c.isAlpha then .rightward else if c.isDigit then .digit else .neutral
  else if isNonspacingMark c && !Listing.holds rightwardMarks c then .mark
  else if Listing.holds leftwardSpans c then .leftward
  else if Listing.holds digitSpans c then .digit
  else if Listing.holds arabicDigitSpans c then .arabicDigit
  else if Listing.holds neutralSpans c then .neutral
  else .rightward

/-- Does a character of this direction make the names around it subject to the rule? -/
def isBackward : Direction → Bool
  | leftward | arabicDigit => true
  | _ => false

/-! ## The rule for a name -/

/-- The last of the directions, marks left out. -/
def last? (ds : List Direction) : Option Direction := (ds.reverse.dropWhile (· == mark)).head?

/-- May a name have these directions? Its first character is written one way, no other is
written the opposite way, and the last is a letter or a digit; digits of both kinds do not
mix. -/
def isSettled : List Direction → Bool
  | [] => true
  | ds@(rightward :: _) =>
    !ds.any isBackward && (last? ds == some rightward || last? ds == some digit)
  | ds@(leftward :: _) =>
    !ds.contains rightward && !(ds.contains digit && ds.contains arabicDigit) &&
      last? ds != some neutral
  | _ => false

end Direction

end PresenceClient.Text
