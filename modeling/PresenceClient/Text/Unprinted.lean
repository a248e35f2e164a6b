-- Characters that text in quotes does not show as they are: what is unassigned, blanks,
-- controls, format characters, characters for private use and such as are not drawn at all,
-- and marks that would join the character before them.
import PresenceClient.Text.Assigned
import PresenceClient.Text.Mark

namespace PresenceClient.Text

open Listing (Span spans)

/-- What is assigned, beyond ASCII and not shown, the marks without a width apart. -/
def hidden : List Span := spans [
  "80-a0 ad 600-605 61c 6dd 70f 890-891 8e2 9be 9d7 b3e b57 bbe bd7 cc0 cc2 cc7-cd6 d3e d57 dcf",
  "ddf 115f-1160 1680 1715 1734 180e 1b35-1b3d 1b43-1b44 1baa 1bf2-1bf3 2000-200f 2028-202f",
  "205f-206f 3000 302e-302f 3164 a953 a9c0 d800-f8ff feff ffa0 fff9-fffb 110bd 110cd 111c0 11235",
  "1133e 1134d 11357 113b8 113c2-113c9 113cf 114b0 114bd 115af 116b6 11930 1193d 11f41",
  "13430-1343f 16ff0-16ff1 1bca0-1bca3 1d165-1d166 1d16d-1d17a e0001-10fffd"]

/-- A character that is not shown as it is. -/
def isUnprinted (c : Char) : Bool :=
  if c.toNat < 0x80 then decide (c.toNat < 0x20 ∨ c.toNat = 0x7f)
  else !isAssigned c || isNonspacingMark c || Listing.holds hidden c

end PresenceClient.Text
