-- Text in double quotes for a reader: the quote and the backslash are escaped, and a
-- character that would not show is written as its number.
import PresenceClient.Text.Unprinted

namespace PresenceClient.Text

/-- A character by its number: a backslash, `u`, and the hexadecimal digits in braces. -/
def byNumber (c : Char) : List Char :=
  '\\' :: 'u' :: '{' :: (Nat.toDigits 16 c.toNat ++ ['}'])

def quoteChar (c : Char) : List Char :=
  if c.toNat = 0 then ['\\', '0']
  else if c = '\t' then ['\\', 't']
  else if c = '\r' then ['\\', 'r']
  else if c = '\n' then ['\\', 'n']
  else if c = '\\' then ['\\', '\\']
  else if c = '"' then ['\\', '"']
  else if isUnprinted c then byNumber c
  else [c]

/-- The text in quotes. -/
def quoted (s : String) : List Char := '"' :: (s.toList.flatMap quoteChar ++ ['"'])

end PresenceClient.Text
