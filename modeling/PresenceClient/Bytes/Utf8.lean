-- Text as bytes. What was written reads back; bytes that are no text are refused.

namespace PresenceClient.Bytes

/-- The bytes of a text. -/
def ofText (s : String) : List UInt8 := s.toByteArray.data.toList

/-- The text of some bytes. -/
def toText? (bytes : List UInt8) : Option String := String.fromUTF8? ⟨bytes.toArray⟩

theorem toText?_ofText (s : String) : toText? (ofText s) = some s := by
  unfold toText? ofText String.fromUTF8?
  simp [s.isValidUTF8, String.fromUTF8]

end PresenceClient.Bytes
