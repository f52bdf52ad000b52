/-! Octet strings, and texts written as UTF-8. -/
namespace MessageBus

/-- The contents of a message, a snapshot or a stored text. -/
abbrev Bytes := List UInt8

namespace Text

def toBytes (s : String) : Bytes :=
  s.toUTF8.data.toList

/-- The text whose UTF-8 form the octets are, when there is one. -/
def ofBytes? (b : Bytes) : Option String :=
  String.fromUTF8? ⟨b.toArray⟩

theorem ofBytes?_toBytes (s : String) : ofBytes? (toBytes s) = some s := by
  have h : (⟨s.toUTF8.data.toList.toArray⟩ : ByteArray) = s.toUTF8 := by simp
  rw [ofBytes?, toBytes, h]
  simp [String.fromUTF8?, String.fromUTF8]
  exact s.isValidUTF8

/-- The character at the front of the octets, and the octets after it. -/
def nextChar? (b : Bytes) : Option (Char × Bytes) :=
  (ByteArray.utf8DecodeChar? (b.take 4).toByteArray 0).map fun c => (c, b.drop c.utf8Size)

theorem nextChar?_utf8EncodeChar_append (c : Char) (rest : Bytes) :
    nextChar? (String.utf8EncodeChar c ++ rest) = some (c, rest) := by
  have size : (String.utf8EncodeChar c).length = c.utf8Size := String.length_utf8EncodeChar c
  have front : (String.utf8EncodeChar c ++ rest).take 4 =
      String.utf8EncodeChar c ++ rest.take (4 - c.utf8Size) := by
    rw [List.take_append, size, List.take_of_length_le (by rw [size]; exact c.utf8Size_le_four)]
  have rest_eq : (String.utf8EncodeChar c ++ rest).drop c.utf8Size = rest := by
    rw [← size]; exact List.drop_left
  rw [nextChar?, front, List.toByteArray_append,
    ByteArray.utf8DecodeChar?_utf8EncodeChar_append, Option.map_some, rest_eq]

end Text
end MessageBus
