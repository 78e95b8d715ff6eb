/-!
# UTF-8 — characters to bytes and back

Frames are bytes, fields are text.  `encode` writes a string, `next?` reads one character off the
front of a byte list, and `next?_encodeChar` says that reading undoes writing whatever follows.
-/

namespace CallSignaling

/-- A frame, or what is left of it. -/
abbrev Bytes := List UInt8

namespace Utf8

/-- The bytes of one character. -/
abbrev encodeChar (c : Char) : Bytes := String.utf8EncodeChar c

/-- The bytes of a text. -/
def encode (s : String) : Bytes := s.toList.flatMap encodeChar

/-- The character at the front and what follows it; `none` if no well-formed sequence starts
there. -/
def next? (bs : Bytes) : Option (Char × Bytes) :=
  ((bs.take 4).toByteArray.utf8DecodeChar? 0).map fun c => (c, bs.drop c.utf8Size)

theorem next?_encodeChar (c : Char) (rest : Bytes) :
    next? (encodeChar c ++ rest) = some (c, rest) := by
  have hlen : (String.utf8EncodeChar c).length = c.utf8Size := String.length_utf8EncodeChar c
  have hle : c.utf8Size ≤ 4 := c.utf8Size_le_four
  have htake : (String.utf8EncodeChar c ++ rest).take 4 =
      String.utf8EncodeChar c ++ rest.take (4 - c.utf8Size) := by
    rw [List.take_append, hlen, List.take_of_length_le (by omega)]
  simp only [next?, encodeChar, htake, List.toByteArray_append,
    ByteArray.utf8DecodeChar?_utf8EncodeChar_append, Option.map_some]
  rw [← hlen, List.drop_left]

/-- The number of bytes of a text. -/
def size (s : String) : Nat := s.utf8ByteSize

end Utf8

end CallSignaling
