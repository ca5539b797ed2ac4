/-!
# UTF-8

Texts as bytes.
-/

namespace RequestLine.Text

/-- The bytes of a text in UTF-8. -/
def utf8 (text : List Char) : List UInt8 :=
  text.flatMap String.utf8EncodeChar

/-- The text with the given UTF-8 form. -/
def ofUtf8? (bytes : List UInt8) : Option String :=
  String.fromUTF8? ⟨bytes.toArray⟩

/-- The text of at most `steps` characters from a place on, up to the first byte that begins none. -/
def leadingFrom (bytes : ByteArray) : (steps place : Nat) → List Char
  | 0, _ => []
  | steps + 1, place =>
    match bytes.utf8DecodeChar? place with
    | some c => c :: leadingFrom bytes steps (place + c.utf8Size)
    | none => []

/-- The text at the start of bytes, up to the first byte that begins no character. -/
def leadingText (bytes : List UInt8) : List Char :=
  leadingFrom ⟨bytes.toArray⟩ bytes.length 0

end RequestLine.Text
