import RequestLine.Text.Numeral
import RequestLine.Text.Utf8

/-!
# Percent-encoding

Characters that an address cannot hold as they are stand in it as the bytes of their UTF-8 form,
each as `%` and two hexadecimal digits. Which characters these are depends on the part of the
address.
-/

namespace RequestLine.Url

/-- A hexadecimal digit, in upper case. -/
def upperHex (n : Nat) : Char :=
  Char.ofNat (if n < 10 then 48 + n else 55 + n)

/-- A byte as `%` and two digits. -/
def escapedByte (b : UInt8) : List Char :=
  ['%', upperHex (b.toNat / 16), upperHex (b.toNat % 16)]

/-- Escapes the characters of a class and leaves all others. -/
def escape (inClass : Char → Bool) (text : List Char) : List Char :=
  text.flatMap fun c => if inClass c then (Text.utf8 [c]).flatMap escapedByte else [c]

/-- The bytes that a text with escapes stands for. A `%` without two digits stands for itself. -/
def unescape : List Char → List UInt8
  | [] => []
  | '%' :: high :: low :: rest =>
    match Text.hexDigit? high, Text.hexDigit? low with
    | some h, some l => UInt8.ofNat (16 * h + l) :: unescape rest
    | _, _ => Text.utf8 ['%'] ++ unescape (high :: low :: rest)
  | c :: rest => Text.utf8 [c] ++ unescape rest

/-! ## What is escaped where -/

/-- Control characters and all that is not ASCII: escaped everywhere. -/
def isControl (c : Char) : Bool :=
  c.toNat < 0x20 || 0x7F ≤ c.toNat

/-- What is escaped in a fragment. -/
def inFragment (c : Char) : Bool :=
  isControl c || [' ', '"', '<', '>', '\x60'].contains c

/-- What is escaped in a path. -/
def inPath (c : Char) : Bool :=
  inFragment c || ['#', '?', '\x7b', '\x7d'].contains c

/-- What is escaped in a user name or a password. -/
def inCredentials (c : Char) : Bool :=
  inPath c || ['/', ':', ';', '=', '@', '[', '\\', ']', '^', '|'].contains c

/-- What is escaped in a query. -/
def inQuery (c : Char) : Bool :=
  isControl c || [' ', '"', '#', '<', '>'].contains c

/-- What is escaped in the query of an address that names a place in the network or a file. -/
def inPlaceQuery (c : Char) : Bool :=
  inQuery c || c == '\''

end RequestLine.Url
