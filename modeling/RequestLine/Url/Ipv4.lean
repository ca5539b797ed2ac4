import RequestLine.Text.Numeral
import RequestLine.Text.Pieces

/-!
# IPv4 addresses

An address of 32 bits. It is read from up to four numbers between dots, in decimal, octal or
hexadecimal digits, the last of which fills all bytes that the others leave; it is written as four
decimal numbers.
-/

namespace RequestLine.Url

/-- An IPv4 address. -/
structure Ipv4 where
  bits : UInt32
  deriving DecidableEq, Repr

namespace Ipv4

/-- A number of an address: hexadecimal after `0x`, octal after another zero, else decimal. -/
def number? (text : List Char) : Option Nat :=
  match text with
  | [] => none
  | '0' :: 'x' :: digits | '0' :: 'X' :: digits => Text.numeral? 16 digits
  | '0' :: d :: digits => Text.numeral? 8 (d :: digits)
  | digits => Text.numeral? 10 digits

/-- The parts of a name, without an empty one at its end. -/
def parts (name : List Char) : List (List Char) :=
  let parts := Text.pieces (· == '.') name
  if parts.getLast? = some [] then parts.dropLast else parts

/-- Whether a name has to be an address: its last part is a number, or made of decimal digits. -/
def isMeant (name : List Char) : Bool :=
  match (parts name).getLast? with
  | some part => (!part.isEmpty && part.all Char.isDigit) || (number? part).isSome
  | none => false

/-- The address of numbers, with as many bytes left to the last as the others do not take. -/
def ofNumbers? : (left : Nat) → (sum : Nat) → List Nat → Option Ipv4
  | _, _, [] => none
  | left, sum, [last] =>
    if last < Nat.pow 256 left then some ⟨UInt32.ofNat (sum * Nat.pow 256 left + last)⟩ else none
  | 0, _, _ => none
  | left + 1, sum, byte :: rest =>
    if byte < 256 then ofNumbers? left (sum * 256 + byte) rest else none

/-- Reads an address. -/
def parse? (name : List Char) : Option Ipv4 := do
  let numbers ← (parts name).mapM number?
  if 4 < numbers.length then none
  ofNumbers? 4 0 numbers

/-- The four bytes of an address, the highest first. -/
def bytes (address : Ipv4) : List Nat :=
  let n := address.bits.toNat
  [n / 0x1000000, n / 0x10000 % 256, n / 0x100 % 256, n % 256]

/-- The text of an address. -/
def render (address : Ipv4) : List Char :=
  List.intercalate ['.'] (address.bytes.map Text.decimal)

end Ipv4

end RequestLine.Url
