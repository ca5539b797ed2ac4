import RequestLine.Text.Numeral
import RequestLine.Text.Pieces

/-!
# IPv6 addresses

An address of eight pieces of 16 bits. It is read from hexadecimal pieces between colons; one run of
zeros may be left out between two colons, and the last two pieces may be written as four decimal
numbers between dots. It is written with its first longest run of zeros left out, if that run is
longer than one piece.
-/

namespace RequestLine.Url

/-- An IPv6 address. -/
structure Ipv6 where
  pieces : List UInt16
  size_eq : pieces.length = 8
  deriving DecidableEq, Repr

namespace Ipv6

/-! ## Reading -/

/-- A piece of one to four hexadecimal digits. -/
def piece? (text : List Char) : Option UInt16 :=
  if text.isEmpty || 4 < text.length then none
  else (Text.numeral? 16 text).map UInt16.ofNat

/-- A decimal byte without needless zeros. -/
def byte? (text : List Char) : Option Nat :=
  match text with
  | [] => none
  | '0' :: _ :: _ => none
  | digits => (Text.numeral? 10 digits).filter (· < 256)

/-- Two pieces written as four decimal bytes. -/
def dotted? (text : List Char) : Option (List UInt16) := do
  let [a, b, c, d] ← (Text.pieces (· == '.') text).mapM byte? | none
  return [UInt16.ofNat (256 * a + b), UInt16.ofNat (256 * c + d)]

/-- The pieces of a text between colons; at the end of the address the last may be two. -/
def group? (atEnd : Bool) (text : List Char) : Option (List UInt16) :=
  let texts := Text.pieces (· == ':') text
  match texts.getLast? with
  | some last =>
    if atEnd && last.contains '.' then do
      return (← texts.dropLast.mapM piece?) ++ (← dotted? last)
    else texts.mapM piece?
  | none => none

/-- The same of a text that may be empty. -/
def side? (atEnd : Bool) (text : List Char) : Option (List UInt16) :=
  if text.isEmpty then some [] else group? atEnd text

/-- What is before and after the first two colons in a row. -/
def cut? : List Char → Option (List Char × List Char)
  | ':' :: ':' :: rest => some ([], rest)
  | c :: rest => (cut? rest).map fun (before, after) => (c :: before, after)
  | [] => none

/-- The address of eight pieces. -/
def ofPieces? (pieces : List UInt16) : Option Ipv6 :=
  if h : pieces.length = 8 then some ⟨pieces, h⟩ else none

/-- Reads an address. -/
def parse? (text : List Char) : Option Ipv6 :=
  match cut? text with
  | none => (group? true text).bind ofPieces?
  | some (before, after) => do
    let before ← side? false before
    let after ← side? true after
    let given := before.length + after.length
    if 7 < given then none
    ofPieces? (before ++ List.replicate (8 - given) 0 ++ after)

/-! ## Writing -/

/-- The length of the run of zeros at the start of some pieces. -/
def zeros (pieces : List UInt16) : Nat :=
  (pieces.takeWhile (· == 0)).length

/-- The place and the length of the first longest run of zeros, for the pieces from a place on. -/
def longestRun : (place : Nat) → List UInt16 → Nat × Nat
  | place, [] => (place, 0)
  | place, piece :: rest =>
    let here := zeros (piece :: rest)
    let later := longestRun (place + 1) rest
    if later.2 ≤ here then (place, here) else later

/-- Pieces with colons between them. -/
def groupText (pieces : List UInt16) : List Char :=
  List.intercalate [':'] (pieces.map fun piece => Nat.toDigits 16 piece.toNat)

/-- The text of an address. -/
def render (address : Ipv6) : List Char :=
  let (place, count) := longestRun 0 address.pieces
  if count < 2 then groupText address.pieces
  else groupText (address.pieces.take place) ++ [':', ':'] ++
    groupText (address.pieces.drop (place + count))

end Ipv6

end RequestLine.Url
