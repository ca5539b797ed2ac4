import RequestLine.Json.Shortest

/-!
# Numbers

A number is an integer of the range that is kept exactly, or a double. A literal without point and
exponent is an integer if the range holds it; every other literal is a double.

A literal is turned into a double in a way that is not always the nearest one: its digits are
collected into a significand below `2 ^ 64`, digits that no longer fit are dropped, and the
significand is multiplied or divided by one power of ten, with a rounding at each of these steps.
-/

namespace RequestLine.Json

/-- A number: an integer from `-2 ^ 63` up to but not including `2 ^ 64`, or a double. -/
inductive Number where
  | integer (value : Int) (range : -0x8000000000000000 ≤ value ∧ value < 0x10000000000000000)
  | double (value : Binary64)
  deriving DecidableEq

/-- The parts of a number literal, as lists of digits. -/
structure Literal where
  negative : Bool
  integer : List Char
  /-- The digits after the point; empty without a point. -/
  fraction : List Char
  /-- The sign of the exponent (whether it is negative) and its digits. -/
  exponent : Option (Bool × List Char)

namespace Number

/-- A 64-bit word as a number. -/
def ofUInt64 (n : UInt64) : Number :=
  .integer n.toNat (by have := n.toNat_lt; omega)

/-- Whether a number equals zero. -/
def isZero : Number → Bool
  | .integer value _ => value == 0
  | .double value => value.isZero

/-! ## Text of a number -/

/-- The digits with a point inside or zeros at an end, and a digit on each side of the point. -/
def positional (digits : List Char) (exponent : Int) : List Char :=
  match exponent with
  | .ofNat e =>
    let padded := digits ++ List.replicate (e + 1 - digits.length) '0'
    let fraction := padded.drop (e + 1)
    padded.take (e + 1) ++ ['.'] ++ (if fraction.isEmpty then ['0'] else fraction)
  | .negSucc e => ['0', '.'] ++ List.replicate e '0' ++ digits

/-- The digits with a point after the first and the exponent after an `e`, its sign always
written. -/
def scientific (digits : List Char) (exponent : Int) : List Char :=
  let mantissa := match digits with
    | [] => []
    | [d] => [d]
    | d :: rest => d :: '.' :: rest
  let sign := if exponent < 0 then '-' else '+'
  mantissa ++ ['e', sign] ++ Nat.toDigits 10 exponent.natAbs

/-- The text of a double: positional if the first digit stands from the fifth place after the point
to the sixteenth before it. -/
def doubleText (d : Binary64) : List Char :=
  let sign := if d.negative then ['-'] else []
  if d.isZero then sign ++ ['0', '.', '0']
  else
    let ⟨digits, exponent⟩ := d.shortest
    if -5 ≤ exponent ∧ exponent < 16 then sign ++ positional digits exponent
    else sign ++ scientific digits exponent

/-- The text of an integer. -/
def integerText (i : Int) : List Char :=
  if i < 0 then '-' :: Nat.toDigits 10 i.natAbs else Nat.toDigits 10 i.natAbs

/-- The text of a number. -/
def text : Number → List Char
  | .integer value _ => integerText value
  | .double value => doubleText value

end Number

namespace Literal

/-- The digits collected so far, the power of ten they are to be multiplied by, and whether a digit
has been dropped. -/
structure Collected where
  significand : Nat
  exponent : Int
  full : Bool

/-- The greatest significand. -/
def maxSignificand : Nat := 0xFFFFFFFFFFFFFFFF

/-- Takes a digit before the point: one that does not fit, and all after it, raise the exponent. -/
def Collected.addInteger (s : Collected) (c : Char) : Collected :=
  let next := 10 * s.significand + (c.toNat - 48)
  if s.full ∨ maxSignificand < next then ⟨s.significand, s.exponent + 1, true⟩
  else ⟨next, s.exponent, false⟩

/-- Takes a digit after the point: one that does not fit, and all after it, are ignored. -/
def Collected.addFraction (s : Collected) (c : Char) : Collected :=
  let next := 10 * s.significand + (c.toNat - 48)
  if s.full ∨ maxSignificand < next then ⟨s.significand, s.exponent, true⟩
  else ⟨next, s.exponent - 1, false⟩

/-- The digits before and after the point. -/
def collected (l : Literal) : Collected :=
  let whole := l.integer.foldl Collected.addInteger ⟨0, 0, false⟩
  l.fraction.foldl Collected.addFraction { whole with full := false }

/-- The power of ten as a double, for exponents up to 308. -/
def powerOfTen (e : Nat) : Binary64 :=
  (Binary64.ofNat? (Nat.pow 10 e)).getD (Binary64.zero false)

/-- The double `f * 10 ^ e`; none above the largest double. An exponent below -308 is worked off in
steps of 308; two of them take every significand to zero. -/
def scale? (f : Binary64) (e : Int) : Nat → Option Binary64
  | 0 => some (Binary64.zero false)
  | steps + 1 =>
    if e.natAbs ≤ 308 then
      if 0 ≤ e then f.mul? (powerOfTen e.natAbs) else f.div? (powerOfTen e.natAbs)
    else if f.isZero then some f
    else if 0 ≤ e then none
    else do scale? (← f.div? (powerOfTen 308)) (e + 308) steps

/-- The greatest exponent that is taken as it stands. -/
def maxExponent : Nat := 0x7FFFFFFF

/-- The magnitude of the double that a literal stands for; none above the largest double. -/
def magnitude? (l : Literal) : Option Binary64 :=
  let s := l.collected
  let convert (e : Int) : Option Binary64 := do
    scale? (← Binary64.ofNat? s.significand) e 4
  match l.exponent with
  | none => convert s.exponent
  | some (negative, digits) =>
    let e := Nat.ofDigitChars 10 digits 0
    if maxExponent < e then
      if s.significand ≠ 0 ∧ ¬negative then none else some (Binary64.zero false)
    else if negative then convert (s.exponent - e)
    else convert (s.exponent + e)

/-- The number that a literal stands for; none above the largest double. A negative zero is a
double, because no integer has that sign. -/
def number? (l : Literal) : Option Number :=
  let double : Option Number := do
    let d ← l.magnitude?
    return .double { d with negative := l.negative }
  if l.fraction.isEmpty ∧ l.exponent.isNone then
    let n := Nat.ofDigitChars 10 l.integer 0
    let value : Int := if l.negative then -n else n
    if h : -0x8000000000000000 ≤ value ∧ value < 0x10000000000000000 then
      if l.negative ∧ n = 0 then double else some (.integer value h)
    else double
  else double

end Literal

end RequestLine.Json
