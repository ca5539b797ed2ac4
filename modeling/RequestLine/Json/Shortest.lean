import RequestLine.Json.Binary64

/-!
# Shortest digits

The text of a double has the fewest digits that read back as the same double, and of those the
digits nearest to it. The reals that round to a double form an interval, so a number of digits is
enough if a point of that decimal grid lies in it; only the two neighbours of the double on the
grid need a look.
-/

namespace RequestLine.Json

/-- Decimal digits with the place of the first: `d.ddd * 10 ^ exponent`. -/
structure DecimalDigits where
  digits : List Char
  exponent : Int
  deriving DecidableEq, Repr

namespace Binary64

/-- The greatest `e` with `10 ^ e ≤ num / den`. -/
def decimalExponent (num den : Nat) : Int :=
  let guess := (((num.log2 : Int) - den.log2) * 30103) / 100000
  let below (e : Int) : Bool := let (n, d) := scaled 10 num den (-e); n < d
  if below guess then guess - 1
  else if below (guess + 1) then guess
  else guess + 1

/-- The interval of reals that round to a double, in units of a quarter of its last place: its ends
and whether they belong to it. Below a power of two the next double is half as far away. -/
def neighbourhood (d : Binary64) : Nat × Nat × Bool :=
  let low := if d.significand = 0x10000000000000 ∧ -1074 < d.exponent then 1 else 2
  (4 * d.significand - low, 4 * d.significand + 2, d.significand % 2 = 0)

/-- The digits of `count` places that read back as a double, if there are any. -/
def digitsOf? (d : Binary64) (top : Int) (count : Nat) : Option Nat :=
  let place := top - (count - 1)
  let (low, high, closed) := d.neighbourhood
  -- all three in units of `10 ^ place`, over a common denominator
  let units (quarters : Nat) : Nat × Nat :=
    let (n, m) := scaled 2 quarters 4 d.exponent
    scaled 10 n m (-place)
  let (value, den) := units (4 * d.significand)
  let (lowN, _) := units low
  let (highN, _) := units high
  let inside (k : Nat) : Bool :=
    if closed then lowN ≤ k * den && k * den ≤ highN else lowN < k * den && k * den < highN
  let below := value / den
  let above := below + 1
  match inside below, inside above with
  | false, false => none
  | true, false => some below
  | false, true => some above
  | true, true => some (roundDiv value den)

/-- The first number of digits, from `count` on, that is enough. -/
def shortestFrom (d : Binary64) (top : Int) (count : Nat) : Nat → DecimalDigits
  | 0 => ⟨[], top⟩
  | tries + 1 =>
    match d.digitsOf? top count with
    | some k =>
      let digits := Nat.toDigits 10 k
      ⟨digits, top + ((digits.length : Int) - count)⟩
    | none => shortestFrom d top (count + 1) tries

/-- The shortest digits that read back as a double other than zero: never more than 17. -/
def shortest (d : Binary64) : DecimalDigits :=
  let (n, m) := scaled 2 d.significand 1 d.exponent
  let found := d.shortestFrom (decimalExponent n m) 1 17
  { found with digits := withoutZeros found.digits }
where
  withoutZeros (digits : List Char) : List Char :=
    (digits.reverse.dropWhile (· == '0')).reverse

end Binary64

end RequestLine.Json
