/-!
# Doubles

The finite doubles, as a significand and a power of two, and the rounding of an exact quotient to
the nearest of them. All arithmetic is on natural numbers, so nothing is lost before the one
rounding that each operation makes.
-/

namespace RequestLine.Json

/-- A finite double, `significand * 2 ^ exponent`, with its sign. The significand is below `2 ^ 53`,
the exponent from -1074 to 971, and the significand is as large as these bounds allow. -/
structure Binary64 where
  negative : Bool
  significand : Nat
  exponent : Int
  deriving DecidableEq, Repr

namespace Binary64

/-- Zero of either sign. -/
def zero (negative : Bool) : Binary64 :=
  ⟨negative, 0, -1074⟩

/-- Whether a double is zero, of either sign. -/
def isZero (d : Binary64) : Bool :=
  d.significand == 0

/-- The quotient rounded to the nearest natural number, a tie to the even one. -/
def roundDiv (num den : Nat) : Nat :=
  let q := num / den
  let twice := 2 * (num % den)
  if twice < den then q
  else if den < twice then q + 1
  else q + q % 2

/-- The quotient `num / den * base ^ e`, written as a quotient of natural numbers. -/
def scaled (base num den : Nat) (e : Int) : Nat × Nat :=
  match e with
  | .ofNat k => (num * Nat.pow base k, den)
  | .negSucc k => (num, den * Nat.pow base (k + 1))

/-- The double nearest to `num / den`, a tie to the even significand; none above the largest
double. -/
def ofRatio? (num den : Nat) : Option Binary64 :=
  if num = 0 then some (zero false)
  else
    let guess : Int := (num.log2 : Int) - den.log2
    let (n, d) := scaled 2 num den (-guess)
    let top := if n < d then guess - 1 else guess
    let exponent := max (-1074) (top - 52)
    let (n, d) := scaled 2 num den (-exponent)
    let significand := roundDiv n d
    let (significand, exponent) :=
      if significand = 0x20000000000000 then (0x10000000000000, exponent + 1)
      else (significand, exponent)
    if 971 < exponent then none else some ⟨false, significand, exponent⟩

/-- The double nearest to a natural number. -/
def ofNat? (n : Nat) : Option Binary64 :=
  ofRatio? n 1

/-- The magnitude of a product, rounded; none if it is above the largest double. -/
def mul? (a b : Binary64) : Option Binary64 :=
  let (n, d) := scaled 2 (a.significand * b.significand) 1 (a.exponent + b.exponent)
  ofRatio? n d

/-- The magnitude of a quotient, rounded; none if it is above the largest double. -/
def div? (a b : Binary64) : Option Binary64 :=
  let (n, d) := scaled 2 a.significand b.significand (a.exponent - b.exponent)
  ofRatio? n d

end Binary64

end RequestLine.Json
