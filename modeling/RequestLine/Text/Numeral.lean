/-!
# Numerals

Numbers as digits to a base, most significant first.
-/

namespace RequestLine.Text

/-- The value of a hexadecimal digit, of either case. -/
def hexDigit? (c : Char) : Option Nat :=
  if '0' ≤ c ∧ c ≤ '9' then some (c.toNat - 48)
  else if 'a' ≤ c ∧ c ≤ 'f' then some (c.toNat - 87)
  else if 'A' ≤ c ∧ c ≤ 'F' then some (c.toNat - 55)
  else none

/-- The value of a digit to a base of at most 16. -/
def digit? (base : Nat) (c : Char) : Option Nat :=
  (hexDigit? c).filter (· < base)

/-- The number that digits write; none if there are other characters. No digits write zero. -/
def numeral? (base : Nat) (digits : List Char) : Option Nat :=
  digits.foldlM (fun n c => (digit? base c).map (base * n + ·)) 0

/-- The number that a sequence of at least one digit writes, after a plus sign or without one. -/
def signedNumeral? (text : List Char) : Option Nat :=
  let digits := match text with
    | '+' :: rest => rest
    | _ => text
  if digits.isEmpty then none else numeral? 10 digits

/-- The number that an integer of at least one digit writes, which must not be below zero: behind a
minus sign there are only zeros. -/
def integerNumeral? (text : List Char) : Option Nat :=
  match text with
  | '-' :: digits => if digits.isEmpty then none else (numeral? 10 digits).filter (· = 0)
  | _ => signedNumeral? text

/-- A number in decimal digits. -/
def decimal (n : Nat) : List Char :=
  Nat.toDigits 10 n

end RequestLine.Text
