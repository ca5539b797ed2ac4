/-!
# Punycode

A label outside ASCII written with letters, digits and hyphens: first the ASCII characters, then,
for the others in ascending order, how far away each one is from the last in a count over code
points and places. The distances are numbers of variable length to the base 36, whose digits have
thresholds that follow the sizes seen so far.
-/

namespace RequestLine.Domain.Punycode

/-- The character of a digit: letters, then decimal digits. -/
def digitChar (d : Nat) : Char :=
  if d < 26 then Char.ofNat (97 + d) else Char.ofNat (22 + d)

/-- The digit of a character, of either case. -/
def digit? (c : Char) : Option Nat :=
  if 'a' ≤ c ∧ c ≤ 'z' then some (c.toNat - 97)
  else if 'A' ≤ c ∧ c ≤ 'Z' then some (c.toNat - 65)
  else if '0' ≤ c ∧ c ≤ '9' then some (c.toNat - 22)
  else none

/-- The threshold of the digit at a place, from 1 to 26. -/
def threshold (place bias : Nat) : Nat :=
  min 26 (max 1 (place - bias))

/-- Takes a distance down to the size of one digit, counting the digits it loses. -/
def shrink (delta places : Nat) : Nat :=
  if 455 < delta then shrink (delta / 35) (places + 36)
  else places + 36 * delta / (delta + 38)
termination_by delta

/-- The bias after a distance has been written, for a label of `count` characters so far. -/
def adapt (delta count : Nat) (first : Bool) : Nat :=
  let delta := if first then delta / 700 else delta / 2
  shrink (delta + delta / count) 0

/-! ## Writing -/

/-- The digits of a distance, from a place on. -/
def distance (bias place n : Nat) : List Char :=
  let t := threshold place bias
  if n < t then [digitChar n]
  else digitChar (t + (n - t) % (36 - t)) :: distance bias (place + 36) ((n - t) / (36 - t))
termination_by n
decreasing_by
  have : 1 ≤ threshold place bias := by simp only [threshold]; omega
  have := Nat.div_le_self (n - threshold place bias) (36 - threshold place bias)
  omega

/-- Writing in progress: the text so far, the distance since the last character, the bias, and how
many characters have been written. -/
structure Writing where
  text : List Char
  delta : Nat
  bias : Nat
  written : Nat

/-- Passes over a character of the label while those of one code point are written. -/
def Writing.pass (ascii code : Nat) (w : Writing) (c : Char) : Writing :=
  if c.toNat < code then { w with delta := w.delta + 1 }
  else if c.toNat = code then
    { text := w.text ++ distance w.bias 36 w.delta
      delta := 0
      bias := adapt w.delta (w.written + 1) (w.written == ascii)
      written := w.written + 1 }
  else w

/-- Writes the characters of the given code points, which ascend from `from_`. -/
def writeCodes (label : List Char) (ascii : Nat) :
    (from_ : Nat) → (codes : List Nat) → Writing → Writing
  | _, [], w => w
  | from_, code :: codes, w =>
    let w := { w with delta := w.delta + (code - from_) * (w.written + 1) }
    let w := label.foldl (Writing.pass ascii code) w
    writeCodes label ascii (code + 1) codes { w with delta := w.delta + 1 }

/-- A label in letters, digits and hyphens. -/
def encode (label : List Char) : List Char :=
  let ascii := label.filter (·.toNat < 128)
  let codes := ((label.map Char.toNat).filter (128 ≤ ·)).mergeSort.eraseDups
  let start := if ascii.isEmpty then [] else ascii ++ ['-']
  (writeCodes label ascii.length 128 codes ⟨start, 0, 72, ascii.length⟩).text

/-! ## Reading -/

/-- The number whose digits start a text: its value so far, and the weight of the next digit. -/
def number? (bias : Nat) : (place weight sum : Nat) → List Char → Option (Nat × List Char)
  | _, _, _, [] => none
  | place, weight, sum, c :: rest => do
    let d ← digit? c
    let sum := sum + d * weight
    let t := threshold place bias
    if d < t then some (sum, rest) else number? bias (place + 36) (weight * (36 - t)) sum rest

/-- Puts in the characters whose distances a text gives, in at most `steps` steps: `code` and `at_`
are the code point and the place that the count has reached. -/
def insertAll : (steps : Nat) → (code at_ bias : Nat) → (first : Bool) → (label : List Char) →
    List Char → Option (List Char)
  | _, _, _, _, _, label, [] => some label
  | 0, _, _, _, _, _, _ => none
  | steps + 1, code, at_, bias, first, label, text => do
    let (delta, rest) ← number? bias 36 1 0 text
    let size := label.length + 1
    let reached := at_ + delta
    let code := code + reached / size
    let place := reached % size
    if code.isValidChar then
      insertAll steps code (place + 1) (adapt delta size first) false
        (label.take place ++ Char.ofNat code :: label.drop place) rest
    else none

/-- The label that a text of letters, digits and hyphens stands for: what is before its last hyphen
stands for itself. -/
def decode? (text : List Char) : Option (List Char) :=
  let coded := (text.reverse.takeWhile (· != '-')).reverse
  let ascii := text.take (text.length - coded.length - 1)
  insertAll coded.length 128 0 72 true ascii coded

end RequestLine.Domain.Punycode
