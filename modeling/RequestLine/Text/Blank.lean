/-!
# Blanks

The 25 characters with the Unicode property White_Space, and the removal of them at both ends of a
text.
-/

namespace RequestLine.Text

/-- The characters with the Unicode property White_Space. -/
def isBlank (c : Char) : Bool :=
  let n := c.toNat
  (9 ≤ n && n ≤ 13) || n == 0x20 || n == 0x85 || n == 0xA0 || n == 0x1680 ||
    (0x2000 ≤ n && n ≤ 0x200A) || n == 0x2028 || n == 0x2029 || n == 0x202F || n == 0x205F ||
    n == 0x3000

/-- A text without the characters of a class at its start. -/
def trimStart (inClass : Char → Bool) (text : List Char) : List Char :=
  text.dropWhile inClass

/-- A text without the characters of a class at its end. -/
def trimEnd (inClass : Char → Bool) (text : List Char) : List Char :=
  (text.reverse.dropWhile inClass).reverse

/-- A text without the characters of a class at either end. -/
def trimBy (inClass : Char → Bool) (text : List Char) : List Char :=
  trimEnd inClass (trimStart inClass text)

/-- A text without blanks at either end. -/
def trim (text : List Char) : List Char :=
  trimBy isBlank text

end RequestLine.Text
