import RequestLine.Domain.Label
import RequestLine.Domain.Punycode
import RequestLine.Text.Pieces

/-!
# The ASCII form of a domain name

A name is mapped and composed, cut into labels at its dots, and every label outside ASCII is written
in Punycode behind the mark `xn--`. A label that already has the mark must stand for a label that
could have been given it.
-/

namespace RequestLine.Domain

/-- The mark of a label in Punycode. -/
def codedMark : List Char := ['x', 'n', '-', '-']

/-- The ASCII characters that no name holds: controls, the space, and those that divide an
address. -/
def isForbidden (c : Char) : Bool :=
  c.toNat ≤ 0x20 || c.toNat == 0x7F ||
    ['%', '#', '/', ':', '<', '>', '?', '@', '[', '\\', ']', '^', '|'].contains c

/-- Whether a text holds ASCII characters only. -/
def isAscii (text : List Char) : Bool :=
  text.all (·.toNat < 128)

/-- The labels of a name. -/
def labels (name : List Char) : List (List Char) :=
  Text.pieces (· == '.') name

/-- The longest label that is written in Punycode. -/
def maxWritten : Nat := 1000

/-- The longest Punycode that is read. -/
def maxRead : Nat := 2000

/-- The label that Punycode behind the mark stands for, if it could have been given the mark: some
of its characters are not ASCII, all stay as they are, and it is composed. -/
def decoded? (coded : List Char) : Option (List Char) := do
  if maxRead < coded.length then none
  let label ← Punycode.decode? coded
  if isAscii label ∨ ¬label.all Mapping.stays ∨ Text.composed label ≠ label then none
  return label

/-- A label as it is read, out of its Punycode if it has the mark. -/
def readable? (label : List Char) : Option (List Char) :=
  if codedMark.isPrefixOf label then
    if isAscii label then decoded? (label.drop codedMark.length) else none
  else some label

/-- A label in ASCII. -/
def written? (label : List Char) : Option (List Char) :=
  if isAscii label then some label
  else if maxWritten < label.length then none
  else some (codedMark ++ Punycode.encode label)

/-- The ASCII form of a name; none if the rules do not admit the name. -/
def toAscii? (name : List Char) : Option (List Char) := do
  let given := labels (Text.composed (← mapped? name))
  if given.any (·.any isForbidden) then none
  let readable ← given.mapM readable?
  if ¬readable.all Label.isSound then none
  if readable.any Label.isRightToLeft ∧ ¬readable.all Label.keepsDirection then none
  let written ← readable.mapM written?
  return List.intercalate ['.'] written

end RequestLine.Domain
