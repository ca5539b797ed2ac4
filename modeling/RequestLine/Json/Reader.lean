import RequestLine.Json.Value
import RequestLine.Text.CodeTable

/-!
# Reading JSON text

Each production of the grammar is a scanner: it takes the text that is left and returns what it
read with the text after it. Arrays and objects may nest 127 deep.

Loops count down a number of steps; the length of the whole text is always enough, because every
step takes at least one character.
-/

namespace RequestLine.Json.Reader

/-- Reads a part of the text and returns the rest. -/
abbrev Scan (α : Type) := List Char → Option (α × List Char)

/-- The depth to which arrays and objects may nest. -/
def maxDepth : Nat := 127

/-- The four characters that may stand between the parts of a text. -/
def isSpace (c : Char) : Bool :=
  c == ' ' || c == '\t' || c == '\n' || c == '\r'

/-- The text from its first character that is no space. -/
def skipSpaces (text : List Char) : List Char :=
  text.dropWhile isSpace

/-! ## Strings -/

/-- Four hexadecimal digits. -/
def hexFour? : Scan Nat
  | a :: b :: c :: d :: rest => do
    let a ← Text.hexDigit? a
    let b ← Text.hexDigit? b
    let c ← Text.hexDigit? c
    let d ← Text.hexDigit? d
    return (16 * (16 * (16 * a + b) + c) + d, rest)
  | _ => none

/-- The character after a `\u`: four digits, or eight in two halves for a character beyond the
first plane. A half that stands alone is refused. -/
def unicodeEscape : Scan Char := fun text => do
  let (high, rest) ← hexFour? text
  if 0xDC00 ≤ high ∧ high < 0xE000 then none
  else if 0xD800 ≤ high ∧ high < 0xDC00 then
    match rest with
    | '\\' :: 'u' :: rest =>
      let (low, rest) ← hexFour? rest
      if 0xDC00 ≤ low ∧ low < 0xE000 then
        some (Char.ofNat (0x10000 + (high - 0xD800) * 0x400 + (low - 0xDC00)), rest)
      else none
    | _ => none
  else some (Char.ofNat high, rest)

/-- The character that the text after a backslash stands for. -/
def escaped : Scan Char
  | '"' :: rest => some ('"', rest)
  | '\\' :: rest => some ('\\', rest)
  | '/' :: rest => some ('/', rest)
  | 'b' :: rest => some ('\x08', rest)
  | 'f' :: rest => some ('\x0c', rest)
  | 'n' :: rest => some ('\n', rest)
  | 'r' :: rest => some ('\r', rest)
  | 't' :: rest => some ('\t', rest)
  | 'u' :: rest => unicodeEscape rest
  | _ => none

/-- The rest of a string after its opening quote, given how an escape is read. -/
def stringWith (escape : Scan Char) : Nat → Scan (List Char)
  | 0, _ => none
  | _ + 1, [] => none
  | _ + 1, '"' :: rest => some ([], rest)
  | steps + 1, '\\' :: rest => do
    let (c, rest) ← escape rest
    let (cs, rest) ← stringWith escape steps rest
    return (c :: cs, rest)
  | steps + 1, c :: rest =>
    if c.toNat < 0x20 then none
    else do
      let (cs, rest) ← stringWith escape steps rest
      return (c :: cs, rest)

/-- The rest of a string after its opening quote. -/
def stringRest (steps : Nat) : Scan String := fun text => do
  let (cs, rest) ← stringWith escaped steps text
  return (String.ofList cs, rest)

/-- A string, with spaces before it. -/
def string (steps : Nat) : Scan String := fun text =>
  match skipSpaces text with
  | '"' :: rest => stringRest steps rest
  | _ => none

/-! ## Numbers -/

/-- The digits at the start of a text, and the rest. -/
def digits (text : List Char) : List Char × List Char :=
  (text.takeWhile Char.isDigit, text.dropWhile Char.isDigit)

/-- At least one digit. -/
def someDigits : Scan (List Char) := fun text =>
  match digits text with
  | ([], _) => none
  | found => some found

/-- The digits before the point: no further digit after a zero at the start. -/
def wholePart : Scan (List Char) := fun text => do
  let (found, rest) ← someDigits text
  match found with
  | '0' :: _ :: _ => none
  | _ => some (found, rest)

/-- The point and the digits after it, if there is a point. -/
def fractionPart : Scan (List Char)
  | '.' :: rest => someDigits rest
  | text => some ([], text)

/-- The sign and the digits of the exponent, if there is one. -/
def exponentPart : Scan (Option (Bool × List Char))
  | 'e' :: rest | 'E' :: rest => do
    let (negative, rest) := match rest with
      | '+' :: rest => (false, rest)
      | '-' :: rest => (true, rest)
      | rest => (false, rest)
    let (found, rest) ← someDigits rest
    return (some (negative, found), rest)
  | text => some (none, text)

/-- A number literal. -/
def literal : Scan Literal := fun text => do
  let (negative, rest) := match text with
    | '-' :: rest => (true, rest)
    | rest => (false, rest)
  let (integer, rest) ← wholePart rest
  let (fraction, rest) ← fractionPart rest
  let (exponent, rest) ← exponentPart rest
  return (⟨negative, integer, fraction, exponent⟩, rest)

/-! ## Values -/

/-- The items of an array after its opening bracket, given how an item is read. -/
def items {α : Type} (item : Scan α) : Nat → Scan (List α)
  | 0, _ => none
  | steps + 1, text => do
    let (value, rest) ← item text
    match skipSpaces rest with
    | ',' :: rest =>
      let (values, rest) ← items item steps rest
      return (value :: values, rest)
    | ']' :: rest => some ([value], rest)
    | _ => none

/-- An array after its opening bracket, given how an item is read. -/
def arrayRest {α : Type} (item : Scan α) (steps : Nat) : Scan (List α) := fun text =>
  match skipSpaces text with
  | ']' :: rest => some ([], rest)
  | _ => items item steps text

/-- The members of an object after its opening brace, given how a name is read and how the value of
each name is read. -/
def members {ν α : Type} (name : Scan ν) (value : ν → Scan α) : Nat → Scan (List (ν × α))
  | 0, _ => none
  | steps + 1, text => do
    let (n, rest) ← name text
    match skipSpaces rest with
    | ':' :: rest =>
      let (v, rest) ← value n rest
      match skipSpaces rest with
      | ',' :: rest =>
        let (pairs, rest) ← members name value steps rest
        return ((n, v) :: pairs, rest)
      | '\x7d' :: rest => some ([(n, v)], rest)
      | _ => none
    | _ => none

/-- An object after its opening brace, given how a name is read and how the value of each name is
read. -/
def objectRest {ν α : Type} (name : Scan ν) (value : ν → Scan α) (steps : Nat) :
    Scan (List (ν × α)) := fun text =>
  match skipSpaces text with
  | '\x7d' :: rest => some ([], rest)
  | _ => members name value steps text

/-- A value that is neither an array nor an object, at the start of the text. -/
def scalar (steps : Nat) : Scan Json
  | 'n' :: 'u' :: 'l' :: 'l' :: rest => some (.null, rest)
  | 't' :: 'r' :: 'u' :: 'e' :: rest => some (.bool true, rest)
  | 'f' :: 'a' :: 'l' :: 's' :: 'e' :: rest => some (.bool false, rest)
  | '"' :: rest => do
    let (text, rest) ← stringRest steps rest
    return (.string text, rest)
  | text => do
    let (found, rest) ← literal text
    return (.number (← found.number?), rest)

/-- The name that marks an embedded text: an object with this name first has no other member and
stands for the value that the text of this one writes. -/
def embeddingName : String := "$serde_json::private::RawValue"

/-- The rest of an object after the name that marks an embedded text, if its first name is that. -/
def embedding? (steps : Nat) (text : List Char) : Option (List Char) :=
  match string steps text with
  | some (name, rest) => if name = embeddingName then some rest else none
  | none => none

/-- The embedded text, after the name that marks it. -/
def embeddedText (steps : Nat) : Scan String := fun text => do
  let ':' :: rest := skipSpaces text | none
  let (found, rest) ← string steps rest
  let '\x7d' :: rest := skipSpaces rest | none
  return (found, rest)

/-- A value whose arrays and objects nest at most `depth` deep, with spaces before it, given how an
embedded text is read. -/
def value (embedded : List Char → Option Json) (steps : Nat) : (depth : Nat) → Scan Json
  | 0, text => scalar steps (skipSpaces text)
  | depth + 1, text =>
    match skipSpaces text with
    | '[' :: rest => do
      let (found, rest) ← arrayRest (value embedded steps depth) steps rest
      return (.array found, rest)
    | '\x7b' :: rest =>
      match embedding? steps rest with
      | some rest => do
        let (found, rest) ← embeddedText steps rest
        return (← embedded found.toList, rest)
      | none => do
        let (found, rest) ←
          objectRest (string steps) (fun _ => value embedded steps depth) steps rest
        return (.object (membersOf found), rest)
    | text => scalar steps text

/-- What a scanner reads from a whole text, up to spaces at its end. -/
def whole {α : Type} (scan : Scan α) (text : List Char) : Option α :=
  match scan text with
  | some (found, rest) => if (skipSpaces rest).isEmpty then some found else none
  | none => none

/-! ## Passing over a value -/

/-- An escape that is passed over: the digits after a `\u` need not name a character. -/
def anyEscape : Scan Char
  | 'u' :: rest => do
    let (_, rest) ← hexFour? rest
    return ('u', rest)
  | text => escaped text

/-- A string that is passed over, with spaces before it. -/
def anyString (steps : Nat) : Scan Unit := fun text =>
  match skipSpaces text with
  | '"' :: rest => do
    let (_, rest) ← stringWith anyEscape steps rest
    return ((), rest)
  | _ => none

/-- A value that is passed over: its shape is checked, but not whether its numbers have a double
and its escapes name characters. -/
def anyValue (steps : Nat) : (depth : Nat) → Scan Unit
  | 0, _ => none
  | depth + 1, text =>
    match skipSpaces text with
    | '[' :: rest => do
      let (_, rest) ← arrayRest (anyValue steps depth) steps rest
      return ((), rest)
    | '\x7b' :: rest => do
      let (_, rest) ← objectRest (anyString steps) (fun _ => anyValue steps depth) steps rest
      return ((), rest)
    | 'n' :: 'u' :: 'l' :: 'l' :: rest => some ((), rest)
    | 't' :: 'r' :: 'u' :: 'e' :: rest => some ((), rest)
    | 'f' :: 'a' :: 'l' :: 's' :: 'e' :: rest => some ((), rest)
    | '"' :: rest => do
      let (_, rest) ← stringWith anyEscape steps rest
      return ((), rest)
    | text => do
      let (_, rest) ← literal text
      return ((), rest)

end RequestLine.Json.Reader

namespace RequestLine.Json

/-- The value that a text writes, if texts are embedded in one another fewer than `levels` times. -/
def parseWithin : (levels : Nat) → List Char → Option Json
  | 0, _ => none
  | levels + 1, text =>
    Reader.whole (Reader.value (parseWithin levels) text.length Reader.maxDepth) text

/-- The value that a text writes. An embedded text is shorter than the text around it, so there are
never more levels than characters. -/
def parse? (text : List Char) : Option Json :=
  parseWithin (text.length + 1) text

end RequestLine.Json
