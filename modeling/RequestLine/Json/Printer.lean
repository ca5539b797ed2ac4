import RequestLine.Json.Value

/-!
# Compact text of a JSON value

No blanks; members in their order; in a string only the quote, the backslash and the control
characters below the space are escaped.
-/

namespace RequestLine.Json

/-- Four lower-case hexadecimal digits. -/
def hexFour (n : Nat) : List Char :=
  let digits := Nat.toDigits 16 n
  List.replicate (4 - digits.length) '0' ++ digits

/-- One character of a string. -/
def escape (c : Char) : List Char :=
  match c with
  | '"' => ['\\', '"']
  | '\\' => ['\\', '\\']
  | '\x08' => ['\\', 'b']
  | '\x0c' => ['\\', 'f']
  | '\n' => ['\\', 'n']
  | '\r' => ['\\', 'r']
  | '\t' => ['\\', 't']
  | c => if c.toNat < 0x20 then ['\\', 'u'] ++ hexFour c.toNat else [c]

/-- The text of a string. -/
def quote (text : String) : List Char :=
  ['"'] ++ text.toList.flatMap escape ++ ['"']

mutual

/-- The compact text of a value. -/
def chars : Json → List Char
  | .null => ['n', 'u', 'l', 'l']
  | .bool true => ['t', 'r', 'u', 'e']
  | .bool false => ['f', 'a', 'l', 's', 'e']
  | .number value => value.text
  | .string text => quote text
  | .array items => ['['] ++ itemChars items ++ [']']
  | .object members => ['\x7b'] ++ memberChars members ++ ['\x7d']

/-- The items of an array, divided by commas. -/
def itemChars : List Json → List Char
  | [] => []
  | [item] => item.chars
  | item :: rest => item.chars ++ [','] ++ itemChars rest

/-- The members of an object, divided by commas. -/
def memberChars : List (String × Json) → List Char
  | [] => []
  | [(name, value)] => quote name ++ [':'] ++ value.chars
  | (name, value) :: rest => quote name ++ [':'] ++ value.chars ++ [','] ++ memberChars rest

end

/-- The compact text of a value. -/
def render (value : Json) : String :=
  String.ofList value.chars

end RequestLine.Json
