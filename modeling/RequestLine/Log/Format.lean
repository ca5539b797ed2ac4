import RequestLine.Event
import RequestLine.Json.Printer

/-!
# Lines of a log

An event as a line of a log, in one of two forms: for people, or as a JSON object. The time, which
stands in front of both, is left to whoever writes the lines.
-/

namespace RequestLine.Log

/-- The form of a line. -/
inductive Format where
  | compact
  | json
  deriving DecidableEq, Repr

namespace Format

/-- The name of a form. -/
def name : Format → String
  | .compact => "compact"
  | .json => "json"

/-- The form with a name. -/
def ofName? (name : String) : Option Format :=
  if name = "compact" then some .compact
  else if name = "json" then some .json
  else none

theorem ofName?_name (f : Format) : ofName? f.name = some f := by
  cases f <;> decide

end Format

/-! ## Compact lines -/

/-- A character of a message: those that could steer a terminal are written as codes. -/
def safeChar (c : Char) : List Char :=
  match c with
  | '\x1b' => "\\x1b".toList
  | '\x07' => "\\x07".toList
  | '\x08' => "\\x08".toList
  | '\x0c' => "\\x0c".toList
  | '\x7f' => "\\x7f".toList
  | c =>
    if 0x80 ≤ c.toNat ∧ c.toNat ≤ 0x9F then
      ['\\', 'u', '\x7b'] ++ Nat.toDigits 16 c.toNat ++ ['\x7d']
    else [c]

/-- A field of a compact line. A message stands without its name. -/
def compactField (field : String × Event.Value) : List Char :=
  if field.1 = "message" then field.2.toText.toList.flatMap safeChar
  else field.1.toList ++ ['='] ++ field.2.toText.toList

/-- An event as a line for people: the level in a column of five, where it comes from and its
fields. -/
def compactLine (e : Event) : List Char :=
  let level := e.level.name.toList
  List.replicate (5 - level.length) ' ' ++ level ++ [' '] ++ e.target.toList ++ [':', ' '] ++
    List.intercalate [' '] (e.fields.map compactField)

/-! ## JSON lines -/

/-- The value of a field as JSON. -/
def jsonValue : Event.Value → Json
  | .text text => .string text
  | .count n => .ofUInt64 n.toUInt64

/-- An event as a JSON object: its level, its fields in order, and where it comes from. Two fields
of one name are two members. -/
def jsonLine (e : Event) : List Char :=
  (Json.object ([("level", .string e.level.name)] ++
    e.fields.map (fun (name, value) => (name, jsonValue value)) ++
    [("target", .string e.target)])).chars

/-- An event as a line. -/
def Format.line (format : Format) (e : Event) : String :=
  match format with
  | .compact => String.ofList (compactLine e)
  | .json => String.ofList (jsonLine e)

end RequestLine.Log
