import RequestLine.Event
import RequestLine.Line.Fault
import RequestLine.Line.Sections
import RequestLine.Request.Descriptor
import RequestLine.Text.Blank
import RequestLine.Text.Uppercase

/-!
# Reading a request line

A request line has the form

    HTTP POST | URL address | HEADERS {...} | QUERY {...} | BODY {...}

with any of the three keywords at most once and in any order. The rules are checked in a fixed
order, and the first that is broken is the fault of the line: the delimiters, the method and the
address, double spaces, and then the keyword sections from left to right.
-/

namespace RequestLine.Line

/-- A line that has been cut: the section of the method, that of the address and all others. -/
structure Sections where
  method : List Char
  url : List Char
  others : List (List Char)

/-- How many sections there are. -/
def Sections.count (s : Sections) : Nat := s.others.length + 2

/-- Cuts a line, if every pipe in it is part of a delimiter and there is one. -/
def sections? (line : List Char) : Except Fault Sections :=
  if line.isEmpty then .error .missingLine
  else if pipes line = 0 ∨ delimiters line = 0 then .error .missingDelimiter
  else if pipes line ≠ delimiters line then .error .badPipeSpacing
  else match split line with
    | method :: url :: others => .ok ⟨method, url, others⟩
    | _ => .error .missingDelimiter

/-- What the section of the method starts with. -/
def httpMark : List Char := ['H', 'T', 'T', 'P', ' ']

/-- What the section of the address starts with. -/
def urlMark : List Char := ['U', 'R', 'L', ' ']

/-- The method and the address, with the rules on the whole line. Both are read at a fixed place
before it is checked what stands in front of them. -/
def opening (line : List Char) (s : Sections) : Except Fault Descriptor := do
  let method := Text.trim (s.method.drop httpMark.length)
  let url := Text.trim (s.url.drop urlMark.length)
  if method ≠ Text.uppercase method then throw .methodNotUppercase
  if ¬httpMark.isPrefixOf s.method then throw .missingHttpKeyword
  if ¬urlMark.isPrefixOf s.url then throw .missingUrlKeyword
  let some method := Method.ofName? (String.ofList method) | throw .unsupportedMethod
  if hasDoubleSpace line then throw .doubleSpace
  return { method, url := String.ofList url }

/-- A descriptor in the making, with the keywords that have been read. -/
structure Progress where
  descriptor : Descriptor
  seen : List (List Char) := []

/-- Reads a keyword section. -/
def Progress.add (p : Progress) (text : List Char) : Except Fault Progress := do
  let (name, rest) := text.span (· != ' ')
  let ' ' :: literal := rest | throw .missingKeywordSpace
  if p.seen.contains name then throw (.duplicateKeyword (String.ofList name))
  if name ≠ Text.uppercase name then throw .keywordNotUppercase
  let some keyword := Keyword.ofName? (String.ofList name)
    | throw (.unknownKeyword (String.ofList name))
  let some value := Json.parse? (Text.trim literal) | throw (.invalidLiteral keyword)
  return ⟨p.descriptor.withSection keyword value, name :: p.seen⟩

/-- The descriptor that the sections of a line make up. -/
def describe (line : List Char) (s : Sections) : Except Fault Descriptor := do
  let start ← opening line s
  let done ← s.others.foldlM Progress.add { descriptor := start }
  return done.descriptor

/-- Reads a request line. -/
def parse (line : String) : Except Fault Descriptor := do
  let s ← sections? line.toList
  describe line.toList s

/-! ## Submissions -/

/-- What can be handed in as a request line: a text, or a member of a JSON object that may be
missing or no text at all. -/
inductive Submission where
  | text (line : String)
  | member (value : Option Json)

namespace Submission

/-- The line of a submission. A missing member, null, false and zero count as no line. -/
def line? : Submission → Except Fault String
  | .text line => .ok line
  | .member none | .member (some .null) | .member (some (.bool false)) => .error .missingLine
  | .member (some (.number n)) => .error (if n.isZero then .missingLine else .notText)
  | .member (some (.string line)) => .ok line
  | .member (some _) => .error .notText

/-- The descriptor that a submission stands for, or its fault. -/
def outcome (s : Submission) : Except Fault Descriptor := do
  parse (← s.line?)

/-- What is told while a submission is read: into how many sections it was cut. -/
def events (s : Submission) : List Event :=
  match (do sections? (← s.line?).toList : Except Fault Sections) with
  | .ok cut => [.split cut.count]
  | .error _ => []

end Submission

end RequestLine.Line
