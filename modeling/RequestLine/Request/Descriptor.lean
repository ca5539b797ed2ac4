import RequestLine.Json.Printer
import RequestLine.Json.Reader
import RequestLine.Request.Keyword
import RequestLine.Request.Method

/-!
# Descriptors

What a request line describes: a method, an address and three sections of JSON. A descriptor has a
JSON text of its own, which is written with all five members and read back with some freedom: its
members in any order, or only their values in order; sections may be left out; members of other
names are passed over.
-/

namespace RequestLine

/-- A request as a line describes it. The address is any text, the sections are any values. -/
structure Descriptor where
  method : Method
  url : String
  headers : Json := .empty
  query : Json := .empty
  body : Json := .empty

namespace Descriptor

/-- The value of a section. -/
def get (d : Descriptor) : Keyword → Json
  | .headers => d.headers
  | .query => d.query
  | .body => d.body

/-- The descriptor with another value for a section. -/
def withSection (d : Descriptor) (k : Keyword) (value : Json) : Descriptor :=
  match k with
  | .headers => { d with headers := value }
  | .query => { d with query := value }
  | .body => { d with body := value }

/-- A descriptor as a JSON value. -/
def toJson (d : Descriptor) : Json :=
  .object [("method", .string d.method.name), ("url", .string d.url), ("headers", d.headers),
    ("query", d.query), ("body", d.body)]

/-! ## Reading -/

open Json.Reader

/-- A member of a descriptor's text. -/
inductive Member where
  | method (value : Method)
  | url (value : String)
  | part (keyword : Keyword) (value : Json)
  | other

/-- A method: its name, or an object with that name as its only member and the value null. -/
def scanMethod (steps : Nat) : Scan Method := fun text =>
  match skipSpaces text with
  | '\x7b' :: rest => do
    let (found, rest) ← objectRest (string steps) (fun _ => value Json.parse? steps 0) steps rest
    match found with
    | [(name, .null)] => return (← Method.ofName? name, rest)
    | _ => none
  | text => do
    let (name, rest) ← string steps text
    return (← Method.ofName? name, rest)

/-- A section, one level inside the descriptor. -/
def scanSection (steps : Nat) : Scan Json :=
  value Json.parse? steps (maxDepth - 1)

/-- The value of the member with a given name. -/
def scanMember (steps : Nat) (name : String) : Scan Member := fun text =>
  if name = "method" then do
    let (found, rest) ← scanMethod steps text
    return (.method found, rest)
  else if name = "url" then do
    let (found, rest) ← string steps text
    return (.url found, rest)
  else if name = "headers" then do
    let (found, rest) ← scanSection steps text
    return (.part .headers found, rest)
  else if name = "query" then do
    let (found, rest) ← scanSection steps text
    return (.part .query found, rest)
  else if name = "body" then do
    let (found, rest) ← scanSection steps text
    return (.part .body found, rest)
  else do
    let (_, rest) ← anyValue steps steps text
    return (.other, rest)

/-- The only element of a list of at most one: none of none, and a failure for more. -/
def atMostOne {α : Type} : List α → Option (Option α)
  | [] => some none
  | [a] => some (some a)
  | _ => none

/-- The descriptor that members make up: a method and an address, and no member twice. -/
def ofMembers? (members : List Member) : Option Descriptor := do
  let some method ← atMostOne (members.filterMap fun | .method m => some m | _ => none) | none
  let some url ← atMostOne (members.filterMap fun | .url u => some u | _ => none) | none
  let sectionOf (k : Keyword) : Option Json := do
    let found ← atMostOne (members.filterMap fun
      | .part k' v => if k' = k then some v else none
      | _ => none)
    return found.getD .empty
  return ⟨method, url, ← sectionOf .headers, ← sectionOf .query, ← sectionOf .body⟩

/-- The values of a descriptor in order, after the opening bracket; the sections may be left out
from the end. -/
def scanValues (steps : Nat) : Scan Descriptor := fun text => do
  let (method, rest) ← scanMethod steps text
  let ',' :: rest := skipSpaces rest | none
  let (url, rest) ← string steps rest
  match skipSpaces rest with
  | ']' :: rest => return ({ method, url }, rest)
  | ',' :: rest =>
    let (sections, rest) ← items (scanSection steps) steps rest
    match sections with
    | [headers] => return ({ method, url, headers }, rest)
    | [headers, query] => return ({ method, url, headers, query }, rest)
    | [headers, query, body] => return ({ method, url, headers, query, body }, rest)
    | _ => none
  | _ => none

/-- A descriptor, in either form. -/
def scan (steps : Nat) : Scan Descriptor := fun text =>
  match skipSpaces text with
  | '\x7b' :: rest => do
    let (found, rest) ← objectRest (string steps) (scanMember steps) steps rest
    return (← ofMembers? (found.map (·.2)), rest)
  | '[' :: rest => scanValues steps rest
  | _ => none

/-- The descriptor that a JSON text writes. -/
def parse? (text : List Char) : Option Descriptor :=
  whole (scan text.length) text

end Descriptor

end RequestLine
