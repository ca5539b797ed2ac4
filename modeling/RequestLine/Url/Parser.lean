import RequestLine.Text.Blank
import RequestLine.Url.Basic

/-!
# Reading addresses

A text is read from left to right: scheme, authority, path, query, fragment. The parts are brought
into their usual form on the way, so one address has few texts that differ from its own.
-/

namespace RequestLine.Url

/-! ## Authorities -/

/-- The place of the last `@` in a text. -/
def lastAt? (text : List Char) : Option Nat :=
  if text.contains '@' then some (text.length - 1 - (text.reverse.takeWhile (· != '@')).length)
  else none

/-- Credentials in their escaped form: the user name ends at the first colon. -/
def credentialsOf (text : List Char) : Credentials :=
  let (user, rest) := text.span (· != ':')
  { user := escape inCredentials user, password := escape inCredentials (rest.drop 1) }

/-- The credentials at the start of a text, and the text after their mark. A mark alone must not
end the authority. -/
def readCredentials (family : Family) (text : List Char) :
    Except Error (Credentials × List Char) :=
  match lastAt? (text.takeWhile (! family.endsHost ·)) with
  | none => .ok ({}, text)
  | some place =>
    let rest := text.drop (place + 1)
    if place = 0 ∧ (rest.head?.any family.endsHost) then .error .emptyHost
    else .ok (credentialsOf (text.take place), rest)

/-- The text of a host and what follows it. A colon ends a host only outside brackets. -/
def spanHost (family : Family) : (inBrackets : Bool) → List Char → List Char × List Char
  | _, [] => ([], [])
  | inBrackets, c :: rest =>
    if family.endsHost c || (c == ':' && !inBrackets) then ([], c :: rest)
    else
      let (host, after) := spanHost family (c == '[' || (inBrackets && c != ']')) rest
      (c :: host, after)

/-- What may stand behind a port. -/
def endsPort (c : Char) : Bool :=
  c == '/' || c == '\\' || c == '?' || c == '#'

/-- The port behind a colon, if there is one that is not the usual one of the scheme. -/
def readPort (scheme : String) (text : List Char) : Except Error (Option UInt16 × List Char) :=
  let (digits, rest) := text.span Char.isDigit
  let port := (Text.numeral? 10 digits).getD 0
  if 65535 < port then .error .badPort
  else if ¬(rest.head?.all endsPort) then .error .badPort
  else if digits.isEmpty ∨ Scheme.usualPort? scheme = some (UInt16.ofNat port) then .ok (none, rest)
  else .ok (some (UInt16.ofNat port), rest)

/-- The host at the start of a text. -/
def readHost (family : Family) (text : List Char) : Except Error (Host × List Char) := do
  let (host, rest) := spanHost family false text
  if family.isPlace then
    if host.isEmpty then throw .emptyHost
    return (← Host.ofPlace host, rest)
  else return (← Host.ofText host, rest)

/-- The authority at the start of a text. Without a host it has neither port nor credentials. -/
def readAuthority (scheme : String) (text : List Char) : Except Error (Authority × List Char) := do
  let family := Scheme.family scheme
  let (credentials, rest) ← readCredentials family text
  let (host, rest) ← readHost family rest
  match rest with
  | ':' :: rest =>
    if host.isEmpty then throw .emptyHost
    let (port?, rest) ← readPort scheme rest
    return ({ credentials, host, port? }, rest)
  | rest =>
    if host.isEmpty && !credentials.isEmpty then throw .emptyHost
    return ({ credentials, host }, rest)

/-! ## Paths, queries and fragments -/

/-- What ends a path. -/
def endsPath (c : Char) : Bool :=
  c == '?' || c == '#'

/-- The text of a path and what follows it. -/
def spanPath (text : List Char) : List Char × List Char :=
  text.span (! endsPath ·)

/-- What is escaped in the query of an address of a family. -/
def Family.inQuery (family : Family) : Char → Bool :=
  if family.isPlace then inPlaceQuery else Url.inQuery

/-- The query and the fragment that make up a text. -/
def readEnd (family : Family) (text : List Char) : Option (List Char) × Option (List Char) :=
  let fragment (text : List Char) : Option (List Char) :=
    match text with
    | '#' :: rest => some (escape inFragment rest)
    | _ => none
  match text with
  | '?' :: rest =>
    let (query, rest) := rest.span (· != '#')
    (some (escape family.inQuery query), fragment rest)
  | text => (none, fragment text)

/-- The text without a slash at its start. -/
def withoutSlash (family : Family) (text : List Char) : List Char :=
  match text with
  | c :: rest => if family.isSlash c then rest else text
  | [] => []

/-! ## Families -/

/-- An address with an authority. -/
def readPlaced (scheme : String) (text : List Char) : Except Error Url := do
  let family := Scheme.family scheme
  let (authority, rest) ← readAuthority scheme text
  let (path, rest) := spanPath rest
  let segments :=
    if path.isEmpty && !family.isPlace then []
    else Path.segmentsOf family (withoutSlash family path)
  let (query?, fragment?) := readEnd family rest
  return { scheme, authority? := some authority, path := .segments segments, query?, fragment? }

/-- The host of a file, and whether the slash behind it belongs to the path as a segment of its own.
The local host and a drive are no hosts. -/
def readFileHost (text : List Char) : Except Error (Host × List Char) := do
  let (name, rest) := text.span (! Family.file.endsHost ·)
  if Path.isDrive name then return (.name [], text)
  if name.isEmpty then return (.name [], rest)
  let host ← Host.ofPlace name
  if host = .name "localhost".toList then return (.name [], rest)
  return (host, withoutSlash .file rest)

/-- The address of a file from its host and the text of its path: a path that starts with a drive
needs no host. -/
def fileAt (host : Host) (text : List Char) : Url :=
  let (path, rest) := spanPath text
  let segments := Path.segmentsOf .file path
  let host := if segments.head?.any Path.isDrive then .name [] else host
  let (query?, fragment?) := readEnd .file rest
  { scheme := "file", authority? := some { host },
    path := .segments (Path.withoutEmptyStart segments), query?, fragment? }

/-- The address of a file. -/
def readFile (text : List Char) : Except Error Url :=
  match text with
  | c :: d :: rest =>
    if Family.file.isSlash c && Family.file.isSlash d then do
      let (host, rest) ← readFileHost rest
      return fileAt host rest
    else .ok (fileAt (.name []) (withoutSlash .file text))
  | text => .ok (fileAt (.name []) (withoutSlash .file text))

/-- An address of another family without an authority. -/
def readUnplaced (scheme : String) (text : List Char) : Url :=
  let (path, rest) := spanPath text
  let (query?, fragment?) := readEnd .other rest
  let path := match path with
    | '/' :: path => Path.segments (Path.segmentsOf .other path)
    | path => Path.free (escape isControl path)
  { scheme, path, query?, fragment? }

/-- Reads the text after a scheme. -/
def readScheme (scheme : String) (text : List Char) : Except Error Url :=
  match Scheme.family scheme, text with
  | .file, text => readFile text
  | .network, text => readPlaced scheme (text.dropWhile Family.network.isSlash)
  | .other, '/' :: '/' :: rest => readPlaced scheme rest
  | .other, text => .ok (readUnplaced scheme text)

/-- A text without what is never part of an address: controls and spaces at its ends, and tabs and
line ends anywhere. -/
def cleaned (text : List Char) : List Char :=
  (Text.trimBy (·.toNat ≤ 0x20) text).filter fun c => c != '\t' && c != '\n' && c != '\r'

/-- Reads an absolute address. -/
def parse (text : String) : Except Error Url :=
  match Scheme.read? (cleaned text.toList) with
  | some (scheme, rest) => readScheme scheme rest
  | none => .error .relative

end RequestLine.Url
