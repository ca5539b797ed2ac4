/-!
# Schemes

What stands before the first colon of an address. Five schemes name places in a network and have
usual ports; `file` names files; all others are kept as they are.
-/

namespace RequestLine.Url

/-- What the addresses of a scheme name. -/
inductive Family where
  | network
  | file
  | other
  deriving DecidableEq, Repr

/-- Whether addresses have the form of a place: a host, and a path that is never empty. -/
def Family.isPlace : Family → Bool
  | .network | .file => true
  | .other => false

/-- What divides the segments of a path. -/
def Family.isSlash (family : Family) (c : Char) : Bool :=
  c == '/' || (family.isPlace && c == '\\')

/-- What ends the part of an address with its host. -/
def Family.endsHost (family : Family) (c : Char) : Bool :=
  family.isSlash c || c == '?' || c == '#'

namespace Scheme

/-- The usual port of a scheme that names places in a network. -/
def usualPort? (scheme : String) : Option UInt16 :=
  [("http", 80), ("https", 443), ("ws", 80), ("wss", 443), ("ftp", 21)].lookup scheme

/-- The family of a scheme. -/
def family (scheme : String) : Family :=
  if scheme = "file" then .file
  else if (usualPort? scheme).isSome then .network
  else .other

/-- What may stand in a scheme after its first letter. -/
def holds (c : Char) : Bool :=
  c.isAlphanum || c == '+' || c == '-' || c == '.'

/-- The scheme at the start of a text, in lower case, and the text after its colon. -/
def read? (text : List Char) : Option (String × List Char) :=
  match text.span holds with
  | (first :: more, ':' :: rest) =>
    if first.isAlpha then some (String.ofList ((first :: more).map Char.toLower), rest) else none
  | _ => none

end Scheme

end RequestLine.Url
