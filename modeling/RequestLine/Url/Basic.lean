import RequestLine.Url.Host
import RequestLine.Url.Path

/-!
# Addresses

An absolute address in parts. Its text is the parts in order with the marks between them.
-/

namespace RequestLine

namespace Url

/-- A user name and a password, in escaped form; either may be empty. -/
structure Credentials where
  user : List Char := []
  password : List Char := []
  deriving DecidableEq, Repr

/-- Whether there are none. -/
def Credentials.isEmpty (c : Credentials) : Bool :=
  c.user.isEmpty && c.password.isEmpty

/-- The text of credentials, with the mark behind them. -/
def Credentials.render (c : Credentials) : List Char :=
  if c.isEmpty then []
  else if c.password.isEmpty then c.user ++ ['@']
  else c.user ++ [':'] ++ c.password ++ ['@']

/-- Where a place is: a host, with credentials and a port that is not the usual one. -/
structure Authority where
  credentials : Credentials := {}
  host : Host := .name []
  port? : Option UInt16 := none
  deriving DecidableEq, Repr

/-- The text of an authority. -/
def Authority.render (a : Authority) : List Char :=
  a.credentials.render ++ a.host.render ++
    match a.port? with
    | some port => [':'] ++ Text.decimal port.toNat
    | none => []

end Url

/-- An absolute address. -/
structure Url where
  scheme : String
  authority? : Option Url.Authority := none
  path : Url.Path
  query? : Option (List Char) := none
  fragment? : Option (List Char) := none
  deriving DecidableEq, Repr

namespace Url

/-- What stands before the path. Without an authority a path that starts with two slashes would be
taken for one, so a dot segment is put in front of it. -/
def beforePath (url : Url) : List Char :=
  match url.authority?, url.path.render with
  | some authority, _ => ['/', '/'] ++ authority.render
  | none, '/' :: '/' :: _ => ['/', '.']
  | none, _ => []

/-- A part with its mark, if it is there. -/
def marked (mark : Char) : Option (List Char) → List Char
  | some text => mark :: text
  | none => []

/-- The text of an address. -/
def render (url : Url) : String :=
  String.ofList (url.scheme.toList ++ [':'] ++ url.beforePath ++ url.path.render ++
    marked '?' url.query? ++ marked '#' url.fragment?)

end Url

end RequestLine
