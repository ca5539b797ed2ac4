import RequestLine.Domain.Ascii
import RequestLine.Url.Error
import RequestLine.Url.Ipv4
import RequestLine.Url.Ipv6
import RequestLine.Url.Percent

/-!
# Hosts

A host is a name or an address. In the addresses of places in a network a name is brought into its
ASCII form, and one that ends in a number has to be an IPv4 address; elsewhere a name is kept.
-/

namespace RequestLine.Url

/-- A host. The empty name stands for no host. -/
inductive Host where
  | name (text : List Char)
  | ipv4 (address : Ipv4)
  | ipv6 (address : Ipv6)
  deriving DecidableEq, Repr

namespace Host

/-- The text of a host. -/
def render : Host → List Char
  | .name text => text
  | .ipv4 address => address.render
  | .ipv6 address => ['['] ++ address.render ++ [']']

/-- Whether there is no host. -/
def isEmpty (host : Host) : Bool :=
  host == .name []

/-- The IPv6 address in brackets, if a text starts with a bracket. -/
def bracketed? (text : List Char) : Option (Except Error Host) :=
  match text with
  | '[' :: rest =>
    match rest.getLast?, Ipv6.parse? rest.dropLast with
    | some ']', some address => some (.ok (.ipv6 address))
    | _, _ => some (.error .badIpv6)
  | _ => none

/-- The host of a place. -/
def ofPlace (text : List Char) : Except Error Host :=
  match bracketed? text with
  | some host => host
  | none => do
    let some given := Text.ofUtf8? (unescape text) | throw .badName
    let some domain := Domain.toAscii? given.toList | throw .badName
    if domain.isEmpty then throw .emptyHost
    if Ipv4.isMeant domain then
      match Ipv4.parse? domain with
      | some address => return .ipv4 address
      | none => throw .badIpv4
    else return .name domain

/-- What no host holds that is kept as it is. -/
def isRefused (c : Char) : Bool :=
  ['\x00', '\t', '\n', '\r', ' ', '#', '/', ':', '<', '>', '?', '@', '[', '\\', ']', '^',
    '|'].contains c

/-- A host that is kept as it is. -/
def ofText (text : List Char) : Except Error Host :=
  match bracketed? text with
  | some host => host
  | none =>
    if text.any isRefused then .error .badHostCharacter
    else .ok (.name (escape isControl text))

end Host

end RequestLine.Url
