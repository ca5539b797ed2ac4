import RequestLine.Service.Transport
import RequestLine.Text.Token

/-!
# The network

The transport that sends requests over the network looks at each one before it connects. The address
has to be one with an authority of limited form and a scheme that it knows; the names and values of
headers have to be ones that can be sent.
-/

namespace RequestLine.Network

/-- Why a request is not even sent. -/
inductive Refusal where
  | tooLong
  | schemeTooLong
  | badCharacter
  | badAuthority
  | badFormat
  | badHeaderName
  | badHeaderValue
  | missingScheme (address : String)
  | unknownScheme (scheme : String)
  deriving DecidableEq, Repr

/-- The text of a refusal. -/
def Refusal.message : Refusal → String
  | .tooLong => "http: uri too long"
  | .schemeTooLong => "http: scheme too long"
  | .badCharacter => "http: invalid uri character"
  | .badAuthority => "http: invalid authority"
  | .badFormat => "http: invalid format"
  | .badHeaderName => "http: invalid HTTP header name"
  | .badHeaderValue => "http: failed to parse header value"
  | .missingScheme address => "bad uri: " ++ address ++ " is missing scheme"
  | .unknownScheme scheme => "bad uri: unknown scheme: " ++ scheme

/-! ## Authorities -/

/-- What has been seen of an authority: colons, brackets, and percent signs that do not belong to
credentials. -/
structure Seen where
  colons : Nat := 0
  opened : Bool := false
  closed : Bool := false
  percent : Bool := false
  /-- Whether the last character ends the credentials. -/
  justMarked : Bool := false

/-- Whether a character that has no meaning of its own may stand in an authority. -/
def isPlain (c : Char) : Bool :=
  c.isAlphanum ||
    ['!', '$', '&', '\'', '(', ')', '*', '+', ',', '-', '.', ';', '=', '_', '~'].contains c

/-- Goes on by one character. -/
def Seen.step (s : Seen) (c : Char) : Except Refusal Seen :=
  let s := { s with justMarked := false }
  match c with
  | ':' => if 8 ≤ s.colons then .error .badAuthority else .ok { s with colons := s.colons + 1 }
  | '[' => if s.percent || s.opened then .error .badAuthority else .ok { s with opened := true }
  | ']' =>
    if !s.opened || s.closed then .error .badAuthority
    else .ok { s with closed := true, colons := 0, percent := false }
  | '@' => .ok { s with colons := 0, percent := false, justMarked := true }
  | '%' => .ok { s with percent := true }
  | c => if isPlain c then .ok s else .error .badCharacter

/-- Checks the text of an authority. -/
def checkAuthority (text : List Char) : Except Refusal Unit := do
  let s ← text.foldlM Seen.step {}
  if s.opened != s.closed || 1 < s.colons || s.justMarked || s.percent then throw .badAuthority

/-! ## Addresses -/

/-- The longest address, in bytes. -/
def maxAddress : Nat := 65534

/-- The longest scheme. -/
def maxScheme : Nat := 64

/-- Checks that an address can be taken apart again. Without an authority the whole text has to look
like one. -/
def checkAddress (url : Url) : Except Refusal Unit := do
  let text := url.render.toList
  if maxAddress < url.render.utf8ByteSize then throw .tooLong
  match url.authority? with
  | some authority =>
    if maxScheme < url.scheme.length then throw .schemeTooLong
    checkAuthority authority.render
    if authority.render.isEmpty then throw .badFormat
  | none =>
    checkAuthority (text.takeWhile (! Url.Family.other.endsHost ·))
    if text.any Url.Family.other.endsHost then throw .badFormat

/-- The schemes that requests can be sent with. -/
def schemes : List String :=
  ["http", "https", "socks4", "socks4a", "socks5", "socks"]

/-- Checks that there is a host to connect to. -/
def checkScheme (url : Url) : Except Refusal Unit :=
  match url.authority? with
  | none => .error (.missingScheme url.render)
  | some _ => if schemes.contains url.scheme then .ok () else .error (.unknownScheme url.scheme)

/-! ## Headers -/

/-- Whether a character may stand in the value of a header. -/
def isValueChar (c : Char) : Bool :=
  (32 ≤ c.toNat && c.toNat != 127) || c == '\t'

/-- Checks a header. -/
def checkHeader (header : String × String) : Except Refusal Unit :=
  if ¬Text.isToken header.1.toList then .error .badHeaderName
  else if ¬header.2.toList.all isValueChar then .error .badHeaderValue
  else .ok ()

/-! ## Requests -/

/-- Checks a request. -/
def check (r : WireRequest) : Except Refusal Unit := do
  checkAddress r.url
  r.headers.forM checkHeader
  checkScheme r.url

/-- The transport that sends what passes the check. -/
def transport (connect : WireRequest → Delivery) : Transport where
  deliver r :=
    match check r with
    | .ok () => connect r
    | .error refusal => .undelivered (.broken refusal.message)
  announces := true

end RequestLine.Network
