import RequestLine.Text.Token

/-!
# Media types

What a request says about the type of its content: a type and a subtype with a slash between them,
both without regard to case, and parameters behind semicolons. Blanks may stand only in front of a
parameter and behind a quoted value.
-/

namespace RequestLine.Service

/-- A media type without its parameters, in lower case. -/
structure MediaType where
  kind : List Char
  subtype : List Char
  deriving DecidableEq, Repr

namespace MediaType

/-- Whether a character may stand in a quoted value: those of ASCII that are no controls. -/
def isQuotable (c : Char) : Bool :=
  31 < c.toNat && c.toNat < 127

/-- What follows a quoted value that starts a text, which has to be at least one character long; its
first character may be any. -/
def afterQuoted? : List Char → Option (List Char)
  | [] => none
  | first :: rest =>
    if isQuotable first && (rest.takeWhile (· != '"')).all isQuotable then
      match rest.dropWhile (· != '"') with
      | _ :: after => some after
      | [] => none
    else none

/-- What follows the semicolon behind a quoted value, or the end of the text. -/
def afterBlanks? (text : List Char) : Option (List Char) :=
  match text.dropWhile (· == ' ') with
  | [] => some []
  | ';' :: rest => some rest
  | _ => none

/-- What follows the semicolon behind a value, or the end of the text. A value that is not quoted
may be empty only at the end. -/
def afterValue? (text : List Char) : Option (List Char) :=
  match text with
  | '"' :: rest => (afterQuoted? rest).bind afterBlanks?
  | text =>
    match text.span Text.isTokenChar with
    | (_, []) => some []
    | (_ :: _, ';' :: rest) => some rest
    | _ => none

/-- What follows a parameter. -/
def afterParameter? (text : List Char) : Option (List Char) :=
  match text.span Text.isTokenChar with
  | (_ :: _, '=' :: rest) => afterValue? rest
  | _ => none

/-- Whether a text is a list of parameters, with at most `steps` of them. -/
def areParameters : (steps : Nat) → List Char → Bool
  | 0, text => text.isEmpty
  | steps + 1, text =>
    match text.dropWhile (· == ' ') with
    | [] => true
    | text =>
      match afterParameter? text with
      | some rest => areParameters steps rest
      | none => false

/-- The media type that a text writes. -/
def parse? (text : List Char) : Option MediaType :=
  match text.span Text.isTokenChar with
  | (kind, '/' :: rest) =>
    let (subtype, rest) := rest.span Text.isTokenChar
    let found : MediaType := ⟨kind.map Char.toLower, subtype.map Char.toLower⟩
    if kind.isEmpty then none
    else match rest with
      | [] => some found
      | ';' :: rest =>
        if !subtype.isEmpty && areParameters rest.length rest then some found else none
      | _ => none
  | _ => none

/-- A subtype in two parts: what is before its last plus sign and what is behind. A plus sign at the
very start is no such mark. -/
def suffixed (subtype : List Char) : List Char × Option (List Char) :=
  let suffix := (subtype.reverse.takeWhile (· != '+')).reverse
  let before := subtype.take (subtype.length - suffix.length - 1)
  if before.isEmpty then (subtype, none) else (before, some suffix)

/-- Whether the content is said to be JSON. -/
def isJson (m : MediaType) : Bool :=
  let (name, suffix?) := suffixed m.subtype
  m.kind == "application".toList && (name == "json".toList || suffix? == some "json".toList)

end MediaType

/-- Whether what a request says about its content means JSON. -/
def meansJson (contentType? : Option String) : Bool :=
  match contentType?.bind fun text => MediaType.parse? text.toList with
  | some m => m.isJson
  | none => false

end RequestLine.Service
