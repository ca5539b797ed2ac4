import RequestLine.Event
import RequestLine.Request.Descriptor
import RequestLine.Request.Failure
import RequestLine.Url.Form
import RequestLine.Url.Parser

/-!
# Requests to be sent

The request that a descriptor describes: its address is extended by the pairs of its query section,
its headers are those of the headers section, and a `POST` carries the body section as JSON text and
says so unless a header already names the type of its content.
-/

namespace RequestLine

/-- A request to be sent. -/
structure WireRequest where
  method : Method
  url : Url
  headers : List (String × String)
  body? : Option String

/-- The address of a request as text. -/
def WireRequest.address (r : WireRequest) : String :=
  r.url.render

/-- A descriptor with the request that was built from it. -/
structure Prepared where
  descriptor : Descriptor
  wire : WireRequest

/-- The address of the request, its query included. -/
def Prepared.fullUrl (p : Prepared) : String :=
  p.wire.address

/-- A value as the text of a header or of a query pair: strings as they are, all else as JSON. -/
def Json.plainText : Json → String
  | .string text => text
  | value => value.render

/-- The members of an object as texts. -/
def plainPairs (members : List (String × Json)) : List (String × String) :=
  members.map fun (name, value) => (name, value.plainText)

/-- Whether a header says what type the content has: names of headers are compared without regard
to the case of ASCII letters. -/
def namesContentType (header : String × String) : Bool :=
  header.1.toList.map Char.toLower == "content-type".toList

/-- What a `POST` says about its content if nothing else is said. -/
def jsonContent : String × String :=
  ("content-type", "application/json")

namespace Descriptor

/-- The pairs of a section, which has to be an object. -/
def pairs (d : Descriptor) (k : Keyword) : Except Failure (List (String × String)) :=
  match d.get k with
  | .object members => .ok (plainPairs members)
  | value => .error (.notObject k value.kind)

/-- The headers of a request with the given ones from its headers section. -/
def allHeaders (method : Method) (given : List (String × String)) : List (String × String) :=
  match method with
  | .get => given
  | .post => if given.any namesContentType then given else given ++ [jsonContent]

/-- The content of a request: only a `POST` has any. -/
def content (d : Descriptor) : Option String :=
  match d.method with
  | .get => none
  | .post => some d.body.render

/-- Builds the request that a descriptor describes. -/
def prepare (d : Descriptor) : Except Failure Prepared :=
  match Url.parse d.url with
  | .error cause => .error (.badUrl d.url cause)
  | .ok url => do
    let query ← d.pairs .query
    let headers ← d.pairs .headers
    return {
      descriptor := d
      wire := {
        method := d.method
        url := url.withPairs query
        headers := allHeaders d.method headers
        body? := d.content } }

end Descriptor

/-- What is told when a request has been built. -/
def Prepared.built (p : Prepared) : Event :=
  .built p.wire.method p.fullUrl p.wire.headers.length

/-- What is told while a request is built. -/
def Descriptor.prepareEvents (d : Descriptor) : List Event :=
  match d.prepare with
  | .ok p => [p.built]
  | .error _ => []

end RequestLine
