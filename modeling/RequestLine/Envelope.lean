import RequestLine.Line.Reader
import RequestLine.Request.Wire
import RequestLine.Text.Utf8

/-!
# Envelopes

The outcome of a call as one flat record, for callers that exchange plain texts ended by a zero
byte. Whatever a call does, it returns a record of the same shape: a status, the code of the rule
that a line breaks, a message, and a payload. No text in it holds a zero character, since that would
end it early.
-/

namespace RequestLine

namespace Envelope

/-- How a call went. -/
inductive Status where
  | ok
  /-- The line breaks a rule. -/
  | faulty
  /-- No request can be built from the line. -/
  | failed
  /-- There is no argument. -/
  | missing
  /-- The argument is no text. -/
  | notText
  deriving DecidableEq, Repr

/-- The number of a status. -/
def Status.code : Status → Nat
  | .ok => 0
  | .faulty => 1
  | .failed => 2
  | .missing => 3
  | .notText => 4

/-- A text without zero characters. -/
def withoutZeros (text : String) : String :=
  String.ofList (text.toList.filter (· != '\x00'))

/-- A descriptor in texts. -/
structure DescriptorTexts where
  method : Method
  url : String
  headers : String
  query : String
  body : String
  deriving DecidableEq, Repr

/-- A request in texts. Without headers there is no list of them. -/
structure RequestTexts where
  method : Method
  url : String
  headers? : Option (List (String × String))
  headerCount : UInt32
  body? : Option String
  deriving DecidableEq, Repr

/-- What a call returns beside its status. -/
inductive Payload where
  | none
  | descriptor (texts : DescriptorTexts)
  | request (texts : RequestTexts)
  deriving DecidableEq, Repr

/-- The number of a kind of payload. -/
def Payload.tag : Payload → Nat
  | .none => 0
  | .descriptor _ => 1
  | .request _ => 2

end Envelope

/-- The outcome of a call. -/
structure Envelope where
  status : Envelope.Status
  faultCode? : Option String := none
  message? : Option String := none
  payload : Envelope.Payload := .none
  deriving DecidableEq, Repr

namespace Envelope

/-- The envelope of a descriptor. -/
def ofDescriptor (d : Descriptor) : Envelope where
  status := .ok
  payload := .descriptor {
    method := d.method
    url := withoutZeros d.url
    headers := withoutZeros d.headers.render
    query := withoutZeros d.query.render
    body := withoutZeros d.body.render }

/-- How many headers an envelope counts: all that a word of 32 bits can. -/
def countOf (headers : List (String × String)) : UInt32 :=
  UInt32.ofNat (min headers.length 0xFFFFFFFF)

/-- The envelope of a request. -/
def ofRequest (r : WireRequest) : Envelope where
  status := .ok
  payload := .request {
    method := r.method
    url := withoutZeros r.address
    headers? :=
      if r.headers.isEmpty then none
      else some ((r.headers.take (countOf r.headers).toNat).map fun (name, value) =>
        (withoutZeros name, withoutZeros value))
    headerCount := countOf r.headers
    body? := r.body?.map withoutZeros }

/-- The envelope of a line that breaks a rule. -/
def ofFault (f : Line.Fault) : Envelope where
  status := .faulty
  faultCode? := some (withoutZeros f.code)
  message? := some (withoutZeros f.message)

/-- The envelope of a line from which no request can be built. -/
def ofFailure (f : Failure) : Envelope where
  status := .failed
  message? := some (withoutZeros f.message)

/-- The envelope of a call without an argument. -/
def missing : Envelope where
  status := .missing
  message? := some "null argument: line"

/-- The envelope of a call whose argument is no text. -/
def notText : Envelope where
  status := .notText
  message? := some "line is not valid UTF-8"

/-- The line that an argument holds: the bytes before the first zero, as text. -/
def line? (argument : Option (List UInt8)) : Except Envelope String :=
  match argument with
  | none => .error missing
  | some bytes =>
    match Text.ofUtf8? (bytes.takeWhile (· != 0)) with
    | some line => .ok line
    | none => .error notText

/-- Reads a line. -/
def parse (argument : Option (List UInt8)) : Envelope :=
  match line? argument with
  | .error envelope => envelope
  | .ok line =>
    match Line.parse line with
    | .ok d => ofDescriptor d
    | .error fault => ofFault fault

/-- What is told while a line is read. -/
def parseEvents (argument : Option (List UInt8)) : List Event :=
  match line? argument with
  | .error _ => []
  | .ok line => (Line.Submission.text line).events

/-- Reads a line and builds the request that it describes. -/
def build (argument : Option (List UInt8)) : Envelope :=
  match line? argument with
  | .error envelope => envelope
  | .ok line =>
    match Line.parse line with
    | .error fault => ofFault fault
    | .ok d =>
      match d.prepare with
      | .ok p => ofRequest p.wire
      | .error failure => ofFailure failure

/-- What is told while a line is read and its request is built. -/
def buildEvents (argument : Option (List UInt8)) : List Event :=
  match line? argument with
  | .error _ => []
  | .ok line =>
    (Line.Submission.text line).events ++
      match Line.parse line with
      | .error _ => []
      | .ok d => d.prepareEvents

end Envelope

end RequestLine
