import RequestLine.Request.Method

/-!
# Events

What the program tells about its work while it runs. An event is a fact; its level, its source and
its fields, the way a log shows them, follow from it.
-/

namespace RequestLine

/-- How much an event matters, the most important first. -/
inductive Level where
  | error | warn | info | debug | trace
  deriving DecidableEq, Repr

namespace Level

/-- The name of a level in a log. -/
def name : Level → String
  | .error => "ERROR"
  | .warn => "WARN"
  | .info => "INFO"
  | .debug => "DEBUG"
  | .trace => "TRACE"

/-- The place of a level in the order of growing detail, from 1. -/
def rank : Level → Nat
  | .error => 1
  | .warn => 2
  | .info => 3
  | .debug => 4
  | .trace => 5

end Level

/-- Something that happened. -/
inductive Event where
  /-- A line was cut into sections. -/
  | split (sections : Nat)
  /-- A journal accepted a line. -/
  | accepted (method : Method) (url : String)
  /-- A journal rejected a line. -/
  | rejected (code message : String)
  /-- A request was built. -/
  | built (method : Method) (url : String) (headers : Nat)
  /-- A request is about to be sent over the network. -/
  | executing (method : Method) (url : String)
  /-- The service has answered with a report. -/
  | executed (method : Method) (url : String) (status : UInt16) (duration : UInt64)
  /-- The service rejected a line. -/
  | refused (message : String)
  /-- The service could not carry out a line that it had accepted. -/
  | failed (cause : String)
  deriving DecidableEq, Repr

namespace Event

/-- The value of a field: a text, or a number where a log can hold numbers. -/
inductive Value where
  | text (text : String)
  | count (n : Nat)
  deriving DecidableEq, Repr

/-- A value as text. -/
def Value.toText : Value → String
  | .text t => t
  | .count n => String.ofList (Nat.toDigits 10 n)

/-- The level of an event. -/
def level : Event → Level
  | .split .. => .trace
  | .accepted .. | .built .. | .executing .. => .debug
  | .executed .. => .info
  | .rejected .. | .refused .. | .failed .. => .warn

/-- The part of the program that an event comes from. -/
def target : Event → String
  | .split .. => "reqline_core::parser"
  | .accepted .. | .rejected .. => "reqline_core::report"
  | .built .. => "reqline_core::client"
  | .executing .. => "reqline_server::transport"
  | .executed .. => "reqline_server"
  | .refused .. | .failed .. => "reqline_server::error"

/-- The text of an event. -/
def message : Event → String
  | .split .. => "split reqline"
  | .accepted .. => "reqline accepted"
  | .rejected .. | .refused .. => "reqline rejected"
  | .built .. => "built request"
  | .executing .. => "executing request"
  | .executed .. => "reqline executed"
  | .failed .. => "reqline dispatch failed"

/-- What an event says beside its text. -/
def details : Event → List (String × Value)
  | .split sections => [("sections", .count sections)]
  | .accepted method url => [("method", .text method.name), ("url", .text url)]
  | .rejected code message => [("code", .text code), ("message", .text message)]
  | .built method url headers =>
    [("method", .text method.name), ("url", .text url), ("headers", .count headers)]
  | .executing method url => [("method", .text method.name), ("url", .text url)]
  | .executed method url status duration =>
    [("method", .text method.name), ("url", .text url), ("status", .count status.toNat),
      ("duration_ms", .count duration.toNat)]
  | .refused message => [("error", .text message)]
  | .failed cause => [("error", .text cause)]

/-- All fields of an event, its text first. -/
def fields (e : Event) : List (String × Value) :=
  ("message", .text e.message) :: e.details

end Event

end RequestLine
