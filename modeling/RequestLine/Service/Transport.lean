import RequestLine.Request.Report

/-!
# Transports

Whatever carries out requests. A transport is asked for an answer and may give none.
-/

namespace RequestLine

/-- What a transport gives for a request. -/
inductive Delivery where
  | answered (answer : Answer)
  | undelivered (cause : Undelivered)
  deriving DecidableEq, Repr

/-- Something that carries out requests. -/
structure Transport where
  deliver : WireRequest → Delivery
  /-- Whether it tells about each request before it sends it. -/
  announces : Bool := false

namespace Transport

/-- The transport that always gives the same. -/
def always (delivery : Delivery) : Transport where
  deliver _ := delivery

/-- What a transport tells while it carries out a request. -/
def events (t : Transport) (r : WireRequest) : List Event :=
  if t.announces then [.executing r.method r.address] else []

end Transport

end RequestLine
