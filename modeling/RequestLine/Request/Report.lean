import RequestLine.Request.Wire

/-!
# Reports

What came of a request: the sections that it was built from, the address that it was sent to, and
the answer with the time that it took. Only answers of success are reported.
-/

namespace RequestLine

/-- The answer to a request. -/
structure Answer where
  status : UInt16
  body : String
  deriving DecidableEq, Repr

/-- Whether a status means success. -/
def Answer.isSuccess (a : Answer) : Bool :=
  200 ≤ a.status && a.status < 300

/-- The content of an answer: nothing, the value that it writes, or else its text. -/
def Answer.data (a : Answer) : Json :=
  if a.body.isEmpty then .null
  else (Json.parse? a.body.toList).getD (.string a.body)

/-- When a request was sent and when the answer came, in milliseconds. -/
structure Timing where
  start : UInt64
  stop : UInt64
  deriving DecidableEq, Repr

/-- The time that a request took. A clock that was set back makes it zero. -/
def Timing.duration (t : Timing) : UInt64 :=
  if t.stop < t.start then 0 else t.stop - t.start

/-- What came of a request. -/
structure Report where
  query : Json
  body : Json
  headers : Json
  fullUrl : String
  status : UInt16
  timing : Timing
  data : Json

namespace Report

/-- The report on a request and its answer. -/
def make (p : Prepared) (a : Answer) (timing : Timing) : Except Failure Report :=
  if a.isSuccess then
    .ok {
      query := p.descriptor.query
      body := p.descriptor.body
      headers := p.descriptor.headers
      fullUrl := p.fullUrl
      status := a.status
      timing
      data := a.data }
  else .error (.badStatus a.status a.body)

/-- A report as a JSON value. -/
def toJson (r : Report) : Json :=
  .object [
    ("request", .object [("query", r.query), ("body", r.body), ("headers", r.headers),
      ("full_url", .string r.fullUrl)]),
    ("response", .object [("http_status", .ofUInt64 r.status.toUInt64),
      ("duration", .ofUInt64 r.timing.duration),
      ("request_start_timestamp", .ofUInt64 r.timing.start),
      ("request_stop_timestamp", .ofUInt64 r.timing.stop),
      ("response_data", r.data)])]

end Report

end RequestLine
