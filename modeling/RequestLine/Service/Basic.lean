import RequestLine.Json.Misfit
import RequestLine.Line.Reader
import RequestLine.Service.MediaType
import RequestLine.Service.Transport
import RequestLine.Text.Utf8

/-!
# The service

The service takes request lines in the payload of calls, has them carried out by a transport, and
answers with reports. A line that breaks a rule is answered with the text of the rule; whatever else
goes wrong is told only to the log.
-/

namespace RequestLine.Service

/-! ## Calls and replies -/

/-- A call of the service. -/
structure Call where
  method : String := "POST"
  path : String := "/"
  contentType? : Option String := some "application/json"
  body : List UInt8 := []
  deriving DecidableEq, Repr

/-- The reply to a call. -/
structure Reply where
  status : UInt16
  contentType? : Option String := none
  allow? : Option String := none
  body : String := ""
  deriving DecidableEq, Repr

/-- A reply in plain text. -/
def Reply.plain (status : UInt16) (body : String) : Reply where
  status
  contentType? := some "text/plain; charset=utf-8"
  body

/-- A reply in JSON. -/
def Reply.json (status : UInt16) (body : Json) : Reply where
  status
  contentType? := some "application/json"
  body := body.render

/-! ## Routes -/

/-- Where a call goes. -/
inductive Route where
  | execute
  | health
  /-- The reply to `health` without its body. -/
  | healthHead
  | unknownPath
  | otherMethod (allowed : String)
  deriving DecidableEq, Repr

/-- The path of an address without its query. -/
def plainPath (path : String) : String :=
  String.ofList (path.toList.takeWhile fun c => c != '?' && c != '#')

/-- The route of a call. -/
def Call.route (c : Call) : Route :=
  match plainPath c.path, c.method with
  | "/", "POST" => .execute
  | "/", _ => .otherMethod "POST"
  | "/health", "GET" => .health
  | "/health", "HEAD" => .healthHead
  | "/health", _ => .otherMethod "GET,HEAD"
  | _, _ => .unknownPath

/-! ## Payloads -/

/-- The size of the largest body. -/
def maxBody : Nat := 2 * 1024 * 1024

/-- The reply to a body that writes no value. Its text is the one before the colon; behind it the
reader would go on with an account of the fault. -/
def unreadable (body : List UInt8) : Reply :=
  if Json.misfit (Text.leadingText body) then
    .plain 422 "Failed to deserialize the JSON body into the target type"
  else .plain 400 "Failed to parse the request body as JSON"

/-- The payload of a call, or the reply that says why there is none. -/
def Call.payload (c : Call) : Except Reply Json :=
  if ¬meansJson c.contentType? then
    .error (.plain 415 "Expected request with \x60Content-Type: application/json\x60")
  else if maxBody < c.body.length then
    .error (.plain 413 "Failed to buffer the request body: length limit exceeded")
  else match (Text.ofUtf8? c.body).bind fun text => Json.parse? text.toList with
    | some payload => .ok payload
    | none => .error (unreadable c.body)

/-- The line that a payload hands in. -/
def submission (payload : Json) : Line.Submission :=
  .member (payload.member? "reqline")

/-! ## Carrying out -/

/-- Why a payload is not answered with a report. -/
inductive Problem where
  | fault (fault : Line.Fault)
  | failure (failure : Failure)
  deriving DecidableEq, Repr

/-- What is told about a problem. -/
def Problem.event : Problem → Event
  | .fault f => .refused f.message
  | .failure f => .failed f.message

/-- What a caller is told about a problem: only faults of the line are explained. -/
def Problem.message : Problem → String
  | .fault f => f.message
  | .failure _ => "An unexpected error occurred."

/-- The reply to a problem. -/
def Problem.reply (p : Problem) : Reply :=
  .json 400 (.object [("error", .bool true), ("message", .string p.message)])

/-- The request that a payload asks for. -/
def prepared (payload : Json) : Except Problem Prepared :=
  match (submission payload).outcome with
  | .error fault => .error (.fault fault)
  | .ok d =>
    match d.prepare with
    | .error failure => .error (.failure failure)
    | .ok p => .ok p

/-- What is told while a payload is read and its request is built. -/
def preparedEvents (payload : Json) : List Event :=
  (submission payload).events ++
    match (submission payload).outcome with
    | .error _ => []
    | .ok d => d.prepareEvents

/-- The report on what a transport gave for a request. -/
def reportOn (p : Prepared) (delivery : Delivery) (timing : Timing) : Except Problem Report :=
  match delivery with
  | .undelivered cause => .error (.failure (.undelivered cause))
  | .answered answer =>
    match Report.make p answer timing with
    | .error failure => .error (.failure failure)
    | .ok report => .ok report

/-- What is told about the outcome. -/
def outcomeEvent (p : Prepared) : Except Problem Report → Event
  | .ok report => .executed p.wire.method p.fullUrl report.status report.timing.duration
  | .error problem => problem.event

/-- The reply with an outcome. -/
def outcomeReply : Except Problem Report → Reply
  | .ok report => .json 200 report.toJson
  | .error problem => problem.reply

/-! ## Exchanges -/

/-- A call with all that came of it: the reply, the request that the transport was asked to carry
out, and what was told. -/
structure Exchange where
  reply : Reply
  sent? : Option WireRequest := none
  events : List Event := []

/-- Carries out a payload. The transport is asked at most once, between the two times. -/
def execute (transport : Transport) (timing : Timing) (payload : Json) : Exchange :=
  let told := preparedEvents payload
  match prepared payload with
  | .error problem => { reply := problem.reply, events := told ++ [problem.event] }
  | .ok p =>
    let outcome := reportOn p (transport.deliver p.wire) timing
    { reply := outcomeReply outcome
      sent? := some p.wire
      events := told ++ transport.events p.wire ++ [outcomeEvent p outcome] }

/-- What `health` is answered with. -/
def healthy : Reply :=
  .json 200 (.object [("status", .string "ok")])

/-- Answers a call. -/
def handle (transport : Transport) (timing : Timing) (c : Call) : Exchange :=
  match c.route with
  | .unknownPath => { reply := { status := 404 } }
  | .otherMethod allowed => { reply := { status := 405, allow? := some allowed } }
  | .health => { reply := healthy }
  | .healthHead => { reply := { healthy with body := "" } }
  | .execute =>
    match c.payload with
    | .error reply => { reply }
    | .ok payload => execute transport timing payload

/-- Answers calls one after the other. -/
def serve (transport : Transport) (calls : List (Timing × Call)) : List Exchange :=
  calls.map fun (timing, c) => handle transport timing c

end RequestLine.Service
