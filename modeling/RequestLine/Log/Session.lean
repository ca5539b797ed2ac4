import RequestLine.Journal
import RequestLine.Log.Filter
import RequestLine.Log.Format
import RequestLine.Request.Wire

/-!
# Log sessions

A log is installed once, by the first request for one whose filter can be read, and stays as it is.
Before that nothing is written; from then on every event that the filter admits becomes a line.
-/

namespace RequestLine.Log

/-- A log that has been installed. -/
structure Sink where
  filter : Filter
  format : Format
  deriving DecidableEq, Repr

/-- The lines that a log gains from events. -/
def Sink.lines (sink : Sink) (events : List Event) : List String :=
  (events.filter sink.filter.admits).map sink.format.line

/-- A step of a session. -/
inductive Step where
  /-- Asks for a log. -/
  | install (filter : String) (format : Format)
  /-- Reads a line, and builds its request if it is accepted. -/
  | read (line : String)
  deriving DecidableEq, Repr

/-- What a step returns. -/
inductive StepOutcome where
  | installed
  | refused (cause : FilterError)
  | rejected
  /-- The line was accepted, but no request could be built. -/
  | accepted
  | built
  deriving DecidableEq, Repr

/-- The text of a refusal to install a log. -/
def refusalMessage (cause : FilterError) : String :=
  "invalid log filter: " ++ cause.message

/-- A session: its log, what has been written to it, and the journal of its lines. -/
structure Session where
  sink? : Option Sink := none
  written : List String := []
  journal : Journal := {}
  deriving DecidableEq, Repr

namespace Session

/-- Asks for a log. -/
def install (s : Session) (filter : String) (format : Format) : Session × StepOutcome :=
  match s.sink? with
  | some _ => (s, .installed)
  | none =>
    match Filter.parse filter with
    | .ok filter => ({ s with sink? := some ⟨filter, format⟩ }, .installed)
    | .error cause => (s, .refused cause)

/-- What is told while a line is read and built. -/
def eventsOf (line : String) : List Event :=
  let submission : Line.Submission := .text line
  submission.events ++ [Journal.note submission.outcome] ++
    match submission.outcome with
    | .ok d => d.prepareEvents
    | .error _ => []

/-- What comes of a line. -/
def outcomeOf (line : String) : StepOutcome :=
  match Line.parse line with
  | .error _ => .rejected
  | .ok d =>
    match d.prepare with
    | .ok _ => .built
    | .error _ => .accepted

/-- Reads a line. -/
def read (s : Session) (line : String) : Session × StepOutcome :=
  let gained := match s.sink? with
    | some sink => sink.lines (eventsOf line)
    | none => []
  ({ s with written := s.written ++ gained, journal := s.journal.count (Line.parse line) },
    outcomeOf line)

/-- Takes a step. -/
def step (s : Session) : Step → Session × StepOutcome
  | .install filter format => s.install filter format
  | .read line => s.read line

/-- Takes steps in order. -/
def run (s : Session) : List Step → Session × List StepOutcome
  | [] => (s, [])
  | step :: rest =>
    let (s, outcome) := s.step step
    let (s, outcomes) := s.run rest
    (s, outcome :: outcomes)

end Session

end RequestLine.Log
