import RequestLine.Line.Reader

/-!
# Journal

A journal reads submissions, keeps only the descriptors of those that follow the rules, tells about
each one, and counts both kinds. A batch is read in order, with one journal for all steps that use
it.
-/

namespace RequestLine

/-- How many submissions a journal has accepted and rejected, counted in words. -/
structure Journal where
  accepted : UInt64 := 0
  rejected : UInt64 := 0
  deriving DecidableEq, Repr

namespace Journal

/-- What a journal tells about an outcome. -/
def note : Except Line.Fault Descriptor → Event
  | .ok d => .accepted d.method d.url
  | .error fault => .rejected fault.code fault.message

/-- Counts an outcome. -/
def count (j : Journal) : Except Line.Fault Descriptor → Journal
  | .ok _ => { j with accepted := j.accepted + 1 }
  | .error _ => { j with rejected := j.rejected + 1 }

end Journal

/-! ## Batches -/

/-- Who receives the outcome of a step: the journal, or the caller as it is. -/
inductive Recipient where
  | journal
  | caller
  deriving DecidableEq, Repr

/-- What a step of a batch returns. -/
inductive StepResult where
  | described (descriptor : Descriptor)
  | dropped
  | faulty (fault : Line.Fault)

/-- A step of a batch: its result, the counts after it and what was told. -/
structure BatchStep where
  result : StepResult
  journal : Journal
  events : List Event

/-- Reads one submission. -/
def BatchStep.run (j : Journal) (recipient : Recipient) (s : Line.Submission) : BatchStep :=
  match recipient, s.outcome with
  | .caller, .ok d => ⟨.described d, j, s.events⟩
  | .caller, .error fault => ⟨.faulty fault, j, s.events⟩
  | .journal, .ok d =>
    ⟨.described d, j.count (.ok d), s.events ++ [Journal.note (.ok d)]⟩
  | .journal, .error fault =>
    ⟨.dropped, j.count (.error fault), s.events ++ [Journal.note (.error fault)]⟩

/-- Reads the submissions of a batch in order. -/
def runBatch (j : Journal) : List (Recipient × Line.Submission) → List BatchStep
  | [] => []
  | (recipient, s) :: rest =>
    let step := BatchStep.run j recipient s
    step :: runBatch step.journal rest

end RequestLine
