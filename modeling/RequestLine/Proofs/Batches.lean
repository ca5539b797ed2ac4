import RequestLine.Journal
import RequestLine.Proofs.Reading

/-!
# Batches

A batch mixes submissions for the caller, who receives each outcome as it is, and submissions for
one journal, which keeps descriptors only, counts and tells. What a step returns, what the journal
has counted by then and what was told follow from the outcomes of the submissions up to the step,
whatever their order (`batch_reported`).

The only thing told while a submission is read is into how many sections it was cut. Whether that is
told can be seen from the outcome, since the faults that keep a line from being cut are never found
later (`code_of_sections?`, `code_of_describe`), and there is one section more than there are pipes
(`count_of_sections?`).
-/

namespace RequestLine

namespace Line

/-! ## Faults before and after cutting -/

/-- The codes of faults that keep a submission from being cut. -/
def uncutCodes : List String :=
  ["MISSING_REQLINE", "NOT_A_STRING", "MISSING_DELIMITER", "BAD_PIPE_SPACING"]

/-- What keeps a line from being cut is told with one of these codes. -/
theorem code_of_sections? {line : List Char} {f : Fault} (h : sections? line = .error f) :
    f.code ∈ uncutCodes := by
  rcases fault_of_sections? h with rfl | rfl | rfl <;> decide

/-- What is found after cutting is never told with one of these codes. -/
theorem code_of_describe {line : List Char} {s : Sections} {f : Fault}
    (h : describe line s = .error f) : f.code ∉ uncutCodes := by
  rcases opening_or_add_of_describe_eq_error h with h | ⟨q, text, -, h⟩
  · rcases fault_of_opening h with rfl | rfl | rfl | rfl | rfl <;> decide
  · rcases fault_of_add h with rfl | rfl | rfl | rfl | ⟨k, rfl⟩ <;> simp [Fault.code, uncutCodes]

/-- A line without stray pipes has one section more than it has pipes. -/
theorem count_of_sections? {line : List Char} {s : Sections} (h : sections? line = .ok s) :
    s.count = line.count '|' + 1 := by
  obtain ⟨rfl, hpipes⟩ := sections?_eq_ok_iff.1 h
  have hall : s.all ≠ [] := by simp [Sections.all]
  have hlength := length_eq_delimiters_join hall hpipes
  rw [delimiters_join hall hpipes] at hlength
  exact hlength

namespace Submission

/-- A submission is accepted, or has a fault that is only found in what has been cut. -/
def GetsCut (s : Submission) : Prop := ∀ f, s.outcome = .error f → f.code ∉ uncutCodes

/-- What keeps a submission from being a line is told with one of these codes too. -/
theorem code_of_line? {s : Submission} {f : Fault} (h : s.line? = .error f) :
    f.code ∈ uncutCodes := by
  unfold line? at h
  split at h
  · cases h
  · cases h
    decide
  · cases h
    decide
  · cases h
    decide
  · cases h
    split <;> decide
  · cases h
  · cases h
    decide

/-- A submission has a fault that keeps it from being cut, or it is cut and this is told. -/
theorem uncut_or_cut (s : Submission) :
    (∃ f, s.outcome = .error f ∧ f.code ∈ uncutCodes ∧ s.events = []) ∨
      ∃ line cut, s.line? = .ok line ∧ sections? line.toList = .ok cut ∧
        s.outcome = describe line.toList cut ∧ s.events = [.split cut.count] := by
  unfold outcome events
  cases hline : s.line? with
  | error f => exact .inl ⟨f, rfl, code_of_line? hline, rfl⟩
  | ok line =>
    simp only [bind, Except.bind, parse]
    cases hcut : sections? line.toList with
    | error f => exact .inl ⟨f, rfl, code_of_sections? hcut, rfl⟩
    | ok cut => exact .inr ⟨line, cut, rfl, hcut, rfl, rfl⟩

/-- A submission that gets cut is told about, with one section more than it has pipes. -/
theorem events_of_getsCut {s : Submission} (h : s.GetsCut) :
    ∃ line, s.line? = .ok line ∧ s.events = [.split (line.toList.count '|' + 1)] := by
  rcases s.uncut_or_cut with ⟨f, hf, hcode, -⟩ | ⟨line, cut, hline, hcut, -, hevents⟩
  · exact absurd hcode (h f hf)
  · refine ⟨line, hline, ?_⟩
    rw [hevents, count_of_sections? hcut]

/-- Of a submission that is not cut nothing is told. -/
theorem events_of_not_getsCut {s : Submission} (h : ¬s.GetsCut) : s.events = [] := by
  rcases s.uncut_or_cut with ⟨f, -, -, hevents⟩ | ⟨line, cut, -, -, houtcome, -⟩
  · exact hevents
  · refine absurd ?_ h
    intro f hf
    rw [houtcome] at hf
    exact code_of_describe hf

end Submission

end Line

/-! ## What is told -/

/-- What a log shows of an event: its level and its fields, of which its text is the first. -/
abbrev Event.Entry := Level × List (String × Event.Value)

/-- An event as it is shown. -/
def Event.shown (e : Event) : Event.Entry := (e.level, e.fields)

/-- What is told while a submission is read. -/
inductive ToldOfCut (s : Line.Submission) : List Event.Entry → Prop
  | cut {line : String} : s.GetsCut → s.line? = .ok line →
    ToldOfCut s [(.trace, [("message", .text "split reqline"),
      ("sections", .count (line.toList.count '|' + 1))])]
  | uncut : ¬s.GetsCut → ToldOfCut s []

/-- What is told about the outcome of a submission. -/
inductive ToldOfOutcome (s : Line.Submission) : Recipient → List Event.Entry → Prop
  | caller : ToldOfOutcome s .caller []
  | accepted {d : Descriptor} : s.outcome = .ok d →
    ToldOfOutcome s .journal [(.debug, [("message", .text "reqline accepted"),
      ("method", .text d.method.name), ("url", .text d.url)])]
  | rejected {f : Line.Fault} : s.outcome = .error f →
    ToldOfOutcome s .journal [(.warn, [("message", .text "reqline rejected"),
      ("code", .text f.code), ("message", .text f.message)])]

theorem toldOfCut_events (s : Line.Submission) : ToldOfCut s (s.events.map Event.shown) := by
  by_cases h : s.GetsCut
  · obtain ⟨line, hline, hevents⟩ := Line.Submission.events_of_getsCut h
    rw [hevents]
    exact .cut h hline
  · rw [Line.Submission.events_of_not_getsCut h]
    exact .uncut h

theorem toldOfOutcome_note (s : Line.Submission) :
    ToldOfOutcome s .journal [(Journal.note s.outcome).shown] := by
  cases h : s.outcome with
  | ok d => exact .accepted h
  | error f => exact .rejected h

/-! ## Steps -/

/-- The journal counts a submission as accepted. -/
def countsAccepted (item : Recipient × Line.Submission) : Bool :=
  decide (item.1 = .journal) && item.2.outcome.isOk

/-- The journal counts a submission as rejected. -/
def countsRejected (item : Recipient × Line.Submission) : Bool :=
  decide (item.1 = .journal) && !item.2.outcome.isOk

/-- The counts of a journal after the submissions of a batch. -/
def countsOf (items : List (Recipient × Line.Submission)) : Journal :=
  ⟨.ofNat (items.countP countsAccepted), .ofNat (items.countP countsRejected)⟩

/-- What a step has to return, to count and to tell when it comes after the steps `earlier`. -/
structure Reported (earlier : List (Recipient × Line.Submission)) (recipient : Recipient)
    (s : Line.Submission) (step : BatchStep) : Prop where
  /-- A descriptor is returned to anyone. -/
  described_iff : ∀ d, step.result = .described d ↔ s.outcome = .ok d
  /-- Only the caller is told the fault. -/
  faulty_iff : ∀ f, step.result = .faulty f ↔ recipient = .caller ∧ s.outcome = .error f
  dropped_iff : step.result = .dropped ↔ recipient = .journal ∧ ∃ f, s.outcome = .error f
  /-- What the caller receives is not counted. -/
  unchanged : recipient = .caller → step.journal = countsOf earlier
  counted : step.journal = countsOf (earlier ++ [(recipient, s)])
  /-- The counts are exact as long as words can hold them. -/
  accepted_eq : (earlier ++ [(recipient, s)]).countP countsAccepted < UInt64.size →
    step.journal.accepted.toNat = (earlier ++ [(recipient, s)]).countP countsAccepted
  rejected_eq : (earlier ++ [(recipient, s)]).countP countsRejected < UInt64.size →
    step.journal.rejected.toNat = (earlier ++ [(recipient, s)]).countP countsRejected
  told : ∃ cut outcome, step.events.map Event.shown = cut ++ outcome ∧
    ToldOfCut s cut ∧ ToldOfOutcome s recipient outcome

/-- What a step does to the counts depends on its own submission only. -/
theorem journal_run (j : Journal) (recipient : Recipient) (s : Line.Submission) :
    (BatchStep.run j recipient s).journal =
      ⟨j.accepted + if countsAccepted (recipient, s) then 1 else 0,
        j.rejected + if countsRejected (recipient, s) then 1 else 0⟩ := by
  unfold BatchStep.run countsAccepted countsRejected
  cases recipient <;> cases s.outcome <;> simp [Journal.count, Except.isOk, Except.toBool]

/-- What a step returns depends on its recipient and its outcome only, not on the journal. -/
theorem result_run (j : Journal) (recipient : Recipient) (s : Line.Submission) :
    (BatchStep.run j recipient s).result =
      match recipient, s.outcome with
      | _, .ok d => .described d
      | .caller, .error f => .faulty f
      | .journal, .error _ => .dropped := by
  unfold BatchStep.run
  cases recipient <;> cases s.outcome <;> rfl

theorem events_run (j : Journal) (recipient : Recipient) (s : Line.Submission) :
    (BatchStep.run j recipient s).events = s.events ++
      match recipient with
      | .caller => []
      | .journal => [Journal.note s.outcome] := by
  unfold BatchStep.run
  cases recipient <;> cases s.outcome <;> simp

/-- What a step tells depends on its own submission and its recipient only. -/
theorem told_run (j : Journal) (recipient : Recipient) (s : Line.Submission) :
    ∃ cut outcome, (BatchStep.run j recipient s).events.map Event.shown = cut ++ outcome ∧
      ToldOfCut s cut ∧ ToldOfOutcome s recipient outcome := by
  rw [events_run, List.map_append]
  refine ⟨_, _, rfl, toldOfCut_events s, ?_⟩
  cases recipient with
  | caller => exact .caller
  | journal => exact toldOfOutcome_note s

/-! ## Runs -/

/-- The journal after the steps of a batch. -/
def journalAfter (j : Journal) : List (Recipient × Line.Submission) → Journal
  | [] => j
  | (recipient, s) :: rest => journalAfter (BatchStep.run j recipient s).journal rest

section

variable (j : Journal) (earlier later : List (Recipient × Line.Submission))

theorem length_runBatch : (runBatch j earlier).length = earlier.length := by
  induction earlier generalizing j with
  | nil => rfl
  | cons item earlier ih =>
    obtain ⟨recipient, s⟩ := item
    rw [runBatch, List.length_cons, ih, List.length_cons]

/-- A batch goes on from the journal that its first steps leave. -/
theorem runBatch_append :
    runBatch j (earlier ++ later) =
      runBatch j earlier ++ runBatch (journalAfter j earlier) later := by
  induction earlier generalizing j with
  | nil => rfl
  | cons item earlier ih =>
    obtain ⟨recipient, s⟩ := item
    rw [List.cons_append, runBatch, ih]
    rfl

theorem journalAfter_append :
    journalAfter j (earlier ++ later) = journalAfter (journalAfter j earlier) later := by
  induction earlier generalizing j with
  | nil => rfl
  | cons item earlier ih =>
    obtain ⟨recipient, s⟩ := item
    exact ih _

/-- The run of a batch adds to a journal what is counted in its items. By induction on the items,
with the journal as the state. -/
theorem journalAfter_eq :
    journalAfter j earlier =
      ⟨j.accepted + (countsOf earlier).accepted, j.rejected + (countsOf earlier).rejected⟩ := by
  induction earlier generalizing j with
  | nil => simp [journalAfter, countsOf]
  | cons item earlier ih =>
    obtain ⟨recipient, s⟩ := item
    -- a word counts one more exactly if the number that it stands for does
    have hone : ∀ (n : Nat) (b : Bool), UInt64.ofNat (n + if b then 1 else 0) =
        (if b then 1 else 0) + UInt64.ofNat n := by
      intro n b
      rw [UInt64.ofNat_add, UInt64.add_comm]
      cases b <;> rfl
    simp only [journalAfter, ih, journal_run, countsOf, List.countP_cons, hone, UInt64.add_assoc]

end

/-- A step after the steps `earlier` reports what it should. -/
theorem reported_run (earlier : List (Recipient × Line.Submission)) (recipient : Recipient)
    (s : Line.Submission) :
    Reported earlier recipient s (BatchStep.run (journalAfter {} earlier) recipient s) := by
  have hjournal : (BatchStep.run (journalAfter {} earlier) recipient s).journal =
      countsOf (earlier ++ [(recipient, s)]) := by
    -- the journal of the step is that of the batch which ends with it
    have hafter := journalAfter_append {} earlier [(recipient, s)]
    rw [journalAfter_eq, UInt64.zero_add, UInt64.zero_add] at hafter
    exact hafter.symm
  refine ⟨?_, ?_, ?_, ?_, hjournal, ?_, ?_, told_run _ recipient s⟩
  · intro d
    rw [result_run]
    cases recipient <;> cases s.outcome <;> simp
  · intro f
    rw [result_run]
    cases recipient <;> cases s.outcome <;> simp
  · rw [result_run]
    cases recipient <;> cases s.outcome <;> simp
  · rintro rfl
    rw [hjournal]
    simp [countsOf, countsAccepted, countsRejected]
  · intro hlt
    rw [hjournal]
    exact UInt64.toNat_ofNat_of_lt' hlt
  · intro hlt
    rw [hjournal]
    exact UInt64.toNat_ofNat_of_lt' hlt

/-- In every batch, each step returns, counts and tells what follows from its own submission and
the outcomes of the steps before it. -/
theorem batch_reported (earlier later : List (Recipient × Line.Submission))
    (recipient : Recipient) (s : Line.Submission) :
    ∃ step rest, runBatch {} (earlier ++ (recipient, s) :: later) =
        runBatch {} earlier ++ step :: rest ∧
      (runBatch {} earlier).length = earlier.length ∧ Reported earlier recipient s step := by
  have hrun := runBatch_append {} earlier ((recipient, s) :: later)
  rw [runBatch] at hrun
  exact ⟨_, _, hrun, length_runBatch {} earlier, reported_run earlier recipient s⟩

/-- A journal counts past what only the caller receives. -/
theorem batch_reported_past_caller :
    let accepted : Recipient × Line.Submission := (.journal, .text "HTTP GET | URL x")
    let rejected : Recipient × Line.Submission := (.journal, .text "x")
    let received : Recipient × Line.Submission := (.caller, .text "x")
    ∃ step rest,
      runBatch {} [accepted, received, rejected] = runBatch {} [accepted, received] ++ step :: rest ∧
        step.journal.accepted.toNat = 1 ∧ step.journal.rejected.toNat = 1 := by
  intro accepted rejected received
  obtain ⟨step, rest, hrun, -, hreported⟩ :=
    batch_reported [accepted, received] [] .journal (.text "x")
  have haccepted : [accepted, received, rejected].countP countsAccepted = 1 := by decide
  have hrejected : [accepted, received, rejected].countP countsRejected = 1 := by decide
  refine ⟨step, rest, hrun, (hreported.accepted_eq ?_).trans haccepted,
    (hreported.rejected_eq ?_).trans hrejected⟩
  · exact lt_of_eq_of_lt haccepted (by decide)
  · exact lt_of_eq_of_lt hrejected (by decide)

end RequestLine
