import RequestLine.Proofs.Asking
import RequestLine.Proofs.Batches
import RequestLine.Proofs.Scans

/-!
# What is told about a call

A call that hands in a payload is told about step by step, as far as it gets: its line is cut, a
request is built, a transport may announce that it sends it, and at last there is an outcome. The
outcome is always told, once and at the end, and it is told as it is. A reply says nothing about why
an accepted line could not be carried out, but the log has the whole cause (`handled_call_logged`).

What has to be told is said here of the payload and of what the transport gives, with the texts and
the fields of the log (`ToldOfBuilding`, `ToldOfSending`, `ToldOfEnd`). Cutting is told as in a batch
(`ToldOfCut`), and exactly if the line passes the counts of its pipes and delimiters
(`events_ne_nil_iff`).
-/

namespace RequestLine.Service

/-! ## What has to be told -/

/-- A payload hands in a line with delimiters and without stray pipes. -/
def Divides (payload : Json) (line : String) : Prop :=
  (submission payload).line? = .ok line ∧ Line.delimiters line.toList ≠ 0 ∧
    Line.delimiters line.toList = Line.pipes line.toList

/-- What is told when a request is built, which is the one that is sent. -/
inductive ToldOfBuilding (payload : Json) (sent? : Option WireRequest) : List Event.Entry → Prop
  | built {d : Descriptor} {p : Prepared} : (submission payload).outcome = .ok d →
    d.prepare = .ok p → sent? = some p.wire →
      ToldOfBuilding payload sent? [(.debug, [("message", .text "built request"),
        ("method", .text p.wire.method.name), ("url", .text p.wire.address),
        ("headers", .count p.wire.headers.length)])]
  | unbuilt : (¬∃ d p, (submission payload).outcome = .ok d ∧ d.prepare = .ok p) → sent? = none →
    ToldOfBuilding payload sent? []

/-- What a transport tells about what it sends, if it announces it. -/
inductive ToldOfSending (transport : Transport) (sent? : Option WireRequest) :
    List Event.Entry → Prop
  | announced {r : WireRequest} : transport.announces = true → sent? = some r →
    ToldOfSending transport sent? [(.debug, [("message", .text "executing request"),
      ("method", .text r.method.name), ("url", .text r.address)])]
  | silent : transport.announces = false ∨ sent? = none → ToldOfSending transport sent? []

/-- Why an accepted line was not carried out, in full. -/
inductive Cause (deliver : WireRequest → Delivery) (d : Descriptor) : String → Prop
  | address {e : Url.Error} : Url.parse d.url = .error e →
    Cause deliver d ("invalid url " ++ Text.quoted d.url ++ ": " ++ e.message)
  | query {url : Url} : Url.parse d.url = .ok url → d.query.kind ≠ .object →
    Cause deliver d ("QUERY must be a JSON object, found " ++ d.query.kind.name)
  | headers {url : Url} : Url.parse d.url = .ok url → d.query.kind = .object →
    d.headers.kind ≠ .object →
      Cause deliver d ("HEADERS must be a JSON object, found " ++ d.headers.kind.name)
  | broken {p : Prepared} {reason : String} : d.prepare = .ok p →
    deliver p.wire = .undelivered (.broken reason) →
      Cause deliver d ("transport failed: request failed: " ++ reason)
  | crashed {p : Prepared} {reason : String} : d.prepare = .ok p →
    deliver p.wire = .undelivered (.crashed reason) →
      Cause deliver d ("transport failed: " ++ reason)
  | status {p : Prepared} {a : Answer} : d.prepare = .ok p → deliver p.wire = .answered a →
    ¬Succeeds a.status →
      Cause deliver d ("upstream returned HTTP " ++
        String.ofList (Nat.toDigits 10 a.status.toNat) ++ ": " ++ a.body)

/-- What is told about the outcome, with the reply that the caller gets. -/
inductive ToldOfEnd (deliver : WireRequest → Delivery) (timing : Timing) (payload : Json) :
    Event.Entry → Reply → Prop
  | executed {d : Descriptor} {p : Prepared} {a : Answer} {report : Report} :
    (submission payload).outcome = .ok d → d.prepare = .ok p →
    deliver p.wire = .answered a → Succeeds a.status → Report.make p a timing = .ok report →
      ToldOfEnd deliver timing payload (.info, [("message", .text "reqline executed"),
        ("method", .text p.wire.method.name), ("url", .text p.wire.address),
        ("status", .count a.status.toNat), ("duration_ms", .count timing.duration.toNat)])
        (.json 200 report.toJson)
  | rejected {f : Line.Fault} : (submission payload).outcome = .error f →
    ToldOfEnd deliver timing payload (.warn, [("message", .text "reqline rejected"),
      ("error", .text f.message)]) (refusal f.message)
  | failed {d : Descriptor} {cause : String} : (submission payload).outcome = .ok d →
    Cause deliver d cause →
      ToldOfEnd deliver timing payload (.warn, [("message", .text "reqline dispatch failed"),
        ("error", .text cause)]) (refusal unexplained)

/-- The texts of events that tell an outcome. -/
def outcomeTexts : List String :=
  ["reqline executed", "reqline rejected", "reqline dispatch failed"]

/-- What was told about a call, part by part and in this order. -/
structure Logged (transport : Transport) (timing : Timing) (payload : Json) (x : Exchange)
    (cut built sending : List Event) (last : Event) : Prop where
  events_eq : x.events = cut ++ built ++ sending ++ [last]
  cutting : ToldOfCut (submission payload) (cut.map Event.shown)
  /-- Cutting is told of a line that passes the counts of its delimiters, and of no other. -/
  cut_iff : cut ≠ [] ↔ ∃ line, Divides payload line
  building : ToldOfBuilding payload x.sent? (built.map Event.shown)
  announcing : ToldOfSending transport x.sent? (sending.map Event.shown)
  ending : ToldOfEnd transport.deliver timing payload last.shown x.reply
  /-- No outcome is told before the last event. -/
  once : ∀ e ∈ cut ++ built ++ sending, e.message ∉ outcomeTexts
  executed_iff : last.message = "reqline executed" ↔ x.reply.status = 200
  rejected_iff : last.message = "reqline rejected" ↔ ∃ f, (submission payload).outcome = .error f
  failed_iff : last.message = "reqline dispatch failed" ↔
    x.reply.status ≠ 200 ∧ ∃ d, (submission payload).outcome = .ok d

/-! ## Steps -/

theorem message_of_shown {e : Event} {level : Level} {text : String}
    {fields : List (String × Event.Value)}
    (h : e.shown = (level, ("message", .text text) :: fields)) : e.message = text := by
  simp only [Event.shown, Event.fields, Prod.mk.injEq, List.cons.injEq, Event.Value.text.injEq] at h
  exact h.2.1.2

section

variable {payload : Json}

/-- A line is cut, and this is told, exactly if it passes the counts of its delimiters. -/
theorem events_ne_nil_iff (payload : Json) :
    (submission payload).events ≠ [] ↔ ∃ line, Divides payload line := by
  rcases (submission payload).uncut_or_cut with
    ⟨f, hf, hcode, hevents⟩ | ⟨line, cut, hline, hcut, -, hevents⟩
  · refine iff_of_false (not_not.2 hevents) ?_
    rintro ⟨line, hline, hdelimiters, hcounts⟩
    obtain ⟨method, url, others, hsplit⟩ := Line.exists_split_of_counts hdelimiters
    have hcut := Line.sections?_of_counts hdelimiters hcounts.symm hsplit
    have houtcome : (submission payload).outcome = Line.describe line.toList ⟨method, url, others⟩ := by
      rw [Line.Submission.outcome, hline]
      simp only [bind, Except.bind, Line.parse, hcut]
    -- a fault that keeps a line from being cut is not found in its sections
    exact Line.code_of_describe (houtcome ▸ hf) hcode
  · refine iff_of_true ?_ ⟨line, hline, Line.counts_of_sections? hcut⟩
    rw [hevents]
    exact List.cons_ne_nil _ _

theorem message_of_mem_events {e : Event} (h : e ∈ (submission payload).events) :
    e.message = "split reqline" := by
  rcases (submission payload).uncut_or_cut with ⟨_, _, _, hevents⟩ | ⟨_, cut, _, _, _, hevents⟩
  · rw [hevents] at h
    cases h
  · rw [hevents, List.mem_singleton] at h
    rw [h]
    rfl

/-- A transport tells about what it sends exactly if it announces it. -/
theorem toldOfSending_events (transport : Transport) (r : WireRequest) :
    ToldOfSending transport (some r) ((transport.events r).map Event.shown) := by
  unfold Transport.events
  by_cases hannounces : transport.announces
  · rw [if_pos hannounces]
    exact .announced hannounces rfl
  · rw [if_neg hannounces]
    exact .silent (.inl (by simpa using hannounces))

/-- What keeps a request from being built is told in full. -/
theorem cause_of_prepare {deliver : WireRequest → Delivery} {d : Descriptor} {failure : Failure}
    (h : d.prepare = .error failure) : Cause deliver d failure.message := by
  rcases Descriptor.prepare_eq_error_iff.1 h with
    ⟨e, he, rfl⟩ | ⟨⟨url, hurl⟩, ⟨hquery, rfl⟩ | ⟨hquery, hheaders, rfl⟩⟩
  · exact .address he
  · exact .query hurl hquery
  · exact .headers hurl hquery hheaders

/-- The outcome of a request that was sent is told as it is. -/
theorem toldOfEnd_reportOn {deliver : WireRequest → Delivery} {timing : Timing} {d : Descriptor}
    {p : Prepared} (houtcome : (submission payload).outcome = .ok d) (hprepare : d.prepare = .ok p) :
    ToldOfEnd deliver timing payload
      (outcomeEvent p (reportOn p (deliver p.wire) timing)).shown
      (outcomeReply (reportOn p (deliver p.wire) timing)) := by
  cases hdelivery : deliver p.wire with
  | undelivered cause =>
    cases cause with
    | broken reason =>
      have htext : "transport failed: request failed: " ++ reason =
          "transport failed: " ++ ("request failed: " ++ reason) := by
        rw [← String.append_assoc]
        rfl
      have hcause := Cause.broken hprepare hdelivery
      rw [htext] at hcause
      exact .failed houtcome hcause
    | crashed reason => exact .failed houtcome (.crashed hprepare hdelivery)
  | answered a =>
    by_cases hsuccess : a.isSuccess
    · have hmake : Report.make p a timing = .ok _ := if_pos hsuccess
      simp only [reportOn, hmake]
      exact .executed houtcome hprepare hdelivery ((isSuccess_iff a).1 hsuccess) hmake
    · have hstatus : ¬Succeeds a.status := mt (isSuccess_iff a).2 hsuccess
      have hreport : reportOn p (.answered a) timing = .error (.failure (.badStatus a.status a.body)) := by
        rw [reportOn, Report.make, if_neg hsuccess]
      rw [hreport]
      exact .failed houtcome (.status hprepare hdelivery hstatus)

/-- The kind of the last event and the reply say the same. -/
theorem ToldOfEnd.kinds {deliver : WireRequest → Delivery} {timing : Timing} {last : Event}
    {reply : Reply} (h : ToldOfEnd deliver timing payload last.shown reply) :
    (last.message = "reqline executed" ↔ reply.status = 200) ∧
      (last.message = "reqline rejected" ↔ ∃ f, (submission payload).outcome = .error f) ∧
      (last.message = "reqline dispatch failed" ↔
        reply.status ≠ 200 ∧ ∃ d, (submission payload).outcome = .ok d) := by
  generalize hentry : last.shown = entry at h
  cases h with
  | executed houtcome =>
    rw [message_of_shown hentry, houtcome]
    simp [Reply.json]
  | rejected houtcome =>
    rw [message_of_shown hentry, houtcome]
    simp [refusal, Reply.json]
  | failed houtcome =>
    rw [message_of_shown hentry, houtcome]
    simp [refusal, Reply.json]

end

/-! ## Calls -/

section

variable (transport : Transport) (timing : Timing) {payload : Json}

/-- The parts of what is told, taken together. Neither cutting nor building tells an outcome, so the
last event is the only one that does. -/
theorem logged_of_parts {x : Exchange} {built sending : List Event} {last : Event}
    (hevents : x.events = (submission payload).events ++ built ++ sending ++ [last])
    (hbuilding : ToldOfBuilding payload x.sent? (built.map Event.shown))
    (hannouncing : ToldOfSending transport x.sent? (sending.map Event.shown))
    (hending : ToldOfEnd transport.deliver timing payload last.shown x.reply)
    (honce : ∀ e ∈ built ++ sending, e.message ∉ outcomeTexts) :
    Logged transport timing payload x (submission payload).events built sending last := by
  obtain ⟨hexecuted, hrejected, hfailed⟩ := hending.kinds
  refine ⟨hevents, toldOfCut_events _, events_ne_nil_iff payload, hbuilding, hannouncing, hending, ?_,
    hexecuted, hrejected, hfailed⟩
  intro e he
  rw [List.append_assoc, List.mem_append] at he
  rcases he with he | he
  · rw [message_of_mem_events he]
    decide
  · exact honce e he

/-- A call that stops before anything is sent. -/
theorem logged_of_problem {problem : Problem} (h : prepared payload = .error problem)
    (hunbuilt : ¬∃ d p, (submission payload).outcome = .ok d ∧ d.prepare = .ok p)
    (hending : ToldOfEnd transport.deliver timing payload problem.event.shown problem.reply) :
    Logged transport timing payload (execute transport timing payload)
      (submission payload).events [] [] problem.event := by
  have htold : preparedEvents payload = (submission payload).events := by
    unfold preparedEvents
    cases houtcome : (submission payload).outcome with
    | error f => exact List.append_nil _
    | ok d =>
      cases hprepare : d.prepare with
      | error failure => simp [Descriptor.prepareEvents, hprepare]
      | ok p => exact absurd ⟨d, p, houtcome, hprepare⟩ hunbuilt
  rw [execute_of_error h, htold]
  apply logged_of_parts
  · simp
  · exact .unbuilt hunbuilt rfl
  · exact .silent (.inr rfl)
  · exact hending
  · simp

/-- Of every payload the steps are told as far as it gets, and then the outcome. -/
theorem logged_execute (payload : Json) :
    ∃ cut built sending last,
      Logged transport timing payload (execute transport timing payload) cut built sending last := by
  cases houtcome : (submission payload).outcome with
  | error f =>
    have hprepared : prepared payload = .error (.fault f) := by simp only [prepared, houtcome]
    have hunbuilt : ¬∃ d p, (submission payload).outcome = .ok d ∧ d.prepare = .ok p := by
      simp [houtcome]
    exact ⟨_, _, _, _, logged_of_problem transport timing hprepared hunbuilt (.rejected houtcome)⟩
  | ok d =>
    cases hprepare : d.prepare with
    | error failure =>
      have hprepared : prepared payload = .error (.failure failure) := by
        simp only [prepared, houtcome, hprepare]
      have hunbuilt : ¬∃ d p, (submission payload).outcome = .ok d ∧ d.prepare = .ok p := by
        simp [houtcome, hprepare]
      have hcause : Cause transport.deliver d failure.message := cause_of_prepare hprepare
      have hending : ToldOfEnd transport.deliver timing payload _ _ := .failed houtcome hcause
      exact ⟨_, _, _, _, logged_of_problem transport timing hprepared hunbuilt hending⟩
    | ok p =>
      have hprepared : prepared payload = .ok p := prepared_eq_ok_iff.2 ⟨d, houtcome, hprepare⟩
      have htold : preparedEvents payload = (submission payload).events ++ [p.built] := by
        simp only [preparedEvents, houtcome, Descriptor.prepareEvents, hprepare]
      refine ⟨_, [p.built], transport.events p.wire,
        outcomeEvent p (reportOn p (transport.deliver p.wire) timing),
        logged_of_parts transport timing ?_ ?_ ?_ ?_ ?_⟩
      · simp only [execute, hprepared, htold]
      · rw [sent?_of_ok hprepared]
        exact .built houtcome hprepare rfl
      · rw [sent?_of_ok hprepared]
        exact toldOfSending_events transport p.wire
      · simp only [execute, hprepared]
        exact toldOfEnd_reportOn houtcome hprepare
      · intro e he
        rw [List.mem_append, List.mem_singleton] at he
        rcases he with rfl | he
        · change "built request" ∉ outcomeTexts
          decide
        · unfold Transport.events at he
          split at he
          · rw [List.mem_singleton] at he
            rw [he]
            change "executing request" ∉ outcomeTexts
            decide
          · cases he

end

/-- Of every call with a payload, the steps that it takes are told in order and then, once and at
the end, its outcome as it is. -/
theorem handled_call_logged (transport : Transport) (timing : Timing) (c : Call) (payload : Json)
    (hroute : c.route = .execute) (hpayload : c.payload = .ok payload) :
    ∃ cut built sending last,
      Logged transport timing payload (handle transport timing c) cut built sending last := by
  have hhandle : handle transport timing c = execute transport timing payload := by
    simp only [handle, hroute, hpayload]
  rw [hhandle]
  exact logged_execute transport timing payload

/-- A transport breaks down: the reply does not say so, but the log has what is told about it. -/
theorem handled_call_logged_crash :
    let line := "HTTP GET | URL mailto:x"
    let transport : Transport := .always (.undelivered (.crashed "task 7 panicked"))
    let x := handle transport ⟨0, 0⟩ (callWith line)
    x.reply = refusal unexplained ∧
      ∃ cut built sending, Logged transport ⟨0, 0⟩ (payloadWith line) x cut built sending
        (.failed "transport failed: task 7 panicked") := by
  intro line transport x
  have hpayload : (callWith line).payload = .ok (payloadWith line) :=
    payload_callWith (by decide +kernel)
  obtain ⟨cut, built, sending, last, h⟩ :=
    handled_call_logged transport ⟨0, 0⟩ (callWith line) _ (route_callWith line) hpayload
  have hlast : x.events.getLast? = some (.failed "transport failed: task 7 panicked") := by
    decide +kernel
  rw [h.events_eq, List.getLast?_concat, Option.some.injEq] at hlast
  subst hlast
  exact ⟨by decide +kernel, cut, built, sending, h⟩

end RequestLine.Service
