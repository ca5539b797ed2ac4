import RequestLine.Proofs.Envelopes
import RequestLine.Proofs.Json.Decoded
import RequestLine.Proofs.Preparing
import RequestLine.Service.Basic

/-!
# The ways to hand in a line

A line can be read as it is, handed in as an argument that ends with a zero byte, or called in to
the service as a member of a JSON object. All three give the same (`frontEnds_agree`). The service
gets the line back from the bytes of the call, and what it then does follows from the envelope of
the request that the line describes (`Agrees`).
-/

namespace RequestLine

namespace Service

/-! ## Calls -/

/-- The payload that hands in a line. -/
def payloadWith (line : String) : Json := .object [("reqline", .string line)]

/-- The call that hands in a line. -/
def callWith (line : String) : Call := { body := Text.utf8 (payloadWith line).chars }

theorem length_le_length_body (line : String) :
    line.toList.length ≤ (callWith line).body.length := by
  have hbytes := Text.length_le_length_utf8 (payloadWith line).chars
  have hchars := Json.Reader.length_le_length_flatMap Json.Reader.escaping_escape.ne_nil line.toList
  simp only [payloadWith, Json.chars, Json.memberChars, Json.quote, List.length_append] at hbytes
  simp only [callWith, payloadWith, Json.chars, Json.memberChars, Json.quote]
  omega

theorem parse?_payloadWith (line : String) :
    Json.parse? (payloadWith line).chars = some (payloadWith line) := by
  apply Json.parse?_chars
  · simp [payloadWith, Json.plain_object_iff, Json.Reader.embeddingName]
  · simp [payloadWith, Json.depth, Json.Reader.maxDepth]

/-- A body that is the UTF-8 form of a readable text has its value as the payload. -/
theorem payload_of_utf8 {c : Call} {text : List Char} {v : Json} (hjson : meansJson c.contentType?)
    (hsize : c.body.length ≤ maxBody) (hbody : c.body = Text.utf8 text)
    (hparse : Json.parse? text = some v) : c.payload = .ok v := by
  rw [Call.payload, if_neg (not_not.2 hjson), if_neg (Nat.not_lt.2 hsize), hbody,
    Text.ofUtf8?_utf8, Option.bind_some, String.toList_ofList, hparse]

/-- The payload of the call is the one that it was made from, unless the line is too long. -/
theorem payload_callWith {line : String} (hsize : (callWith line).body.length ≤ maxBody) :
    (callWith line).payload = .ok (payloadWith line) := by
  have hjson : meansJson (callWith line).contentType? := by
    change meansJson (some "application/json")
    decide
  exact payload_of_utf8 hjson hsize rfl (parse?_payloadWith line)

theorem route_callWith (line : String) : (callWith line).route = .execute := by
  have hpath : plainPath (callWith line).path = "/" := by
    change plainPath "/" = "/"
    decide
  rw [Call.route, hpath]
  rfl

theorem handle_callWith {line : String} (hsize : (callWith line).body.length ≤ maxBody)
    (transport : Transport) (timing : Timing) :
    handle transport timing (callWith line) = execute transport timing (payloadWith line) := by
  rw [handle, route_callWith]
  simp only [payload_callWith hsize]

/-! ## Refusals -/

/-- The reply to a call that is refused with a message. -/
def refusal (message : String) : Reply :=
  .json 400 (.object [("error", .bool true), ("message", .string message)])

/-- What is told to callers when the fault is not in their line. -/
def unexplained : String := "An unexpected error occurred."

/-- The message can be read from the reply. -/
theorem refusal_inj {m n : String} : refusal m = refusal n ↔ m = n := by
  have hread : ∀ m : String,
      Json.parse? (Json.object [("error", .bool true), ("message", .string m)]).chars =
        some (.object [("error", .bool true), ("message", .string m)]) := by
    intro m
    apply Json.parse?_chars
    · simp [Json.plain_object_iff, Json.Reader.embeddingName]
    · simp [Json.depth, Json.Reader.maxDepth]
  constructor
  · intro h
    have hbody := String.ofList_injective (congrArg Reply.body h)
    have hvalue := hread m
    rw [hbody, hread n] at hvalue
    simpa using hvalue.symm
  · rintro rfl
    rfl

theorem head?_toList_append {s : String} {c : Char} (t : String) (h : s.toList.head? = some c) :
    (s ++ t).toList.head? = some c := by
  rw [String.toList_append, List.head?_append, h]
  rfl

/-- A text that begins with another letter is not the one without an explanation. -/
theorem ne_unexplained {s : String} {c : Char} (h : s.toList.head? = some c) (hc : c ≠ 'A') :
    s ≠ unexplained := by
  rintro rfl
  exact hc (Option.some.inj h).symm

/-- No fault is told in the words for what is not explained. -/
theorem message_ne_unexplained (f : Line.Fault) : f.message ≠ unexplained := by
  cases f with
  | duplicateKeyword name => exact ne_unexplained (head?_toList_append (c := 'D') _ rfl) (by decide)
  | unknownKeyword name =>
    exact ne_unexplained (head?_toList_append _ (head?_toList_append (c := 'I') _ rfl)) (by decide)
  | invalidLiteral keyword => cases keyword <;> decide
  | _ => decide

end Service

/-! ## Requests -/

namespace Descriptor

theorem length_allHeaders_le (method : Method) (given : List (String × String)) :
    (allHeaders method given).length ≤ given.length + 1 := by
  unfold allHeaders
  split
  · omega
  · split
    · omega
    · simp

/-- A request has the headers of its headers section and at most one more. -/
theorem length_headers_le_of_prepare {d : Descriptor} {p : Prepared} (h : d.prepare = .ok p) :
    ∃ members, d.headers = .object members ∧ p.wire.headers.length ≤ members.length + 1 := by
  obtain ⟨url, query, headers, -, -, hheaders, rfl⟩ := prepare_eq_ok_iff.1 h
  have hlength := length_allHeaders_le d.method (plainPairs headers)
  rw [plainPairs, List.length_map] at hlength
  exact ⟨headers, hheaders, hlength⟩

end Descriptor

/-- An object in a section has no more members than the line has characters. -/
theorem Line.Grammar.length_members_le {line : List Char} {d : Descriptor} {m u : List Char}
    {parts : List (Keyword × List Char)} (h : Grammar line d m u parts) {k : Keyword}
    {members : List (String × Json)} (hmembers : d.get k = .object members) :
    members.length ≤ line.length := by
  rcases h.section_cases k with ⟨text, hpart, hvalue⟩ | ⟨-, hempty⟩
  · rw [hmembers] at hvalue
    have hrun := (Text.trim_isInfix text).trans (h.part_isInfix hpart)
    exact (Json.length_members_le_of_parse? hvalue).trans hrun.length_le
  · rw [hempty] at hmembers
    cases hmembers
    exact Nat.zero_le _

/-- No failure to build a request has the words for what is not explained. -/
theorem Service.withoutZeros_message_ne_unexplained {d : Descriptor} {failure : Failure}
    (h : d.prepare = .error failure) : Envelope.withoutZeros failure.message ≠ unexplained := by
  have hhead : ∃ c, failure.message.toList.head? = some c ∧ c ≠ '\x00' ∧ c ≠ 'A' := by
    rcases d.failure_of_prepare h with ⟨cause, rfl⟩ | ⟨k, found, rfl⟩
    · have hword : "invalid url ".toList.head? = some 'i' := by decide
      refine ⟨'i', ?_, by decide, by decide⟩
      exact head?_toList_append _ (head?_toList_append _ (head?_toList_append _ hword))
    · obtain ⟨c, hname, hc⟩ : ∃ c, k.name.toList.head? = some c ∧ c ≠ '\x00' ∧ c ≠ 'A' := by
        cases k <;> exact ⟨_, rfl, by decide⟩
      exact ⟨c, head?_toList_append _ (head?_toList_append _ hname), hc⟩
  obtain ⟨c, hc, hzero, hletter⟩ := hhead
  exact ne_unexplained (Envelope.head?_withoutZeros hzero hc) hletter

/-! ## Agreement -/

/-- The texts in an envelope are those of a request, but for zero characters. -/
structure Envelope.Carries (texts : Envelope.RequestTexts) (r : WireRequest) : Prop where
  method : texts.method = r.method
  url : texts.url = withoutZeros r.address
  headers : texts.headers?.getD [] =
    r.headers.map fun (name, value) => (withoutZeros name, withoutZeros value)
  headerCount : texts.headerCount.toNat = r.headers.length
  body : texts.body? = r.body?.map withoutZeros

/-- What came of a call is what the envelope says about the line. -/
structure Service.Agrees (e : Envelope) (x : Exchange) : Prop where
  /-- Faults are told to the caller in the same words. -/
  refused_iff : (∃ m, e.message? = some m ∧ x.reply = refusal m) ↔ e.status = .faulty
  /-- Where no request can be built the caller is not told why, and nothing is sent. -/
  unexplained_iff : (x.reply = refusal unexplained ∧ x.sent? = none) ↔ e.status = .failed
  /-- What the caller is not told is told to the log, in the same words. -/
  cause : e.status = .failed → ∃ cause, (∀ c, .failed c ∈ x.events ↔ c = cause) ∧
    e.message? = some (Envelope.withoutZeros cause)
  sent_iff : x.sent?.isSome ↔ e.status = .ok
  /-- The request that is sent is the one in the envelope. -/
  sent : ∀ r, x.sent? = some r → ∃ texts, e.payload = .request texts ∧ Envelope.Carries texts r

namespace Envelope

theorem toNat_countOf {headers : List (String × String)} (h : headers.length ≤ 0xFFFFFFFF) :
    (countOf headers).toNat = headers.length := by
  rw [countOf, Nat.min_eq_left h, UInt32.toNat_ofNat']
  exact Nat.mod_eq_of_lt (by omega)

/-- All that is sent of a request stands in its envelope, up to zeros in its texts. -/
theorem carries_ofRequest {r : WireRequest} (h : r.headers.length ≤ 0xFFFFFFFF) :
    ∃ texts, (ofRequest r).payload = .request texts ∧ Carries texts r := by
  refine ⟨_, rfl, rfl, rfl, ?_, toNat_countOf h, rfl⟩
  rw [toNat_countOf h, List.take_length]
  cases r.headers <;> rfl

end Envelope

namespace Service

/-- Only the outcome of a call is told as a failure. -/
theorem failed_not_mem_preparedEvents (payload : Json) (c : String) :
    .failed c ∉ preparedEvents payload := by
  unfold preparedEvents Line.Submission.events
  rw [List.mem_append, not_or]
  constructor
  · split <;> simp
  · split
    · simp
    · unfold Descriptor.prepareEvents
      split <;> simp [Prepared.built]

/-- What stops before the transport is asked is told and answered at once. -/
theorem execute_of_error {payload : Json} {problem : Problem}
    (h : prepared payload = .error problem) (transport : Transport) (timing : Timing) :
    execute transport timing payload =
      { reply := problem.reply, events := preparedEvents payload ++ [problem.event] } := by
  unfold execute
  rw [h]

theorem sent?_of_ok {payload : Json} {p : Prepared} (h : prepared payload = .ok p)
    (transport : Transport) (timing : Timing) :
    (execute transport timing payload).sent? = some p.wire := by
  unfold execute
  rw [h]

/-- The service prepares from a payload what its line describes. -/
theorem prepared_payloadWith (line : String) :
    prepared (payloadWith line) =
      match Line.parse line with
      | .error fault => .error (.fault fault)
      | .ok d =>
        match d.prepare with
        | .error failure => .error (.failure failure)
        | .ok p => .ok p := rfl

section

variable {line : String} (hline : '\x00' ∉ line.toList) (transport : Transport) (timing : Timing)

include hline

theorem agrees_of_fault {f : Line.Fault} (h : Line.parse line = .error f) :
    Agrees (Envelope.build (Envelope.argument line))
      (execute transport timing (payloadWith line)) := by
  have hprepared : prepared (payloadWith line) = .error (.fault f) := by
    simp only [prepared_payloadWith, h]
  rw [(Envelope.holds_argument hline).build_of_fault h, Envelope.ofFault_eq hline h,
    execute_of_error hprepared]
  refine ⟨iff_of_true ⟨_, rfl, rfl⟩ rfl, iff_of_false ?_ nofun, nofun, iff_of_false nofun nofun,
    nofun⟩
  exact fun hreply => message_ne_unexplained f (refusal_inj.1 hreply.1)

theorem agrees_of_failure {d : Descriptor} {failure : Failure} (h : Line.parse line = .ok d)
    (hprepare : d.prepare = .error failure) :
    Agrees (Envelope.build (Envelope.argument line))
      (execute transport timing (payloadWith line)) := by
  have hprepared : prepared (payloadWith line) = .error (.failure failure) := by
    simp only [prepared_payloadWith, h, hprepare]
  rw [(Envelope.holds_argument hline).build_of_failure h hprepare, execute_of_error hprepared]
  refine ⟨iff_of_false ?_ nofun, iff_of_true ⟨rfl, rfl⟩ rfl, ?_, iff_of_false nofun nofun, nofun⟩
  · rintro ⟨m, hm, hreply⟩
    obtain rfl : Envelope.withoutZeros failure.message = m := Option.some.inj hm
    exact withoutZeros_message_ne_unexplained hprepare (refusal_inj.1 hreply).symm
  · intro _
    refine ⟨failure.message, ?_, rfl⟩
    intro c
    rw [List.mem_append, or_iff_right (failed_not_mem_preparedEvents _ c), List.mem_singleton]
    simp [Problem.event]

theorem agrees_of_prepared {d : Descriptor} {p : Prepared} (h : Line.parse line = .ok d)
    (hprepare : d.prepare = .ok p) (hsize : line.toList.length < 0xFFFFFFFF) :
    Agrees (Envelope.build (Envelope.argument line))
      (execute transport timing (payloadWith line)) := by
  have hprepared : prepared (payloadWith line) = .ok p := by
    simp only [prepared_payloadWith, h, hprepare]
  have hsent := sent?_of_ok hprepared transport timing
  have hcount : p.wire.headers.length ≤ 0xFFFFFFFF := by
    obtain ⟨members, hmembers, hlength⟩ := d.length_headers_le_of_prepare hprepare
    obtain ⟨m, u, parts, hgrammar⟩ := Line.Grammar.of_parse h
    have := hgrammar.length_members_le (k := .headers) hmembers
    omega
  rw [(Envelope.holds_argument hline).build_of_prepared h hprepare]
  refine ⟨iff_of_false ?_ nofun, iff_of_false ?_ nofun, nofun, iff_of_true ?_ rfl, ?_⟩
  · rintro ⟨m, hm, -⟩
    cases hm
  · rintro ⟨-, hnone⟩
    rw [hsent] at hnone
    cases hnone
  · rw [hsent]
    rfl
  · intro r hr
    rw [hsent] at hr
    cases hr
    exact Envelope.carries_ofRequest hcount

end

end Service

/-- A line without zero characters gives the same however it is handed in. -/
theorem frontEnds_agree (line : String) (hline : '\x00' ∉ line.toList) :
    (Line.Submission.member (some (.string line))).outcome = Line.parse line ∧
      Envelope.parse (Envelope.argument line) = Envelope.verbatim (Line.parse line) ∧
      ∀ transport timing, (Service.callWith line).body.length ≤ Service.maxBody →
        Service.Agrees (Envelope.build (Envelope.argument line))
          (Service.handle transport timing (Service.callWith line)) := by
  refine ⟨rfl, Envelope.parse_argument hline, ?_⟩
  intro transport timing hsize
  rw [Service.handle_callWith hsize]
  cases h : Line.parse line with
  | error f => exact Service.agrees_of_fault hline transport timing h
  | ok d =>
    cases hprepare : d.prepare with
    | error failure => exact Service.agrees_of_failure hline transport timing h hprepare
    | ok p =>
      have hlength := Service.length_le_length_body line
      have hmax : Service.maxBody < 0xFFFFFFFF := by decide
      exact Service.agrees_of_prepared hline transport timing h hprepare (by omega)

/-- A line whose request is sent, with a zero character in a header that the envelope drops. -/
theorem frontEnds_agree_post :
    let line := "HTTP POST | URL mailto:x | HEADERS \x7b\"a\":\"\\u0000b\"\x7d"
    (Envelope.build (Envelope.argument line)).status = .ok ∧
      Service.Agrees (Envelope.build (Envelope.argument line))
        (Service.handle (.always (.answered ⟨200, ""⟩)) ⟨0, 0⟩ (Service.callWith line)) := by
  intro line
  have hline : '\x00' ∉ line.toList := by decide +kernel
  have hsize : (Service.callWith line).body.length ≤ Service.maxBody := by decide +kernel
  exact ⟨by decide +kernel, (frontEnds_agree line hline).2.2 _ _ hsize⟩

end RequestLine
