import RequestLine.Proofs.FrontEnds

/-!
# The shape of envelopes

Whoever receives an envelope looks at its status and then relies on the other fields: a payload of
the right kind, a code, a message. There are two calls, each of which ends in one of six ways
(`Ends`). Which one it is follows from the bytes before the first zero (`Classified`), and in each
of them the fields fit together (`Coherent`, `RequestTexts.Counted`). `entry_answers` says so for
every argument.
-/

namespace RequestLine.Envelope

/-! ## Calls -/

/-- The calls that return an envelope. -/
inductive Entry where
  | parse
  | build

def Entry.call : Entry → Option (List UInt8) → Envelope
  | .parse => Envelope.parse
  | .build => Envelope.build

/-- The number of the payload that a call returns with success. -/
def Entry.tag : Entry → Nat
  | .parse => 1
  | .build => 2

/-- The call fails on what an accepted line describes. -/
def Entry.FailsOn : Entry → Descriptor → Prop
  | .parse, _ => False
  | .build, d => ∃ failure, d.prepare = .error failure

theorem Holds.call_of_fault {argument : Option (List UInt8)} {line : String}
    (hline : Holds argument line) (entry : Entry) {f : Line.Fault}
    (h : Line.parse line = .error f) : entry.call argument = ofFault f := by
  cases entry with
  | parse => exact hline.parse_of_fault h
  | build => exact hline.build_of_fault h

theorem call_none (entry : Entry) : entry.call none = missing := by
  cases entry <;> rfl

theorem call_of_not_utf8 (entry : Entry) {bytes : List UInt8}
    (h : ∀ text, bytes.takeWhile (· != 0) ≠ Text.utf8 text) :
    entry.call (some bytes) = notText := by
  have hnone : Text.ofUtf8? (bytes.takeWhile (· != 0)) = none := by
    rw [Option.eq_none_iff_forall_ne_some]
    intro text htext
    exact h _ (Text.ofUtf8?_eq_some_iff.1 htext)
  cases entry <;> simp only [Entry.call, parse, build, line?, hnone]

/-! ## Ways to end -/

/-- How a call can end. -/
inductive Ends (argument : Option (List UInt8)) : Entry → Envelope → Prop
  | missing {entry : Entry} : argument = none → Ends argument entry missing
  | notText {entry : Entry} {bytes : List UInt8} : argument = some bytes →
    (∀ text, bytes.takeWhile (· != 0) ≠ Text.utf8 text) → Ends argument entry notText
  | fault {entry : Entry} {line : String} {f : Line.Fault} : Holds argument line →
    Line.parse line = .error f → Ends argument entry (ofFault f)
  | descriptor {line : String} {d : Descriptor} : Holds argument line →
    Line.parse line = .ok d → Ends argument .parse (ofDescriptor d)
  | failure {line : String} {d : Descriptor} {failure : Failure} : Holds argument line →
    Line.parse line = .ok d → d.prepare = .error failure → Ends argument .build (ofFailure failure)
  | request {line : String} {d : Descriptor} {p : Prepared} : Holds argument line →
    Line.parse line = .ok d → d.prepare = .ok p → Ends argument .build (ofRequest p.wire)

/-- Every call of an entry ends in one of these ways. -/
theorem ends_call (entry : Entry) (argument : Option (List UInt8)) :
    Ends argument entry (entry.call argument) := by
  cases argument with
  | none =>
    rw [call_none]
    exact .missing rfl
  | some bytes =>
    by_cases htext : ∃ text, bytes.takeWhile (· != 0) = Text.utf8 text
    · obtain ⟨text, htext⟩ := htext
      have hline : Holds (some bytes) (String.ofList text) :=
        ⟨bytes, rfl, by rw [String.toList_ofList, htext]⟩
      cases h : Line.parse (String.ofList text) with
      | error f =>
        rw [hline.call_of_fault entry h]
        exact .fault hline h
      | ok d =>
        cases entry with
        | parse =>
          rw [Entry.call, hline.parse_of_descriptor h]
          exact .descriptor hline h
        | build =>
          rw [Entry.call]
          cases hprepare : d.prepare with
          | error failure =>
            rw [hline.build_of_failure h hprepare]
            exact .failure hline h hprepare
          | ok p =>
            rw [hline.build_of_prepared h hprepare]
            exact .request hline h hprepare
    · rw [not_exists] at htext
      rw [call_of_not_utf8 entry htext]
      exact .notText rfl htext

/-- The status of an envelope says what was handed in and what became of it. -/
structure Classified (entry : Entry) (argument : Option (List UInt8)) (e : Envelope) : Prop where
  missing_iff : e.status = .missing ↔ argument = none
  notText_iff : e.status = .notText ↔
    ∃ bytes, argument = some bytes ∧ ∀ text, bytes.takeWhile (· != 0) ≠ Text.utf8 text
  faulty_iff : e.status = .faulty ↔ ∃ line f, Holds argument line ∧ Line.parse line = .error f
  failed_iff : e.status = .failed ↔
    ∃ line d, Holds argument line ∧ Line.parse line = .ok d ∧ entry.FailsOn d
  ok_iff : e.status = .ok ↔
    ∃ line d, Holds argument line ∧ Line.parse line = .ok d ∧ ¬entry.FailsOn d

section

variable {argument : Option (List UInt8)} {entry : Entry} {e : Envelope}

theorem Ends.eq_none (h : Ends argument entry e) (hstatus : e.status = .missing) :
    argument = none := by
  cases h with
  | missing hargument => exact hargument
  | _ => cases hstatus

theorem Ends.not_utf8 (h : Ends argument entry e) (hstatus : e.status = .notText) :
    ∃ bytes, argument = some bytes ∧ ∀ text, bytes.takeWhile (· != 0) ≠ Text.utf8 text := by
  cases h with
  | notText hargument hbytes => exact ⟨_, hargument, hbytes⟩
  | _ => cases hstatus

/-- The status of a fault is only given for a line with a fault. -/
theorem Ends.exists_fault (h : Ends argument entry e) (hstatus : e.status = .faulty) :
    ∃ line f, Holds argument line ∧ Line.parse line = .error f := by
  cases h with
  | fault hline hparse => exact ⟨_, _, hline, hparse⟩
  | _ => cases hstatus

/-- The status of a failure is only given for a line without a fault. -/
theorem Ends.exists_failure (h : Ends argument entry e) (hstatus : e.status = .failed) :
    ∃ line d, Holds argument line ∧ Line.parse line = .ok d ∧ entry.FailsOn d := by
  cases h with
  | failure hline hparse hprepare => exact ⟨_, _, hline, hparse, _, hprepare⟩
  | _ => cases hstatus

/-- The status of a success is only given for a line on which the call does not fail. -/
theorem Ends.exists_success (h : Ends argument entry e) (hstatus : e.status = .ok) :
    ∃ line d, Holds argument line ∧ Line.parse line = .ok d ∧ ¬entry.FailsOn d := by
  cases h with
  | descriptor hline hparse => exact ⟨_, _, hline, hparse, id⟩
  | request hline hparse hprepare =>
    refine ⟨_, _, hline, hparse, ?_⟩
    rintro ⟨failure, herror⟩
    rw [hprepare] at herror
    cases herror
  | _ => cases hstatus

end

/-- The status says exactly what became of the argument: one way from the ways to end, the other way
by computing the call. -/
theorem classified_call (entry : Entry) (argument : Option (List UInt8)) :
    Classified entry argument (entry.call argument) := by
  -- what the status says is read off the way to end; what is left is what the call returns then
  have hends := ends_call entry argument
  refine ⟨⟨hends.eq_none, ?_⟩, ⟨hends.not_utf8, ?_⟩, ⟨hends.exists_fault, ?_⟩,
    ⟨hends.exists_failure, ?_⟩, ⟨hends.exists_success, ?_⟩⟩
  · rintro rfl
    rw [call_none]
    rfl
  · rintro ⟨bytes, rfl, h⟩
    rw [call_of_not_utf8 entry h]
    rfl
  · rintro ⟨line, f, hline, h⟩
    rw [hline.call_of_fault entry h]
    rfl
  · rintro ⟨line, d, hline, h, hfails⟩
    cases entry with
    | parse => exact hfails.elim
    | build =>
      obtain ⟨failure, hprepare⟩ := hfails
      rw [Entry.call, hline.build_of_failure h hprepare]
      rfl
  · rintro ⟨line, d, hline, h, hfails⟩
    cases entry with
    | parse =>
      rw [Entry.call, hline.parse_of_descriptor h]
      rfl
    | build =>
      cases hprepare : d.prepare with
      | error failure => exact absurd ⟨failure, hprepare⟩ hfails
      | ok p =>
        rw [Entry.call, hline.build_of_prepared h hprepare]
        rfl

/-! ## Fields -/

/-- The texts of a payload. -/
def Payload.texts : Payload → List String
  | .none => []
  | .descriptor t => [t.url, t.headers, t.query, t.body]
  | .request t => t.url :: (t.headers?.getD []).flatMap (fun h => [h.1, h.2]) ++ t.body?.toList

/-- All texts of an envelope. -/
def texts (e : Envelope) : List String :=
  e.faultCode?.toList ++ e.message?.toList ++ e.payload.texts

/-- The fields of an envelope fit its status, and no text of it is ended early by a zero. -/
structure Coherent (tag : Nat) (e : Envelope) : Prop where
  payload_iff : e.payload ≠ .none ↔ e.status = .ok
  tag_eq : e.payload.tag = if e.status = .ok then tag else 0
  faultCode_iff : e.faultCode? ≠ none ↔ e.status = .faulty
  message_iff : e.message? = none ↔ e.status = .ok
  zeroless : ∀ text ∈ e.texts, '\x00' ∉ text.toList

/-- No zero is left in a text that is handed out. -/
theorem zero_not_mem_withoutZeros (text : String) : '\x00' ∉ (withoutZeros text).toList := by
  simp [toList_withoutZeros]

/-- An envelope that holds nothing but a message. -/
theorem coherent_of_message {status : Status} {message : String} (tag : Nat)
    (hok : status ≠ .ok) (hfaulty : status ≠ .faulty) (hzero : '\x00' ∉ message.toList) :
    Coherent tag { status, message? := some message } where
  payload_iff := by simp [hok]
  tag_eq := by simp [hok, Payload.tag]
  faultCode_iff := by simp [hfaulty]
  message_iff := by simp [hok]
  zeroless := by simpa [texts, Payload.texts] using hzero

/-- An envelope that holds nothing but a payload. -/
theorem coherent_of_payload (payload : Payload) (hpayload : payload ≠ .none)
    (hzero : ∀ text ∈ payload.texts, '\x00' ∉ text.toList) :
    Coherent payload.tag { status := .ok, payload } where
  payload_iff := by simp [hpayload]
  tag_eq := by simp
  faultCode_iff := by simp
  message_iff := by simp
  zeroless := by simpa [texts] using hzero

theorem coherent_ofFault (tag : Nat) (f : Line.Fault) : Coherent tag (ofFault f) where
  payload_iff := by simp [ofFault]
  tag_eq := rfl
  faultCode_iff := by simp [ofFault]
  message_iff := by simp [ofFault]
  zeroless := by simp [texts, ofFault, Payload.texts, zero_not_mem_withoutZeros]

theorem coherent_ofDescriptor (d : Descriptor) : Coherent 1 (ofDescriptor d) := by
  apply coherent_of_payload (ofDescriptor d).payload nofun
  simp [ofDescriptor, Payload.texts, zero_not_mem_withoutZeros]

theorem coherent_ofRequest (r : WireRequest) : Coherent 2 (ofRequest r) := by
  apply coherent_of_payload (ofRequest r).payload nofun
  intro text htext
  -- each text is what is left of another one without its zeros
  suffices ∃ original, text = withoutZeros original by
    obtain ⟨original, rfl⟩ := this
    exact zero_not_mem_withoutZeros original
  simp only [ofRequest, Payload.texts, List.mem_append, List.mem_cons, List.mem_flatMap,
    Option.mem_toList] at htext
  rcases htext with (rfl | ⟨header, hheader, htext⟩) | hbody
  · exact ⟨_, rfl⟩
  · split at hheader
    · simp at hheader
    · simp only [Option.getD_some, List.mem_map] at hheader
      obtain ⟨⟨name, value⟩, -, rfl⟩ := hheader
      rcases htext with rfl | rfl | htext
      · exact ⟨_, rfl⟩
      · exact ⟨_, rfl⟩
      · simp at htext
  · obtain ⟨body, -, rfl⟩ := Option.map_eq_some_iff.1 hbody
    exact ⟨_, rfl⟩

/-- However a call ends, the fields of its envelope fit together. -/
theorem Ends.coherent {argument : Option (List UInt8)} {entry : Entry} {e : Envelope}
    (h : Ends argument entry e) : Coherent entry.tag e := by
  cases h with
  | missing => exact coherent_of_message _ nofun nofun (by decide)
  | notText => exact coherent_of_message _ nofun nofun (by decide)
  | fault => exact coherent_ofFault _ _
  | descriptor => exact coherent_ofDescriptor _
  | failure => exact coherent_of_message _ nofun nofun (zero_not_mem_withoutZeros _)
  | request => exact coherent_ofRequest _

/-! ## Requests -/

/-- The texts of a request count its headers: the list of them is as long as it is said to be, and
it is left out only if there are none. Only a `GET` has no content. -/
structure RequestTexts.Counted (texts : RequestTexts) (r : WireRequest) : Prop where
  headerCount_eq : r.headers.length < UInt32.size → texts.headerCount.toNat = r.headers.length
  length_headers : (texts.headers?.getD []).length = texts.headerCount.toNat
  headers_iff : texts.headers? = none ↔ r.headers.length = 0
  body_iff : texts.body? = none ↔ texts.method = .get

theorem body?_eq_none_iff_of_prepare {d : Descriptor} {p : Prepared} (h : d.prepare = .ok p) :
    p.wire.body? = none ↔ p.wire.method = .get := by
  obtain ⟨url, query, headers, -, -, -, rfl⟩ := Descriptor.prepare_eq_ok_iff.1 h
  unfold Descriptor.content
  cases d.method <;> simp

theorem toNat_countOf_le (headers : List (String × String)) :
    (countOf headers).toNat ≤ headers.length := by
  rw [countOf, UInt32.toNat_ofNat']
  exact (Nat.mod_le _ _).trans (Nat.min_le_left _ _)

/-- The texts of a request that was built count its headers as they are. -/
theorem counted_of_prepare {d : Descriptor} {p : Prepared} (h : d.prepare = .ok p)
    {texts : RequestTexts} (htexts : (ofRequest p.wire).payload = .request texts) :
    texts.Counted p.wire := by
  cases htexts
  refine ⟨?_, ?_, ?_, ?_⟩
  · intro hsize
    exact toNat_countOf (Nat.le_of_lt_succ hsize)
  · have hle := toNat_countOf_le p.wire.headers
    cases hheaders : p.wire.headers with
    | nil => rfl
    | cons header rest =>
      rw [hheaders] at hle
      simpa using hle
  · cases p.wire.headers <;> simp
  · simpa using body?_eq_none_iff_of_prepare h

/-- A request that is handed out comes from a line, and its texts are counted. -/
theorem Ends.counted {argument : Option (List UInt8)} {entry : Entry} {e : Envelope}
    (h : Ends argument entry e) {texts : RequestTexts} (htexts : e.payload = .request texts) :
    ∃ line d p, Holds argument line ∧ Line.parse line = .ok d ∧ d.prepare = .ok p ∧
      texts.Counted p.wire := by
  cases h with
  | request hline hparse hprepare =>
    exact ⟨_, _, _, hline, hparse, hprepare, counted_of_prepare hprepare htexts⟩
  | _ => cases htexts

/-! ## All arguments -/

/-- What a call returns depends on the bytes before the first zero only, its status says what they
are and what becomes of them, and the other fields of the envelope fit the status. Reading alone
never fails on a line that it accepts. -/
theorem entry_answers (entry : Entry) :
    (∀ bytes other : List UInt8,
      bytes.takeWhile (· != 0) = other.takeWhile (· != 0) →
        entry.call (some bytes) = entry.call (some other)) ∧
    ∀ argument, Classified entry argument (entry.call argument) ∧
      (parse argument).status ≠ .failed ∧
      Coherent entry.tag (entry.call argument) ∧
      ∀ texts, (entry.call argument).payload = .request texts →
        ∃ line d p, Holds argument line ∧ Line.parse line = .ok d ∧ d.prepare = .ok p ∧
          texts.Counted p.wire := by
  refine ⟨?_, ?_⟩
  · intro bytes other h
    cases entry <;> simp only [Entry.call, parse, build, line?, h]
  · intro argument
    have hends := ends_call entry argument
    refine ⟨classified_call entry argument, ?_, hends.coherent, ?_⟩
    · intro hfailed
      obtain ⟨line, d, -, -, hfails⟩ := (ends_call .parse argument).exists_failure hfailed
      exact hfails
    · intro texts htexts
      exact hends.counted htexts

/-- Bytes after the first zero do not count, even if they are no text; before it they do. -/
theorem entry_answers_bytes_after_zero :
    let line := "HTTP GET | URL mailto:x"
    let bytes := Text.utf8 line.toList ++ [0, 0xFF]
    let texts : RequestTexts := ⟨.get, "mailto:x", none, 0, none⟩
    Entry.build.call (some bytes) = Entry.build.call (argument line) ∧
      (¬∃ text, Text.utf8 text = [0xFF]) ∧
      (Entry.build.call (some bytes)).payload = .request texts ∧
      ∃ d p, Line.parse line = .ok d ∧ d.prepare = .ok p ∧ texts.Counted p.wire := by
  intro line bytes texts
  obtain ⟨hdepends, hanswers⟩ := entry_answers .build
  have hcall : Entry.build.call (some bytes) = Entry.build.call (argument line) :=
    hdepends _ _ (by decide +kernel)
  have hpayload : (Entry.build.call (some bytes)).payload = .request texts := by decide +kernel
  refine ⟨hcall, ?_, hpayload, ?_⟩
  · rintro ⟨text, htext⟩
    obtain ⟨other, hother, hnot⟩ :=
      (hanswers (some [0xFF])).1.notText_iff.1 (by decide +kernel)
    cases hother
    exact hnot text htext.symm
  · rw [hcall] at hpayload
    obtain ⟨line', d, p, hline, hparse, hprepare, hcounted⟩ :=
      (hanswers (argument line)).2.2.2 texts hpayload
    have hzero : '\x00' ∉ line.toList := by decide +kernel
    obtain rfl : line = line' :=
      Except.ok.inj ((holds_argument hzero).line?_eq.symm.trans hline.line?_eq)
    exact ⟨d, p, hparse, hprepare, hcounted⟩

end RequestLine.Envelope
