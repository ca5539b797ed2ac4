import RequestLine.Proofs.Asking
import RequestLine.Proofs.ReadDescriptors

/-!
# What a report says

A report repeats what was asked and what came back. It is written as JSON, two levels around the
sections and the content of the answer, so its text is read back exactly if each of these leaves the
reader two levels (`depth_toJson_le_iff`), and what is read is the report with all its members
(`Echoes`).
-/

namespace RequestLine

open Json

/-! ## Answers and times -/

theorem Timing.toNat_duration (t : Timing) :
    t.duration.toNat = t.stop.toNat - t.start.toNat := by
  unfold Timing.duration
  split
  · next hback =>
    rw [UInt64.lt_iff_toNat_lt] at hback
    rw [Nat.sub_eq_zero_of_le hback.le]
    rfl
  · next hforth =>
    rw [UInt64.not_lt] at hforth
    exact UInt64.toNat_sub_of_le _ _ hforth

/-- What an answer with some body is taken to say. -/
def Answer.Says (a : Answer) (data : Json) : Prop :=
  a.body = "" ∧ data = .null ∨
    a.body ≠ "" ∧ (Json.parse? a.body.toList = some data ∨
      Json.parse? a.body.toList = none ∧ data = .string a.body)

theorem Answer.says_data (a : Answer) : a.Says a.data := by
  unfold Answer.data
  by_cases hempty : a.body = ""
  · exact .inl ⟨hempty, by simp [hempty]⟩
  · refine .inr ⟨hempty, ?_⟩
    rw [if_neg (by simpa using hempty)]
    cases hparse : Json.parse? a.body.toList with
    | none => exact .inr ⟨rfl, rfl⟩
    | some w => exact .inl rfl

/-- Whatever the body of an answer is, its content can be written and read back if the numbers in it
are integers. -/
theorem Answer.everywhere_plain_data {a : Answer} (h : Everywhere Integral a.data) :
    Everywhere Plain a.data := by
  rcases a.says_data with ⟨-, hdata⟩ | ⟨-, hparse | ⟨-, hdata⟩⟩
  · rw [hdata]
    exact everywhere_null.2 ⟨trivial, trivial, trivial⟩
  · exact fun w hw => ⟨h w hw, distinct_of_parse? hparse w hw, unmarked_of_parse? hparse w hw⟩
  · rw [hdata]
    exact everywhere_string.2 (plain_string _)

namespace Report

/-! ## The text of a report -/

theorem everywhere_plain_toJson {r : Report} (hquery : Everywhere Plain r.query)
    (hbody : Everywhere Plain r.body) (hheaders : Everywhere Plain r.headers)
    (hdata : Everywhere Plain r.data) : Everywhere Plain r.toJson := by
  have hnumber : ∀ n : UInt64, Everywhere Plain (.ofUInt64 n) := fun n =>
    everywhere_number.2 ⟨trivial, trivial, trivial⟩
  simp [toJson, plain_object_iff, hquery, hbody, hheaders, hdata, hnumber, Reader.embeddingName]

/-- The sections stand two levels inside a report, so a report can be read back exactly if they
leave these two levels free. -/
theorem depth_toJson_le_iff (r : Report) :
    r.toJson.depth ≤ 127 ↔
      r.query.depth ≤ 125 ∧ r.body.depth ≤ 125 ∧ r.headers.depth ≤ 125 ∧ r.data.depth ≤ 125 := by
  have hnumber : ∀ n : UInt64, (Json.ofUInt64 n).depth = 0 := fun n => by
    simp [Json.ofUInt64, Json.depth]
  have hstring : (Json.string r.fullUrl).depth = 0 := by simp [Json.depth]
  rw [toJson, depth_object_le_iff (n := 126)]
  simp only [List.forall_mem_cons, List.not_mem_nil, IsEmpty.forall_iff, implies_true,
    depth_object_le_iff (n := 125), hnumber, hstring, Nat.zero_le, true_and, and_true, and_assoc]

/-! ## What is read back -/

/-- The value that is reached from another one by the names of members. -/
def reach? (path : List String) (v : Json) : Option Json :=
  path.foldlM (fun w name => w.member? name) v

/-- A place of a value holds a number. -/
def Counts (v : Json) (path : List String) (n : Nat) : Prop :=
  ∃ range, reach? path v = some (.number (.integer n range))

/-- A value has all that is to be reported on a request and its answer. -/
structure Echoes (d : Descriptor) (p : Prepared) (a : Answer) (t : Timing) (v : Json) : Prop where
  query : reach? ["request", "query"] v = some d.query
  body : reach? ["request", "body"] v = some d.body
  headers : reach? ["request", "headers"] v = some d.headers
  full_url : reach? ["request", "full_url"] v = some (.string p.wire.url.render)
  http_status : Counts v ["response", "http_status"] a.status.toNat
  start : Counts v ["response", "request_start_timestamp"] t.start.toNat
  stop : Counts v ["response", "request_stop_timestamp"] t.stop.toNat
  /-- A clock that was set back gives no time at all. -/
  duration : Counts v ["response", "duration"] (t.stop.toNat - t.start.toNat)
  data : ∃ data, reach? ["response", "response_data"] v = some data ∧ a.Says data

/-- The report on an answer. -/
structure Reported (d : Descriptor) (p : Prepared) (a : Answer) (t : Timing) (r : Report) :
    Prop where
  readable_iff : (∃ v, Json.parse? r.toJson.render.toList = some v) ↔
    d.query.depth ≤ 125 ∧ d.body.depth ≤ 125 ∧ d.headers.depth ≤ 125 ∧ a.data.depth ≤ 125
  echoes : ∀ v, Json.parse? r.toJson.render.toList = some v → Echoes d p a t v

theorem counts_ofUInt64 {v : Json} {path : List String} {n : UInt64}
    (h : reach? path v = some (.ofUInt64 n)) : Counts v path n.toNat :=
  ⟨_, h⟩

theorem make_eq_error_iff {p : Prepared} {a : Answer} {t : Timing} {failure : Failure} :
    make p a t = .error failure ↔
      ¬Service.Succeeds a.status ∧ failure = .badStatus a.status a.body := by
  rw [← Service.isSuccess_iff, make]
  split
  · next hsuccess => simp [hsuccess]
  · next hsuccess => simp [hsuccess, eq_comm]

theorem eq_of_make {p : Prepared} {a : Answer} {t : Timing} {r : Report}
    (h : make p a t = .ok r) : r = ⟨p.descriptor.query, p.descriptor.body, p.descriptor.headers,
      p.fullUrl, a.status, t, a.data⟩ := by
  unfold make at h
  split at h
  · exact (Except.ok.inj h).symm
  · cases h

/-- A report has in it what was asked for and what was answered. -/
theorem echoes_toJson {p : Prepared} {a : Answer} {t : Timing} {r : Report}
    (h : make p a t = .ok r) : Echoes p.descriptor p a t r.toJson := by
  obtain rfl := eq_of_make h
  refine ⟨rfl, rfl, rfl, rfl, ?_, counts_ofUInt64 rfl, counts_ofUInt64 rfl, ?_, ?_⟩
  · rw [← UInt16.toNat_toUInt64]
    exact counts_ofUInt64 rfl
  · rw [← Timing.toNat_duration]
    exact counts_ofUInt64 rfl
  · exact ⟨_, rfl, a.says_data⟩

theorem reported_of_make {p : Prepared} {a : Answer} {t : Timing} {r : Report}
    (h : make p a t = .ok r) (hsections : ∀ k, Everywhere Plain (p.descriptor.get k))
    (hdata : Everywhere Integral a.data) : Reported p.descriptor p a t r := by
  have hplain : Everywhere Plain r.toJson := by
    obtain rfl := eq_of_make h
    exact everywhere_plain_toJson (hsections .query) (hsections .body) (hsections .headers)
      (Answer.everywhere_plain_data hdata)
  have hread : Json.parse? r.toJson.render.toList =
      if r.toJson.depth ≤ 127 then some r.toJson else none := by
    rw [render, String.toList_ofList]
    exact parse?_chars_eq_ite hplain
  by_cases hdepth : r.toJson.depth ≤ 127
  · rw [if_pos hdepth] at hread
    refine ⟨⟨fun _ => ?_, fun _ => ⟨_, hread⟩⟩, fun v hv => ?_⟩
    · rw [depth_toJson_le_iff, eq_of_make h] at hdepth
      exact hdepth
    · obtain rfl := Option.some.inj (hread.symm.trans hv)
      exact echoes_toJson h
  · rw [if_neg hdepth] at hread
    refine ⟨⟨?_, fun hfits => ?_⟩, fun v hv => ?_⟩
    · rintro ⟨v, hv⟩
      cases hread.symm.trans hv
    · rw [depth_toJson_le_iff, eq_of_make h] at hdepth
      exact absurd hfits hdepth
    · cases hread.symm.trans hv

/-- What comes of an answer to a request that was built from a line or a text. -/
theorem reported_of_isRead {d : Descriptor} {p : Prepared} (hread : d.IsRead)
    (hprepare : d.prepare = .ok p) (a : Answer) (t : Timing) :
    (∀ failure, make p a t = .error failure ↔
      ¬Service.Succeeds a.status ∧ failure = .badStatus a.status a.body) ∧
    (Service.Succeeds a.status → ∃ r, make p a t = .ok r ∧
      ((∀ k, Everywhere Integral (d.get k)) → Everywhere Integral a.data →
        Reported d p a t r)) := by
  refine ⟨fun failure => make_eq_error_iff, fun hsuccess => ?_⟩
  cases hmake : make p a t with
  | error failure => exact absurd hsuccess (make_eq_error_iff.1 hmake).1
  | ok r =>
    refine ⟨r, rfl, fun hintegral hdata => ?_⟩
    obtain ⟨url, query, headers, -, -, -, rfl⟩ := Descriptor.prepare_eq_ok_iff.1 hprepare
    exact reported_of_make hmake (hread.everywhere_plain hintegral) hdata

/-- An answer that came before the request was sent, with a text as its body. -/
theorem reported_of_isRead_clock_set_back :
    let a : Answer := ⟨204, "[1,"⟩
    let t : Timing := ⟨9, 4⟩
    ∃ d p r v, Line.parse "HTTP GET | URL http://[::1]/ | QUERY \x7b\"q\":[7]\x7d" = .ok d ∧
      d.prepare = .ok p ∧ make p a t = .ok r ∧ Json.parse? r.toJson.render.toList = some v ∧
      reach? ["request", "full_url"] v = some (.string "http://[::1]/?q=%5B7%5D") ∧
      reach? ["response", "duration"] v = some (.ofUInt64 0) ∧
      reach? ["response", "response_data"] v = some (.string "[1,") := by
  intro a t
  let d : Descriptor :=
    ⟨.get, "http://[::1]/", .empty, .object [("q", .array [.ofUInt64 7])], .empty⟩
  have hparse :
      Line.parse "HTTP GET | URL http://[::1]/ | QUERY \x7b\"q\":[7]\x7d" = .ok d := rfl
  have hrender : (Url.loopback.withPairs (plainPairs [("q", .array [.ofUInt64 7])])).render =
      "http://[::1]/?q=%5B7%5D" := by decide +kernel
  have hprepare := (Descriptor.prepare_eq_ok_iff (d := d)).2
    ⟨_, _, [], Url.parse_loopback, rfl, rfl, rfl⟩
  obtain ⟨-, hmake⟩ := reported_of_isRead (.inl ⟨_, hparse⟩) hprepare a t
  have hsuccess : Service.Succeeds a.status := ⟨by decide, by decide⟩
  obtain ⟨r, hr, hreported⟩ := hmake hsuccess
  have htext : Json.parse? "[1,".toList = none := rfl
  have hsays : ∀ data, a.Says data → data = .string "[1," := by
    rintro data (⟨hempty, -⟩ | ⟨-, hsome | ⟨-, rfl⟩⟩)
    · exact absurd hempty (by decide)
    · cases htext.symm.trans hsome
    · rfl
  have hdata := hsays _ a.says_data
  have hintegral : ∀ k, Everywhere Integral (d.get k) := by
    intro k
    cases k <;> simp [d, Descriptor.get, Json.empty, Json.ofUInt64, Number.ofUInt64, Integral]
  obtain ⟨hreadable, hechoes⟩ := hreported hintegral (by simp [hdata, Integral])
  obtain ⟨v, hv⟩ := hreadable.2
    (by simp [d, hdata, Json.empty, Json.ofUInt64, Json.depth])
  obtain ⟨range, hduration⟩ := (hechoes v hv).duration
  obtain ⟨data, hreach, hdata⟩ := (hechoes v hv).data
  refine ⟨d, _, r, v, hparse, hprepare, hr, hv, ?_, hduration, ?_⟩
  · exact hrender ▸ (hechoes v hv).full_url
  · rw [hreach, hsays data hdata]

end Report

end RequestLine
