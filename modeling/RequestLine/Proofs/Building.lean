import RequestLine.Proofs.Json.Pairs
import RequestLine.Proofs.Preparing
import RequestLine.Proofs.ReadDescriptors

/-!
# What is built from a descriptor

For a descriptor that was read, everything about the request that is built from it is said in one
place (`Prepares`): when there is none and why, what it has of the descriptor (`Built`), and what of
it depends on the body section. Its headers have distinct names, because those of the section do and
a header is added only if its name is not there in any spelling.
-/

namespace RequestLine

/-- Names that differ at most in the case of ASCII letters. -/
def SameName (a b : String) : Prop :=
  a.toList.map Char.toLower = b.toList.map Char.toLower

instance (a b : String) : Decidable (SameName a b) :=
  inferInstanceAs (Decidable (a.toList.map Char.toLower = b.toList.map Char.toLower))

/-- The check compares names without regard to the case of letters. -/
theorem namesContentType_iff {header : String × String} :
    namesContentType header = true ↔ SameName header.1 "content-type" := by
  have hlower : "content-type".toList.map Char.toLower = "content-type".toList := by decide
  rw [namesContentType, SameName, hlower, beq_iff_eq]

namespace Descriptor

/-! ## Headers -/

section

variable {members : List (String × Json)}

theorem any_namesContentType_iff :
    (plainPairs members).any namesContentType = true ↔
      ∃ m ∈ members, SameName m.1 "content-type" := by
  simp [plainPairs, namesContentType_iff]

/-- The headers are those that were described, and one more for a `POST` that does not say what its
content is. -/
theorem allHeaders_eq (method : Method) :
    allHeaders method (plainPairs members) = plainPairs members ++
      if method = .post ∧ ¬∃ m ∈ members, SameName m.1 "content-type" then
        [("content-type", "application/json")]
      else [] := by
  cases method with
  | get => simp [allHeaders]
  | post =>
    by_cases hgiven : ∃ m ∈ members, SameName m.1 "content-type"
    · rw [allHeaders, if_pos (any_namesContentType_iff.2 hgiven)]
      simp [hgiven]
    · rw [allHeaders, if_neg (mt any_namesContentType_iff.1 hgiven)]
      simp [hgiven, jsonContent]

theorem map_fst_plainPairs : (plainPairs members).map Prod.fst = members.map Prod.fst := by
  simp [plainPairs, Function.comp_def]

/-- The header that is added has a name that was not there before. -/
theorem nodup_allHeaders (h : (members.map Prod.fst).Nodup) (method : Method) :
    ((allHeaders method (plainPairs members)).map Prod.fst).Nodup := by
  rw [allHeaders_eq, List.map_append, map_fst_plainPairs]
  split
  · next hadded =>
    rw [List.nodup_append]
    refine ⟨h, by simp, ?_⟩
    rintro a ha b hb rfl
    obtain ⟨m, hm, rfl⟩ := List.mem_map.1 ha
    obtain hname : m.1 = "content-type" := by simpa using hb
    exact hadded.2 ⟨m, hm, by rw [hname]; rfl⟩
  · simpa using h

/-- Every `POST` says what its content is. -/
theorem exists_contentType :
    ∃ header ∈ allHeaders .post (plainPairs members), SameName header.1 "content-type" := by
  by_cases hgiven : ∃ m ∈ members, SameName m.1 "content-type"
  · obtain ⟨m, hm, hname⟩ := hgiven
    refine ⟨(m.1, m.2.plainText), ?_, hname⟩
    rw [allHeaders_eq]
    exact List.mem_append_left _ (List.mem_map_of_mem hm)
  · refine ⟨("content-type", "application/json"), ?_, rfl⟩
    rw [allHeaders_eq, if_pos ⟨rfl, hgiven⟩]
    simp

end

/-! ## Requests -/

/-- What a built request has of its descriptor, whose headers section has the given members. -/
structure Built (d : Descriptor) (members : List (String × Json)) (p : Prepared) : Prop where
  descriptor_eq : p.descriptor = d
  method_eq : p.wire.method = d.method
  /-- The type of the content is named once more only if nothing names it. -/
  headers_eq : p.wire.headers = plainPairs members ++
    if d.method = .post ∧ ¬∃ m ∈ members, SameName m.1 "content-type" then
      [("content-type", "application/json")]
    else []
  names_distinct : (p.wire.headers.map Prod.fst).Nodup
  contentType : d.method = .post → ∃ header ∈ p.wire.headers, SameName header.1 "content-type"
  body_of_get : d.method = .get → p.wire.body? = none
  body_of_post : d.method = .post → p.wire.body? = some d.body.render

/-- The pairs of the object that is written at a place of a descriptor's text. -/
def pairsAt (steps : Nat) (place : List Char) : Option (List (String × Json)) :=
  Json.Reader.nextPairs Json.pairs? Json.parse? steps (Json.Reader.maxDepth - 2) place

/-- All that is to be said about building a request from a descriptor. -/
structure Prepares (d : Descriptor) : Prop where
  badUrl_iff : ∀ url cause, d.prepare = .error (.badUrl url cause) ↔
    Url.parse d.url = .error cause ∧ url = d.url
  notObject_iff : ∀ k found, d.prepare = .error (.notObject k found) ↔
    (∃ url, Url.parse d.url = .ok url) ∧
      (k = .query ∧ d.query.kind ≠ .object ∧ found = d.query.kind ∨
        k = .headers ∧ d.query.kind = .object ∧ d.headers.kind ≠ .object ∧ found = d.headers.kind)
  built_iff : (∃ p, d.prepare = .ok p) ↔ (∃ url, Url.parse d.url = .ok url) ∧
    d.query.kind = .object ∧ d.headers.kind = .object
  built : ∀ p, d.prepare = .ok p → ∃ members, d.headers = .object members ∧ Built d members p
  written_in_line : ∀ line m u parts text members, Line.Grammar line d m u parts →
    (.headers, text) ∈ parts → d.headers = .object members →
      ∃ pairs, Json.pairs? (Text.trim text) = some pairs ∧ Json.Writes pairs members
  written_in_text : ∀ text members, parse? text = some d → d.headers = .object members →
    members = [] ∨ ∃ place pairs, headersAt? text = some place ∧
      pairsAt text.length place = some pairs ∧ Json.Writes pairs members
  /-- With another body a `GET` is the same request. -/
  body_of_get : d.method = .get → ∀ body, (d.withSection .body body).prepare.map (·.wire) =
    d.prepare.map (·.wire)
  /-- With another body a `POST` has the text of that body, and all else is the same. -/
  body_of_post : d.method = .post → ∀ body, (d.withSection .body body).prepare.map (·.wire) =
    d.prepare.map fun p => { p.wire with body? := some body.render }

/-- What is built from a descriptor that was read is built from the members of its headers. -/
theorem built_of_prepare {d : Descriptor} (hread : d.IsRead) {p : Prepared}
    (h : d.prepare = .ok p) : ∃ members, d.headers = .object members ∧ Built d members p := by
  obtain ⟨url, query, members, -, -, hheaders, rfl⟩ := prepare_eq_ok_iff.1 h
  have hdistinct : (members.map Prod.fst).Nodup := by
    have hself := (hread.everywhere_distinct .headers).self
    rwa [get, hheaders] at hself
  refine ⟨members, hheaders, rfl, rfl, allHeaders_eq d.method, nodup_allHeaders hdistinct d.method,
    ?_, ?_, ?_⟩
  · intro hpost
    simp only [hpost]
    exact exists_contentType
  · intro hget
    simp only [content, hget]
  · intro hpost
    simp only [content, hpost]

/-- The headers of a line are what the pairs of its section leave. -/
theorem headers_written_in_line {line : List Char} {d : Descriptor} {m u : List Char}
    {parts : List (Keyword × List Char)} (h : Line.Grammar line d m u parts) {text : List Char}
    (htext : (.headers, text) ∈ parts) {members : List (String × Json)}
    (hmembers : d.headers = .object members) :
    ∃ pairs, Json.pairs? (Text.trim text) = some pairs ∧ Json.Writes pairs members := by
  have hvalue := h.values _ htext
  simp only [get, hmembers] at hvalue
  obtain ⟨pairs, hpairs, rfl⟩ := Json.exists_pairs? hvalue
  exact ⟨pairs, hpairs, Json.writes_membersOf pairs⟩

/-- The headers of a text are empty or what the pairs at their place leave. -/
theorem headers_written_in_text {text : List Char} {d : Descriptor} (h : parse? text = some d)
    {members : List (String × Json)} (hmembers : d.headers = .object members) :
    members = [] ∨ ∃ place pairs, headersAt? text = some place ∧
      pairsAt text.length place = some pairs ∧ Json.Writes pairs members := by
  rcases headers_of_parse? h with hempty | ⟨place, r, hplace, hsection⟩
  · exact .inl (Json.object.inj (hmembers.symm.trans hempty))
  · rw [hmembers] at hsection
    obtain ⟨pairs, hpairs, rfl⟩ := Json.Reader.exists_nextPairs
      (fun _ _ => Json.exists_pairs?) hsection
    exact .inr ⟨place, pairs, hplace, hpairs, Json.writes_membersOf pairs⟩

/-- The body section is looked at only for the content of a `POST`. -/
theorem prepare_withSection_body (d : Descriptor) (body : Json) :
    (d.withSection .body body).prepare.map (·.wire) =
      d.prepare.map fun p => { p.wire with body? := (d.withSection .body body).content } := by
  have hpairs : ∀ k, k ≠ .body → (d.withSection .body body).pairs k = d.pairs k := by
    intro k hk
    cases k with
    | headers => rfl
    | query => rfl
    | body => exact absurd rfl hk
  have hurl : (d.withSection .body body).url = d.url := rfl
  rw [prepare, prepare, hurl, hpairs .query nofun, hpairs .headers nofun]
  cases Url.parse d.url with
  | error cause => rfl
  | ok url =>
    cases d.pairs .query with
    | error failure => rfl
    | ok query =>
      cases d.pairs .headers with
      | error failure => rfl
      | ok headers => rfl

theorem content_withSection_body (d : Descriptor) (body : Json) :
    (d.withSection .body body).content = if d.method = .post then some body.render else none := by
  unfold content withSection
  cases d.method <;> rfl

/-- From every descriptor that was read a request is built, or there is the first failure that
applies: the address, then the query, then the headers. What is built has the headers as they were
written, a content type for every `POST`, and the body of a `POST` only. -/
theorem prepares_of_isRead {d : Descriptor} (h : d.IsRead) : Prepares d where
  badUrl_iff url cause := by
    rw [prepare_eq_error_iff]
    constructor
    · rintro (⟨cause', hcause, hfailure⟩ | ⟨-, ⟨-, hfailure⟩ | ⟨-, -, hfailure⟩⟩)
      · cases hfailure
        exact ⟨hcause, rfl⟩
      · cases hfailure
      · cases hfailure
    · rintro ⟨hcause, rfl⟩
      exact .inl ⟨cause, hcause, rfl⟩
  notObject_iff k found := by
    rw [prepare_eq_error_iff]
    constructor
    · rintro (⟨cause, -, hfailure⟩ | ⟨hurl, ⟨hquery, hfailure⟩ | ⟨hquery, hheaders, hfailure⟩⟩)
      · cases hfailure
      · cases hfailure
        exact ⟨hurl, .inl ⟨rfl, hquery, rfl⟩⟩
      · cases hfailure
        exact ⟨hurl, .inr ⟨rfl, hquery, hheaders, rfl⟩⟩
    · rintro ⟨hurl, ⟨rfl, hquery, rfl⟩ | ⟨rfl, hquery, hheaders, rfl⟩⟩
      · exact .inr ⟨hurl, .inl ⟨hquery, rfl⟩⟩
      · exact .inr ⟨hurl, .inr ⟨hquery, hheaders, rfl⟩⟩
  built_iff := by
    simp only [prepare_eq_ok_iff, Json.kind_eq_object_iff]
    constructor
    · rintro ⟨p, url, query, headers, hurl, hquery, hheaders, -⟩
      exact ⟨⟨url, hurl⟩, ⟨query, hquery⟩, ⟨headers, hheaders⟩⟩
    · rintro ⟨⟨url, hurl⟩, ⟨query, hquery⟩, ⟨headers, hheaders⟩⟩
      exact ⟨_, url, query, headers, hurl, hquery, hheaders, rfl⟩
  built p := built_of_prepare h
  written_in_line _ _ _ _ _ _ hgrammar htext := headers_written_in_line hgrammar htext
  written_in_text _ _ hparse := headers_written_in_text hparse
  body_of_get hget body := by
    have hcontent : (d.withSection .body body).content = d.content := by
      rw [content_withSection_body, content, hget]
      rfl
    rw [prepare_withSection_body, hcontent]
    cases hprepare : d.prepare with
    | error failure => rfl
    | ok p =>
      obtain ⟨url, query, headers, -, -, -, rfl⟩ := prepare_eq_ok_iff.1 hprepare
      rfl
  body_of_post hpost body := by
    rw [prepare_withSection_body, content_withSection_body, if_pos hpost]

/-- A header that is written twice, and none that names the type of the content. -/
theorem prepares_of_isRead_repeated_header :
    ∃ d p,
      Line.parse "HTTP POST | URL http://[::1]/ | HEADERS \x7b\"b\":1,\"a\":2,\"b\":3\x7d" = .ok d ∧
      d.IsRead ∧ d.prepare = .ok p ∧
      p.wire.headers = [("b", "3"), ("a", "2"), ("content-type", "application/json")] ∧
      p.wire.body? = some "\x7b\x7d" := by
  let members : List (String × Json) := [("b", .ofUInt64 3), ("a", .ofUInt64 2)]
  let d : Descriptor := ⟨.post, "http://[::1]/", .object members, .empty, .empty⟩
  have hparse :
      Line.parse "HTTP POST | URL http://[::1]/ | HEADERS \x7b\"b\":1,\"a\":2,\"b\":3\x7d" =
        .ok d := rfl
  have hread : d.IsRead := .inl ⟨_, hparse⟩
  have hprepares := prepares_of_isRead hread
  obtain ⟨p, hp⟩ := hprepares.built_iff.2 ⟨⟨_, Url.parse_loopback⟩, rfl, rfl⟩
  obtain ⟨members', hmembers, hbuilt⟩ := hprepares.built p hp
  obtain rfl : members = members' := Json.object.inj hmembers
  refine ⟨d, p, hparse, hread, hp, ?_, ?_⟩
  · rw [hbuilt.headers_eq]
    decide
  · rw [hbuilt.body_of_post rfl]
    rfl

end Descriptor

end RequestLine
