import RequestLine.Proofs.DescriptorText
import RequestLine.Proofs.Json.Pairs

/-!
# Descriptors that were read

A descriptor comes from a line or from a text of its own (`IsRead`). Either way its sections are
values that the reader of JSON gave, or the empty object where a section was left out, so what holds
of all decoded values holds of them: the names of objects are distinct, and no object is marked as
an embedded text.
-/

namespace RequestLine

namespace Descriptor

open Json

/-! ## Sections of a text -/

/-- A member that is read as a section has the name of that section. -/
theorem scanMember_eq_part {steps : Nat} {name : String} {text rest : List Char} {k : Keyword}
    {v : Json} (h : scanMember steps name text = some (.part k v, rest)) :
    name = partName k ∧ scanSection steps text = some (v, rest) := by
  have hpart : ∀ k', scanMember steps (partName k') text = some (.part k v, rest) →
      partName k' = partName k ∧ scanSection steps text = some (v, rest) := by
    intro k' h
    rw [scanMember_partName, Option.map_eq_some_iff] at h
    obtain ⟨found, hfound, h⟩ := h
    cases h
    exact ⟨rfl, hfound⟩
  have hother : ∀ {α : Type} {scan : Option α} {member : α → Member} {rest' : α → List Char},
      (∀ a k v, member a ≠ .part k v) →
        (scan >>= fun found => pure (member found, rest' found)) ≠ some (.part k v, rest) := by
    intro α scan member rest' hmember h
    rw [Option.bind_eq_bind, Option.bind_eq_some_iff] at h
    obtain ⟨found, -, h⟩ := h
    exact hmember found k v (Prod.mk.inj (Option.some.inj h)).1
  by_cases hheaders : name = partName .headers
  · exact hheaders ▸ hpart .headers (hheaders ▸ h)
  by_cases hquery : name = partName .query
  · exact hquery ▸ hpart .query (hquery ▸ h)
  by_cases hbody : name = partName .body
  · exact hbody ▸ hpart .body (hbody ▸ h)
  -- the member is the method, the address or one that is passed over
  simp only [partName] at hheaders hquery hbody
  rw [scanMember, if_neg hheaders, if_neg hquery, if_neg hbody] at h
  split at h
  · exact absurd h (hother (by simp))
  · split at h
    · exact absurd h (hother (by simp))
    · exact absurd h (hother (by simp))

/-- The values that members give to a section. -/
def partsOf (k : Keyword) (members : List Member) : List Json :=
  members.filterMap fun
    | .part k' v => if k' = k then some v else none
    | _ => none

theorem mem_partsOf {k : Keyword} {members : List Member} {v : Json} :
    v ∈ partsOf k members ↔ .part k v ∈ members := by
  rw [partsOf, List.mem_filterMap]
  constructor
  · rintro ⟨member, hmember, hv⟩
    split at hv
    · split at hv
      · next hk =>
        cases hv
        exact hk ▸ hmember
      · cases hv
    · cases hv
  · intro h
    exact ⟨_, h, by simp⟩

/-- A section is given once or left out: a member that is repeated is refused. -/
theorem partsOf_of_ofMembers? {members : List Member} {d : Descriptor}
    (h : ofMembers? members = some d) (k : Keyword) :
    partsOf k members = [] ∧ d.get k = .empty ∨ partsOf k members = [d.get k] := by
  have hpart : ∀ k v, (atMostOne (partsOf k members) >>= fun found =>
      pure (found.getD .empty)) = some v →
        partsOf k members = [] ∧ v = .empty ∨ partsOf k members = [v] := by
    intro k v h
    match hparts : partsOf k members, h with
    | [], h =>
      cases h
      exact .inl ⟨rfl, rfl⟩
    | [w], h =>
      cases h
      exact .inr rfl
    | _ :: _ :: _, h => cases h
  unfold ofMembers? at h
  rw [Option.bind_eq_bind, Option.bind_eq_some_iff] at h
  obtain ⟨method?, -, h⟩ := h
  split at h
  · rw [Option.bind_eq_bind, Option.bind_eq_some_iff] at h
    obtain ⟨url?, -, h⟩ := h
    split at h
    · dsimp only at h
      rw [Option.bind_eq_bind, Option.bind_eq_some_iff] at h
      obtain ⟨headers, hheaders, h⟩ := h
      rw [Option.bind_eq_bind, Option.bind_eq_some_iff] at h
      obtain ⟨query, hquery, h⟩ := h
      rw [Option.bind_eq_some_iff] at h
      obtain ⟨body, hbody, h⟩ := h
      cases h
      cases k with
      | headers => exact hpart _ _ hheaders
      | query => exact hpart _ _ hquery
      | body => exact hpart _ _ hbody
    · cases h
  · cases h

/-- A section is left out or the value of a member. -/
theorem part_of_ofMembers? {members : List Member} {d : Descriptor}
    (h : ofMembers? members = some d) (k : Keyword) :
    d.get k = .empty ∨ .part k (d.get k) ∈ members := by
  rcases partsOf_of_ofMembers? h k with ⟨-, hempty⟩ | hparts
  · exact .inl hempty
  · exact .inr (mem_partsOf.1 (by simp [hparts]))

/-- A section that is given is the one in the descriptor. -/
theorem get_of_part {members : List Member} {d : Descriptor} (h : ofMembers? members = some d)
    {k : Keyword} {v : Json} (hmem : .part k v ∈ members) : d.get k = v := by
  have hv := mem_partsOf.2 hmem
  rcases partsOf_of_ofMembers? h k with ⟨hnone, -⟩ | hparts
  · simp [hnone] at hv
  · simpa [hparts, eq_comm] using hv

/-- The place where the sections begin if only the values of a descriptor are written. -/
def sectionsAt? (steps : Nat) (text : List Char) : Option (List Char) := do
  let (_, rest) ← scanMethod steps text
  let ',' :: rest := Reader.skipSpaces rest | none
  let (_, rest) ← Reader.string steps rest
  let ',' :: rest := Reader.skipSpaces rest | none
  return rest

/-- If sections are written as values only, the headers come first. -/
theorem sections_of_scanValues {steps : Nat} {text rest : List Char} {d : Descriptor}
    (h : scanValues steps text = some (d, rest)) :
    (∀ k, d.get k = .empty) ∨ ∃ place others after, sectionsAt? steps text = some place ∧
      Reader.items (scanSection steps) steps place = some (d.headers :: others, after) ∧
      ∀ k, d.get k = .empty ∨ d.get k ∈ d.headers :: others := by
  unfold scanValues at h
  rw [Option.bind_eq_bind, Option.bind_eq_some_iff] at h
  obtain ⟨⟨method, afterMethod⟩, hmethod, h⟩ := h
  dsimp only at h
  split at h
  · next behind hcomma =>
    rw [Option.bind_eq_bind, Option.bind_eq_some_iff] at h
    obtain ⟨⟨url, afterUrl⟩, hurl, h⟩ := h
    dsimp only at h
    split at h
    · cases h
      left
      intro k
      cases k <;> rfl
    · next place hplace =>
      rw [Option.bind_eq_bind, Option.bind_eq_some_iff] at h
      obtain ⟨⟨sections, after⟩, hsections, h⟩ := h
      have hat : sectionsAt? steps text = some place := by
        rw [sectionsAt?, hmethod]
        simp only [Option.bind_eq_bind, Option.bind_some, hcomma, hurl, hplace]
        rfl
      have hshape : ∃ others, sections = d.headers :: others ∧
          ∀ k, d.get k = .empty ∨ d.get k ∈ d.headers :: others := by
        dsimp only at h
        split at h
        · cases h
          exact ⟨[], rfl, fun k => by cases k <;> simp [get]⟩
        · next headers query =>
          cases h
          exact ⟨[query], rfl, fun k => by cases k <;> simp [get]⟩
        · next headers query body =>
          cases h
          exact ⟨[query, body], rfl, fun k => by cases k <;> simp [get]⟩
        · cases h
      obtain ⟨others, rfl, hget⟩ := hshape
      exact .inr ⟨place, others, after, hat, hsections, hget⟩
    · cases h
  · cases h

/-- The two forms of a descriptor's text. -/
theorem form_of_scan {steps : Nat} {text rest : List Char} {d : Descriptor}
    (h : scan steps text = some (d, rest)) :
    (∃ behind found after, Reader.skipSpaces text = '\x7b' :: behind ∧
      Reader.objectRest (Reader.string steps) (scanMember steps) steps behind =
        some (found, after) ∧
      ofMembers? (found.map (·.2)) = some d) ∨
    ∃ behind, Reader.skipSpaces text = '[' :: behind ∧
      scanValues steps behind = some (d, rest) := by
  unfold scan at h
  split at h
  · next behind hbrace =>
    rw [Option.bind_eq_bind, Option.bind_eq_some_iff] at h
    obtain ⟨⟨found, after⟩, hfound, h⟩ := h
    rw [Option.bind_eq_bind, Option.bind_eq_some_iff] at h
    obtain ⟨d', hd, h⟩ := h
    cases h
    exact .inl ⟨behind, found, _, hbrace, hfound, hd⟩
  · next behind hbracket => exact .inr ⟨behind, hbracket, h⟩
  · cases h

/-- A section is read somewhere as the value of its member. -/
theorem scanSection_of_part {steps : Nat} {text rest : List Char} {found : List (String × Member)}
    (h : Reader.objectRest (Reader.string steps) (scanMember steps) steps text = some (found, rest))
    {k : Keyword} {v : Json} (hpart : .part k v ∈ found.map (·.2)) :
    partName k ∈ found.map Prod.fst ∧ ∃ t r, scanSection steps t = some (v, r) := by
  obtain ⟨⟨name, member⟩, hpair, rfl⟩ := List.mem_map.1 hpart
  obtain ⟨t, r, hscan⟩ := (Reader.objectRest_sound h).2.1 _ hpair
  obtain ⟨rfl, hsection⟩ := scanMember_eq_part hscan
  exact ⟨List.mem_map_of_mem hpair, t, r, hsection⟩

/-- A section of a text is left out or was read as a value. -/
theorem scanSection_of_parse? {text : List Char} {d : Descriptor} (h : parse? text = some d)
    (k : Keyword) :
    d.get k = .empty ∨ ∃ t r, scanSection text.length t = some (d.get k, r) := by
  obtain ⟨rest, hscan⟩ := Reader.exists_of_whole h
  rcases form_of_scan hscan with ⟨behind, found, after, -, hfound, hd⟩ | ⟨behind, -, hvalues⟩
  · exact (part_of_ofMembers? hd k).imp_right fun hpart => (scanSection_of_part hfound hpart).2
  · rcases sections_of_scanValues hvalues with hnone | ⟨place, others, after, -, hitems, hget⟩
    · exact .inl (hnone k)
    · exact (hget k).imp_right (Reader.items_sound hitems _)

/-! ## Where the headers are written -/

/-- The place in the text of a descriptor where its headers begin: after their name and a colon, or
as the first of its sections. -/
def headersAt? (text : List Char) : Option (List Char) :=
  match Reader.skipSpaces text with
  | '\x7b' :: rest => do
    let (places, _) ← Reader.objectRest (Reader.string text.length)
      (Reader.placeOf (scanMember text.length)) text.length rest
    places.lookup (partName .headers)
  | '[' :: rest => sectionsAt? text.length rest
  | _ => none

/-- Some member has the name of the headers, and the first one with that name is the only one. -/
theorem headers_of_members {steps : Nat} {text rest : List Char} {found : List (String × Member)}
    {d : Descriptor}
    (h : Reader.objectRest (Reader.string steps) (scanMember steps) steps text = some (found, rest))
    (hd : ofMembers? (found.map (·.2)) = some d) :
    d.headers = .empty ∨ ∃ places place r,
      Reader.objectRest (Reader.string steps) (Reader.placeOf (scanMember steps)) steps text =
        some (places, rest) ∧
      places.lookup (partName .headers) = some place ∧
      scanSection steps place = some (d.headers, r) := by
  obtain ⟨places, hplaces, hnames, hvalues⟩ := Reader.objectRest_placeOf h
  refine (part_of_ofMembers? hd .headers).imp_right fun hpart => ?_
  have hname : partName .headers ∈ places.map Prod.fst := by
    rw [hnames]
    exact (scanSection_of_part h hpart).1
  cases hlookup : places.lookup (partName .headers) with
  | none =>
    obtain ⟨q, hq, hqname⟩ := List.mem_map.1 hname
    have hother := List.lookup_eq_none_iff.1 hlookup q hq
    simp [hqname] at hother
  | some place =>
    obtain ⟨before, after, hsplit, -⟩ := List.lookup_eq_some_iff.1 hlookup
    obtain ⟨m, s, hm, hscan⟩ := hvalues (partName .headers, place) (by simp [hsplit])
    rw [scanMember_partName, Option.map_eq_some_iff] at hscan
    obtain ⟨⟨v, s⟩, hsection, hfound⟩ := hscan
    cases hfound
    have hget : d.headers = v := get_of_part hd (List.mem_map_of_mem hm)
    exact ⟨places, place, s, hplaces, hlookup, hget ▸ hsection⟩

/-- The headers of a text are left out or read at their place. -/
theorem headers_of_parse? {text : List Char} {d : Descriptor} (h : parse? text = some d) :
    d.headers = .empty ∨ ∃ place r, headersAt? text = some place ∧
      scanSection text.length place = some (d.headers, r) := by
  obtain ⟨rest, hscan⟩ := Reader.exists_of_whole h
  unfold headersAt?
  rcases form_of_scan hscan with ⟨behind, found, after, hbrace, hfound, hd⟩ | ⟨behind, hbracket, h⟩
  · refine (headers_of_members hfound hd).imp_right ?_
    rintro ⟨places, place, r, hplaces, hplace, hsection⟩
    refine ⟨place, r, ?_, hsection⟩
    simp only [hbrace, hplaces, Option.bind_eq_bind, Option.bind_some, hplace]
  · simp only [hbracket]
    rcases sections_of_scanValues h with hnone | ⟨place, others, after, hplace, hitems, -⟩
    · exact .inl (hnone .headers)
    · obtain ⟨r, hr⟩ := Reader.items_head hitems
      exact .inr ⟨place, r, hplace, hr⟩

/-! ## Lines and texts -/

/-- A descriptor comes from a line or from a text of its own. -/
def IsRead (d : Descriptor) : Prop :=
  (∃ line, Line.parse line = .ok d) ∨ ∃ text, parse? text = some d

/-- What holds of the empty object and of all decoded values holds of the sections. -/
theorem IsRead.of_decoded {d : Descriptor} (h : d.IsRead) {P : Json → Prop} (hempty : P .empty)
    (hP : ∀ (embedded : List Char → Option Json) (steps depth : Nat) (v : Json),
      Reader.Decoded embedded steps depth v → (∀ text w, embedded text = some w → P w) → P v)
    (k : Keyword) : P (d.get k) := by
  have hparse : ∀ text v, Json.parse? text = some v → P v := fun text v hv =>
    of_parse? (fun embedded steps v => hP embedded steps _ v) hv
  rcases h with ⟨line, h⟩ | ⟨text, h⟩
  · obtain ⟨m, u, parts, hgrammar⟩ := Line.Grammar.of_parse h
    rcases hgrammar.section_cases k with ⟨text, -, hvalue⟩ | ⟨-, hnone⟩
    · exact hparse _ _ hvalue
    · rw [hnone]
      exact hempty
  · rcases scanSection_of_parse? h k with hget | ⟨t, r, hscan⟩
    · rw [hget]
      exact hempty
    · exact hP _ _ _ _ (Reader.decoded_of_value hscan) hparse

/-- No section of a descriptor that was read has a name twice in an object. -/
theorem IsRead.everywhere_distinct {d : Descriptor} (h : d.IsRead) (k : Keyword) :
    Everywhere Distinct (d.get k) :=
  h.of_decoded (by simp [Json.empty, Distinct])
    (fun _ _ _ _ hdecoded hembedded => hdecoded.everywhere_distinct hembedded) k

/-- No section of a descriptor that was read holds the mark of an embedded text. -/
theorem IsRead.everywhere_unmarked {d : Descriptor} (h : d.IsRead) (k : Keyword) :
    Everywhere Unmarked (d.get k) :=
  h.of_decoded (by simp [Json.empty, Unmarked])
    (fun _ _ _ _ hdecoded hembedded => hdecoded.everywhere_unmarked hembedded) k

/-- Sections with integers only can be written and read back. -/
theorem IsRead.everywhere_plain {d : Descriptor} (h : d.IsRead)
    (hintegral : ∀ k, Everywhere Integral (d.get k)) (k : Keyword) : Everywhere Plain (d.get k) :=
  fun w hw => ⟨hintegral k w hw, h.everywhere_distinct k w hw, h.everywhere_unmarked k w hw⟩

end Descriptor

end RequestLine
