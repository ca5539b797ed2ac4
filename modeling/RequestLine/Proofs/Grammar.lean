import RequestLine.Proofs.Reading

/-!
# The grammar of request lines

Reading counts pipes and delimiters, cuts the line, looks at fixed places and keeps a list of the
keywords that it has met. None of this is visible in the grammar, which only says how a line is put
together and what it then describes (`Grammar`). A line is accepted exactly if the grammar has it,
and with the descriptor that the grammar gives (`parse_eq_ok_iff_grammar`).
-/

namespace RequestLine.Line

/-- The line describes `d`: it is made of `HTTP` with the text `m`, of `URL` with the text `u` and
of the keyword sections `parts`, each with the text of its literal. -/
structure Grammar (line : List Char) (d : Descriptor) (m u : List Char)
    (parts : List (Keyword × List Char)) : Prop where
  line_eq : line = (httpMark ++ m) ++ delimiter ++ (urlMark ++ u) ++
    parts.flatMap fun part => delimiter ++ (part.1.name.toList ++ ' ' :: part.2)
  method_pipeless : '|' ∉ m
  url_pipeless : '|' ∉ u
  parts_pipeless : ∀ part ∈ parts, '|' ∉ part.2
  /-- There are no two spaces in a row, not even inside a literal. -/
  single_spaced : ¬[' ', ' '] <:+: line
  method_eq : Text.trim m = d.method.name.toList
  url_eq : Text.trim u = d.url.toList
  keywords_distinct : (parts.map Prod.fst).Nodup
  values : ∀ part ∈ parts, Json.parse? (Text.trim part.2) = some (d.get part.1)
  /-- A section that the line leaves out is the empty object. -/
  defaults : ∀ k ∉ parts.map Prod.fst, d.get k = .empty

namespace Grammar

variable {line : List Char} {d : Descriptor} {m u : List Char}
  {parts : List (Keyword × List Char)}

/-- The sections of a line of the grammar. -/
def sections (m u : List Char) (parts : List (Keyword × List Char)) : Sections where
  method := httpMark ++ m
  url := urlMark ++ u
  others := parts.map partText

theorem join_sections (m u : List Char) (parts : List (Keyword × List Char)) :
    join (sections m u parts).all = (httpMark ++ m) ++ delimiter ++ (urlMark ++ u) ++
      parts.flatMap fun part => delimiter ++ (part.1.name.toList ++ ' ' :: part.2) := by
  unfold Sections.all sections
  rw [join_eq_append_flatMap, List.flatMap_cons, List.flatMap_map, ← List.append_assoc,
    ← List.append_assoc]
  rfl

theorem pipe_not_mem_partText {part : Keyword × List Char} :
    '|' ∉ partText part ↔ '|' ∉ part.2 := by
  simp [partText, part.1.pipe_not_mem_name]

/-- Only the method, the address and the values can bring a pipe into a section. -/
theorem pipeless_sections :
    (∀ t ∈ (sections m u parts).all, '|' ∉ t) ↔
      '|' ∉ m ∧ '|' ∉ u ∧ ∀ part ∈ parts, '|' ∉ part.2 := by
  have hmethod : '|' ∉ httpMark ++ m ↔ '|' ∉ m := by simp [httpMark]
  have hurl : '|' ∉ urlMark ++ u ↔ '|' ∉ u := by simp [urlMark]
  simp only [Sections.all, sections, List.forall_mem_cons, List.forall_mem_map,
    pipe_not_mem_partText, hmethod, hurl]

/-- A line of the grammar is what its sections make up. -/
theorem eq_join (h : Grammar line d m u parts) : line = join (sections m u parts).all := by
  rw [h.line_eq, join_sections]

theorem url_isInfix (h : Grammar line d m u parts) : u <:+: line := by
  rw [h.eq_join]
  exact (List.suffix_append urlMark u).isInfix.trans (infix_join (by simp [Sections.all, sections]))

/-- The value of a section stands in the line as it is. -/
theorem part_isInfix (h : Grammar line d m u parts) {part : Keyword × List Char}
    (hpart : part ∈ parts) : part.2 <:+: line := by
  have hmem : partText part ∈ (sections m u parts).all :=
    List.mem_cons_of_mem _ (List.mem_cons_of_mem _ (List.mem_map_of_mem hpart))
  have hsuffix : part.2 <:+ partText part := ⟨part.1.name.toList ++ [' '], by simp [partText]⟩
  rw [h.eq_join]
  exact hsuffix.isInfix.trans (infix_join hmem)

/-- A section is written in the line or left out. -/
theorem section_cases (h : Grammar line d m u parts) (k : Keyword) :
    (∃ text, (k, text) ∈ parts ∧ Json.parse? (Text.trim text) = some (d.get k)) ∨
      k ∉ parts.map Prod.fst ∧ d.get k = .empty := by
  by_cases hk : k ∈ parts.map Prod.fst
  · obtain ⟨⟨k, text⟩, hpart, rfl⟩ := List.mem_map.1 hk
    exact .inl ⟨text, hpart, h.values (k, text) hpart⟩
  · exact .inr ⟨hk, h.defaults k hk⟩

/-- The keyword sections of a line of the grammar fill a descriptor that has only a method and an
address. -/
theorem fills (h : Grammar line d m u parts) :
    Fills { descriptor := { method := d.method, url := d.url } } parts
      ⟨d, (parts.map (·.1.name.toList)).reverse⟩ where
  distinct := h.keywords_distinct
  fresh := by simp
  read := h.values
  kept := by
    intro k hk
    rw [h.defaults k hk]
    cases k <;> rfl
  method_eq := rfl
  url_eq := rfl
  seen_eq := by simp

/-- Every line of the grammar is accepted. -/
theorem describe_eq (h : Grammar line d m u parts) :
    sections? line = .ok (sections m u parts) ∧
      describe line (sections m u parts) = .ok d := by
  have hpipes := pipeless_sections.2 ⟨h.method_pipeless, h.url_pipeless, h.parts_pipeless⟩
  have hopening : opening line (sections m u parts) = .ok { method := d.method, url := d.url } := by
    refine opening_eq_ok_iff.2 ⟨m, u, rfl, rfl, ?_, h.method_eq, ?_⟩
    · rw [hasDoubleSpace_iff]
      exact h.single_spaced
    · rw [h.url_eq, String.ofList_toList]
  have hfold := foldlM_add_eq_ok_iff.2 ⟨parts, rfl, h.fills⟩
  refine ⟨sections?_eq_ok_iff.2 ⟨h.eq_join, hpipes⟩, ?_⟩
  rw [describe, bind_eq_ok]
  refine ⟨_, hopening, ?_⟩
  rw [bind_eq_ok]
  exact ⟨_, hfold, rfl⟩

/-- The reader accepts what the grammar describes, with the descriptor of the grammar. -/
theorem parse_eq {line : String} (h : Grammar line.toList d m u parts) : parse line = .ok d := by
  rw [parse, bind_eq_ok]
  exact ⟨_, h.describe_eq⟩

/-- Every line that is accepted is one of the grammar. -/
theorem of_parse {line : String} (h : parse line = .ok d) :
    ∃ m u parts, Grammar line.toList d m u parts := by
  rw [parse, bind_eq_ok] at h
  obtain ⟨s, hs, h⟩ := h
  rw [describe, bind_eq_ok] at h
  obtain ⟨start, hstart, h⟩ := h
  rw [bind_eq_ok] at h
  obtain ⟨done, hdone, h⟩ := h
  cases h
  obtain ⟨hline, hpipes⟩ := sections?_eq_ok_iff.1 hs
  obtain ⟨m, u, hm, hu, hdouble, hmethod, hurl⟩ := opening_eq_ok_iff.1 hstart
  obtain ⟨parts, hparts, hfills⟩ := foldlM_add_eq_ok_iff.1 hdone
  obtain rfl : s = sections m u parts := by
    obtain ⟨method, url, others⟩ := s
    rw [sections, ← hm, ← hu, ← hparts]
  rw [pipeless_sections] at hpipes
  refine ⟨m, u, parts, ⟨?_, hpipes.1, hpipes.2.1, hpipes.2.2, ?_, ?_, ?_, hfills.distinct,
    hfills.read, ?_⟩⟩
  · rw [hline, join_sections]
  · rwa [hasDoubleSpace_iff] at hdouble
  · rw [hmethod, hfills.method_eq]
  · rw [hfills.url_eq, hurl, String.toList_ofList]
  · intro k hk
    rw [hfills.kept k hk, hurl]
    cases k <;> rfl

end Grammar

/-- A line is accepted with a descriptor exactly if the grammar gives the line that descriptor. -/
theorem parse_eq_ok_iff_grammar (line : String) (d : Descriptor) :
    parse line = .ok d ↔ ∃ m u parts, Grammar line.toList d m u parts := by
  constructor
  · exact Grammar.of_parse
  · rintro ⟨m, u, parts, h⟩
    exact h.parse_eq

end RequestLine.Line
