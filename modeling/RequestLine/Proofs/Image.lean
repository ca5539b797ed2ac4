import RequestLine.Proofs.Grammar
import RequestLine.Proofs.Json.Characters
import RequestLine.Proofs.Json.Decoded
import RequestLine.Proofs.Trimming

/-!
# Which descriptors have a line

Neither a pipe nor two spaces in a row may stand in a section, not even in a string of JSON. Nothing
is lost by that in the sections, because JSON can write both with escapes (`guarded`), and an empty
address can be written as a blank that is no space. What limits a descriptor is only its address,
which is written as it is, and the name that makes an object an embedded text
(`exists_parse_eq_ok_iff`).
-/

namespace RequestLine.Json

/-! ## Values without spaces and pipes -/

/-- Writes spaces and pipes with escapes, and all else as in the compact text. -/
def guarded (c : Char) : List Char :=
  if c = ' ' then ['\\', 'u', '0', '0', '2', '0']
  else if c = '|' then ['\\', 'u', '0', '0', '7', 'c']
  else escape c

/-- Spaces and pipes that are escaped are read back too. -/
theorem escaping_guarded : Reader.Escaping guarded where
  ne_nil c := by
    unfold guarded
    split
    · simp
    · split
      · simp
      · exact Reader.escaping_escape.ne_nil c
  read c steps rest := by
    unfold guarded
    split
    · next hc =>
      subst hc
      exact Reader.stringWith_escape rfl
    · split
      · next hc =>
        subst hc
        exact Reader.stringWith_escape rfl
      · exact Reader.escaping_escape.read c steps rest

/-- Neither spaces nor pipes are left where they are escaped. -/
theorem not_mem_guarded {x : Char} (hx : x = ' ' ∨ x = '|') (c : Char) : x ∉ guarded c := by
  unfold guarded
  split
  · rcases hx with rfl | rfl <;> decide
  · split
    · rcases hx with rfl | rfl <;> decide
    · next hspace hpipe =>
      intro h
      rcases mem_escape h with ⟨rfl, -⟩ | h
      · exact hx.elim hspace hpipe
      · rcases hx with rfl | rfl
        · exact absurd h (by decide)
        · exact absurd h (by decide)

theorem not_mem_textWith_guarded {x : Char} (hx : x = ' ' ∨ x = '|') (v : Json) :
    x ∉ textWith guarded v := by
  intro h
  rcases mem_textWith h with h | ⟨c, h⟩
  · rcases hx with rfl | rfl
    · exact absurd h (by decide)
    · exact absurd h (by decide)
  · exact not_mem_guarded hx c h

/-- The text of a value has no blank at either end. -/
theorem trimmed_textWith (esc : Char → List Char) {v : Json} (hv : Integral v) :
    Text.Trimmed (textWith esc v) where
  head := by
    obtain ⟨c, rest, htext, hblank, _⟩ := Reader.exists_textWith_eq_cons esc hv
    rw [htext]
    simpa using hblank
  last := by
    obtain ⟨init, c, htext, hblank⟩ := Reader.exists_textWith_eq_append esc hv
    rw [htext]
    simpa using hblank

theorem textWith_ne_nil (esc : Char → List Char) {v : Json} (hv : Integral v) :
    textWith esc v ≠ [] := by
  obtain ⟨c, rest, htext, _⟩ := Reader.exists_textWith_eq_cons esc hv
  rw [htext]
  exact List.cons_ne_nil c rest

end RequestLine.Json

namespace RequestLine.Line

open Json

/-! ## Writing a descriptor -/

/-- A text without spaces can stand between single spaces. -/
theorem tight_of_space_not_mem {text : List Char} (hne : text ≠ []) (h : ' ' ∉ text) :
    Tight text where
  ne_nil := hne
  single := by
    rw [hasDoubleSpace_iff]
    exact fun hrun => h (hrun.subset List.mem_cons_self)
  head hhead := h (List.mem_of_mem_head? hhead)
  last hlast := h (List.mem_of_mem_getLast? hlast)

/-- The text of an address. An empty one is written as a tab, because with nothing between them the
spaces around it would be two in a row. -/
def urlText (url : String) : List Char :=
  if url.toList = [] then ['\t'] else url.toList

/-- The keyword sections of a descriptor, all three of them. -/
def partsOf (d : Descriptor) : List (Keyword × List Char) :=
  Keyword.all.map fun k => (k, textWith guarded (d.get k))

/-- A line for a descriptor. -/
def lineOf (d : Descriptor) : List Char :=
  join (Grammar.sections d.method.name.toList (urlText d.url) (partsOf d)).all

variable {d : Descriptor}

theorem trim_urlText {url : String} (h : Text.Trimmed url.toList) :
    Text.trim (urlText url) = url.toList := by
  unfold urlText
  split
  · next hempty =>
    rw [hempty]
    decide
  · exact Text.trim_eq_self h

theorem pipe_not_mem_urlText {url : String} (h : '|' ∉ url.toList) : '|' ∉ urlText url := by
  unfold urlText
  split
  · decide
  · exact h

theorem tight_urlText {url : String} (hsingle : ¬[' ', ' '] <:+: url.toList)
    (htrimmed : Text.Trimmed url.toList) : Tight (urlText url) := by
  have hblank : Text.isBlank ' ' ≠ false := by decide
  unfold urlText
  split
  · constructor <;> decide
  · next hne =>
    refine ⟨hne, ?_, ?_, ?_⟩
    · rwa [hasDoubleSpace_iff]
    · exact fun h => hblank (htrimmed.head ' ' h)
    · exact fun h => hblank (htrimmed.last ' ' h)

theorem mem_partsOf {part : Keyword × List Char} (h : part ∈ partsOf d) :
    part.2 = textWith guarded (d.get part.1) := by
  obtain ⟨k, _, rfl⟩ := List.mem_map.1 h
  rfl

theorem map_fst_partsOf (d : Descriptor) : (partsOf d).map Prod.fst = Keyword.all := by
  simp [partsOf, Function.comp_def]

/-- The line that is written has single spaces only. -/
theorem tight_lineOf (hvalues : ∀ k, Integral (d.get k))
    (hsingle : ¬[' ', ' '] <:+: d.url.toList) (htrimmed : Text.Trimmed d.url.toList) :
    Tight (lineOf d) := by
  have hmethod : Tight d.method.name.toList := by
    cases d.method <;> constructor <;> decide
  have hhttp : Tight ['H', 'T', 'T', 'P'] := by constructor <;> decide
  have hurl : Tight ['U', 'R', 'L'] := by constructor <;> decide
  have hname : ∀ k : Keyword, Tight k.name.toList := by
    intro k
    cases k <;> constructor <;> decide
  apply tight_join
  · simp [Sections.all]
  · simp only [Sections.all, Grammar.sections, List.forall_mem_cons, List.forall_mem_map]
    refine ⟨hhttp.append_space hmethod, hurl.append_space (tight_urlText hsingle htrimmed), ?_⟩
    intro part hpart
    have hvalue : Tight part.2 := by
      rw [mem_partsOf hpart]
      exact tight_of_space_not_mem (textWith_ne_nil _ (hvalues _))
        (not_mem_textWith_guarded (.inl rfl) _)
    exact (hname part.1).append_space hvalue

/-- The line for a descriptor is one of the grammar and gives the descriptor. -/
theorem grammar_lineOf (hplain : ∀ k, Everywhere Plain (d.get k))
    (hdepth : ∀ k, (d.get k).depth ≤ Reader.maxDepth) (hpipe : '|' ∉ d.url.toList)
    (hsingle : ¬[' ', ' '] <:+: d.url.toList) (htrimmed : Text.Trimmed d.url.toList) :
    Grammar (lineOf d) d d.method.name.toList (urlText d.url) (partsOf d) where
  line_eq := Grammar.join_sections _ _ _
  method_pipeless := by cases d.method <;> decide
  url_pipeless := pipe_not_mem_urlText hpipe
  parts_pipeless part hpart := by
    rw [mem_partsOf hpart]
    exact not_mem_textWith_guarded (.inr rfl) _
  single_spaced := by
    rw [← hasDoubleSpace_iff]
    exact (tight_lineOf (fun k => (hplain k).self.integral) hsingle htrimmed).single
  method_eq := by cases d.method <;> decide
  url_eq := trim_urlText htrimmed
  keywords_distinct := by
    rw [map_fst_partsOf]
    decide
  values part hpart := by
    rw [mem_partsOf hpart, Text.trim_eq_self (trimmed_textWith _ (hplain part.1).self.integral)]
    exact parse?_textWith escaping_guarded (hplain part.1) (hdepth part.1)
  defaults k hk := by
    rw [map_fst_partsOf] at hk
    cases k <;> exact absurd (by decide) hk

/-! ## What an accepted line says about its descriptor -/

/-- An address that was read has no pipe, no two spaces in a row and no blank at either end. -/
theorem Grammar.url_conditions {line : List Char} {m u : List Char}
    {parts : List (Keyword × List Char)} (h : Grammar line d m u parts) :
    '|' ∉ d.url.toList ∧ ¬[' ', ' '] <:+: d.url.toList ∧ Text.Trimmed d.url.toList := by
  have hrun : d.url.toList <:+: u := h.url_eq ▸ Text.trim_isInfix u
  refine ⟨fun hmem => h.url_pipeless (hrun.subset hmem), ?_, h.url_eq ▸ Text.trimmed_trim u⟩
  exact fun hdouble => h.single_spaced (hdouble.trans (hrun.trans h.url_isInfix))

/-- No section that was read holds an object with the mark of an embedded text. -/
theorem Grammar.everywhere_unmarked {line : List Char} {m u : List Char}
    {parts : List (Keyword × List Char)} (h : Grammar line d m u parts) (k : Keyword) :
    Everywhere Unmarked (d.get k) := by
  rcases h.section_cases k with ⟨text, -, hvalue⟩ | ⟨-, hempty⟩
  · exact unmarked_of_parse? hvalue
  · rw [hempty, Json.empty, everywhere_object]
    simp [Unmarked]

/-- A descriptor with integers only, distinct names and not too deep values is what some line
describes exactly if its address has no pipe, no two spaces in a row and no blank at an end, and no
object in it is marked as an embedded text. -/
theorem exists_parse_eq_ok_iff (d : Descriptor) (hintegral : ∀ k, Everywhere Integral (d.get k))
    (hdistinct : ∀ k, Everywhere Distinct (d.get k)) (hdepth : ∀ k, (d.get k).depth ≤ 127) :
    (∃ line, parse line = .ok d) ↔
      '|' ∉ d.url.toList ∧ ¬[' ', ' '] <:+: d.url.toList ∧ Text.Trimmed d.url.toList ∧
        ∀ k, Everywhere Unmarked (d.get k) := by
  constructor
  · rintro ⟨line, h⟩
    obtain ⟨m, u, parts, hgrammar⟩ := Grammar.of_parse h
    obtain ⟨hpipe, hsingle, htrimmed⟩ := hgrammar.url_conditions
    exact ⟨hpipe, hsingle, htrimmed, hgrammar.everywhere_unmarked⟩
  · rintro ⟨hpipe, hsingle, htrimmed, hunmarked⟩
    have hplain : ∀ k, Everywhere Plain (d.get k) := fun k w hw =>
      ⟨hintegral k w hw, hdistinct k w hw, hunmarked k w hw⟩
    have hgrammar := grammar_lineOf hplain hdepth hpipe hsingle htrimmed
    rw [← String.toList_ofList (l := lineOf d)] at hgrammar
    exact ⟨_, hgrammar.parse_eq⟩

/-- A descriptor with an empty address and sections full of pipes and spaces has a line. -/
theorem exists_line_of_pipes_and_spaces :
    ∃ line, parse line = .ok ⟨.post, "", .object [("a  | b", .null)], .string "|  |",
      .array [.string " | ", .bool true]⟩ := by
  refine (exists_parse_eq_ok_iff _ ?_ ?_ ?_).2 ⟨?_, ?_, ?_, ?_⟩
  · intro k
    cases k <;> simp [Descriptor.get, Integral]
  · intro k
    cases k <;> simp [Descriptor.get, Distinct]
  · intro k
    cases k <;> simp [Descriptor.get, depth]
  · decide
  · decide
  · constructor <;> simp [Text.isBlank]
  · intro k
    cases k <;> simp [Descriptor.get, Unmarked, Reader.embeddingName]

/-- An object that is marked as an embedded text is in the way, whatever the address is: no line
describes this descriptor, although it has an address that can be written, distinct names, no
numbers and values that hardly nest. -/
theorem embedding_has_no_line :
    let d : Descriptor := ⟨.post, "http://x", .empty,
      .object [("$serde_json::private::RawValue", .string "[1]")], .empty⟩
    (∀ k, Everywhere Integral (d.get k)) ∧ (∀ k, Everywhere Distinct (d.get k)) ∧
      (∀ k, (d.get k).depth ≤ 127) ∧ '|' ∉ d.url.toList ∧ ¬[' ', ' '] <:+: d.url.toList ∧
      Text.Trimmed d.url.toList ∧ ¬∃ line, parse line = .ok d := by
  intro d
  refine ⟨?_, ?_, ?_, ?_, ?_, ?_, ?_⟩
  · intro k
    cases k <;> simp [d, Descriptor.get, Json.empty, Integral]
  · intro k
    cases k <;> simp [d, Descriptor.get, Json.empty, Distinct]
  · intro k
    cases k <;> simp [d, Descriptor.get, Json.empty, depth]
  · decide
  · decide
  · constructor <;> simp [d, Text.isBlank]
  · rintro ⟨line, h⟩
    obtain ⟨m, u, parts, hgrammar⟩ := Grammar.of_parse h
    exact (hgrammar.everywhere_unmarked .query).self _ rfl rfl

end RequestLine.Line
