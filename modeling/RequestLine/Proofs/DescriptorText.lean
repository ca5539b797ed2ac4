import RequestLine.Proofs.Image
import RequestLine.Proofs.Json.DepthLimit

/-!
# Reading back the text of a descriptor

The text of a descriptor is one object, and its sections stand one level inside it. A line has its
sections on the top level, so a section may nest one level deeper in a line than in the text of a
descriptor: what a line describes is read back exactly if no section uses that last level
(`parse?_chars_of_parse`).

The members of the text are read by names, each in its own way. They are listed with their names
(`writtenMembers`), and the lemmas on the members of an object are used for this list.
-/

namespace RequestLine.Descriptor

open Json Json.Reader

/-! ## Members -/

/-- The name of a section in the text of a descriptor. -/
def partName : Keyword → String
  | .headers => "headers"
  | .query => "query"
  | .body => "body"

/-- The members of a descriptor's text. -/
def writtenMembers (d : Descriptor) : List (String × Member) :=
  ("method", .method d.method) :: ("url", .url d.url) ::
    Keyword.all.map fun k => (partName k, .part k (d.get k))

namespace Member

/-- The value of a member; members of other names are not written. -/
def toJson : Member → Json
  | .method m => .string m.name
  | .url u => .string u
  | .part _ v => v
  | .other => .null

/-- A section nests no deeper than it may inside a descriptor. -/
def Fits : Member → Prop
  | .part _ v => v.depth ≤ maxDepth - 1
  | _ => True

end Member

/-- The members are the method, the address and a part for each keyword. -/
theorem mem_writtenMembers {d : Descriptor} {p : String × Member} (h : p ∈ d.writtenMembers) :
    p = ("method", .method d.method) ∨ p = ("url", .url d.url) ∨
      ∃ k, p = (partName k, .part k (d.get k)) := by
  simp only [writtenMembers, List.mem_cons, List.mem_map] at h
  rcases h with h | h | ⟨k, -, h⟩
  · exact .inl h
  · exact .inr (.inl h)
  · exact .inr (.inr ⟨k, h.symm⟩)

/-- The text of a member. -/
def memberText (esc : Char → List Char) (p : String × Member) : List Char :=
  quoteWith esc p.1 ++ ':' :: textWith esc p.2.toJson

theorem textWith_toJson (esc : Char → List Char) (d : Descriptor) :
    textWith esc d.toJson =
      '\x7b' :: (List.intercalate [','] (d.writtenMembers.map (memberText esc)) ++ ['\x7d']) := by
  rw [Descriptor.toJson, textWith_object]
  rfl

/-- The members of a descriptor make up the descriptor again. -/
theorem ofMembers?_writtenMembers (d : Descriptor) :
    ofMembers? (d.writtenMembers.map (·.2)) = some d := rfl

/-- The member of a section is read as a section, whichever it is. -/
theorem scanMember_partName (steps : Nat) (k : Keyword) (text : List Char) :
    scanMember steps (partName k) text =
      (scanSection steps text).map fun found => (.part k found.1, found.2) := by
  cases hfound : scanSection steps text <;> cases k <;> simp [scanMember, partName, hfound]

section

variable {esc : Char → List Char} (hesc : Escaping esc) {steps : Nat} {d : Descriptor}

include hesc

theorem scanMethod_quoteWith (m : Method) (hsteps : (quoteWith esc m.name).length ≤ steps)
    (rest : List Char) : scanMethod steps (quoteWith esc m.name ++ rest) = some (m, rest) := by
  have hstring := string_quoteWith hesc m.name rest hsteps
  have hspaces : skipSpaces (quoteWith esc m.name ++ rest) = quoteWith esc m.name ++ rest :=
    skipSpaces_cons (by decide) _
  rw [scanMethod, hspaces]
  split
  · next heq => cases heq
  · simp only [hstring, Option.bind_eq_bind, Option.bind_some, Method.ofName?_name]
    rfl

/-- A member that is not too deep is read back, and what follows it is left. -/
theorem scanMember_of_fits (hplain : ∀ k, Everywhere Plain (d.get k)) {p : String × Member}
    (hp : p ∈ d.writtenMembers) (hfits : p.2.Fits)
    (hsteps : (textWith esc p.2.toJson).length ≤ steps) {rest : List Char} (hrest : Closed rest) :
    scanMember steps p.1 (textWith esc p.2.toJson ++ rest) = some (p.2, rest) := by
  rcases mem_writtenMembers hp with rfl | rfl | ⟨k, rfl⟩
  · simp only [Member.toJson, textWith] at hsteps ⊢
    simp [scanMember, scanMethod_quoteWith hesc d.method hsteps rest]
  · simp only [Member.toJson, textWith] at hsteps ⊢
    simp [scanMember, string_quoteWith hesc d.url rest hsteps]
  · have hvalue : scanSection steps (textWith esc (d.get k) ++ rest) = some (d.get k, rest) :=
      value_textWith hesc (hplain k) hfits hsteps hrest
    rw [scanMember_partName]
    simp only [Member.toJson, hvalue, Option.map_some]

/-- A section that is too deep for a member is refused. -/
theorem scanMember_eq_none (hplain : ∀ k, Everywhere Plain (d.get k)) {p : String × Member}
    (hp : p ∈ d.writtenMembers) (hfits : ¬p.2.Fits)
    (hsteps : (textWith esc p.2.toJson).length ≤ steps) (rest : List Char) :
    scanMember steps p.1 (textWith esc p.2.toJson ++ rest) = none := by
  rcases mem_writtenMembers hp with rfl | rfl | ⟨k, rfl⟩
  · exact absurd trivial hfits
  · exact absurd trivial hfits
  · have hvalue : scanSection steps (textWith esc (d.get k) ++ rest) = none :=
      value_textWith_eq_none hesc (hplain k) (Nat.lt_of_not_le hfits) hsteps rest
    rw [scanMember_partName]
    simp only [Member.toJson, hvalue, Option.map_none]

/-! ## Descriptors -/

theorem string_of_mem_writtenMembers (hsteps : (textWith esc d.toJson).length ≤ steps)
    {p : String × Member} (hp : p ∈ d.writtenMembers) :
    (∀ rest, string steps (quoteWith esc p.1 ++ rest) = some (p.1, rest)) ∧
      (textWith esc p.2.toJson).length ≤ steps := by
  have hlength := length_le_of_mem_intercalate (List.mem_map_of_mem (f := memberText esc) hp)
  rw [textWith_toJson] at hsteps
  simp only [memberText, List.length_cons, List.length_append] at hsteps hlength
  refine ⟨fun rest => string_quoteWith hesc p.1 rest ?_, ?_⟩
  · omega
  · omega

omit hesc in
theorem scan_eq_members (d : Descriptor) (steps : Nat) (rest : List Char) :
    scan steps (textWith esc d.toJson ++ rest) =
      (members (string steps) (scanMember steps) steps
        (List.intercalate [','] (d.writtenMembers.map (memberText esc)) ++ '\x7d' :: rest)).bind
        fun found => (ofMembers? (found.1.map (·.2))).map fun e => (e, found.2) := by
  have hstart : ∀ p ∈ d.writtenMembers, ∃ t, memberText esc p = '"' :: t := fun p _ => ⟨_, rfl⟩
  have hne : d.writtenMembers ≠ [] := List.cons_ne_nil _ _
  rw [textWith_toJson, List.cons_append, scan, skipSpaces_cons (by decide), List.append_assoc]
  simp only [List.cons_append, List.nil_append, objectRest_intercalate hne hstart,
    Option.bind_eq_bind]
  congr 1
  funext found
  cases ofMembers? (found.1.map (·.2)) <;> rfl

/-- The text of a descriptor is read back if all its sections fit. -/
theorem scan_textWith (hplain : ∀ k, Everywhere Plain (d.get k))
    (hdepth : ∀ k, (d.get k).depth ≤ maxDepth - 1)
    (hsteps : (textWith esc d.toJson).length ≤ steps) (rest : List Char) :
    scan steps (textWith esc d.toJson ++ rest) = some (d, rest) := by
  have hmember := fun p hp => string_of_mem_writtenMembers hesc hsteps (p := p) hp
  have hfits : ∀ p ∈ d.writtenMembers, p.2.Fits := by
    intro p hp
    rcases mem_writtenMembers hp with rfl | rfl | ⟨k, rfl⟩
    · trivial
    · trivial
    · exact hdepth k
  have hcount : d.writtenMembers.length ≤ steps := by
    have := length_le_length_intercalate (d.writtenMembers.map (memberText esc))
    rw [textWith_toJson] at hsteps
    simp only [List.length_map, List.length_cons, List.length_append] at this hsteps
    omega
  have hmembers : members (string steps) (scanMember steps) steps
      (List.intercalate [','] (d.writtenMembers.map (memberText esc)) ++ '\x7d' :: rest) =
        some (d.writtenMembers, rest) :=
    members_intercalate (List.cons_ne_nil _ _) (fun p hp => (hmember p hp).1)
      (fun p hp rest hrest =>
        scanMember_of_fits hesc hplain hp (hfits p hp) (hmember p hp).2 hrest) hcount rest
  rw [scan_eq_members, hmembers, Option.bind_some, ofMembers?_writtenMembers]
  rfl

/-- If one section does not fit, the whole text is refused. The members before the first such
section are read, so the reader comes to it. -/
theorem scan_textWith_eq_none (hplain : ∀ k, Everywhere Plain (d.get k))
    (hdepth : ∃ k, maxDepth ≤ (d.get k).depth)
    (hsteps : (textWith esc d.toJson).length ≤ steps) (rest : List Char) :
    scan steps (textWith esc d.toJson ++ rest) = none := by
  have hmember := fun p hp => string_of_mem_writtenMembers hesc hsteps (p := p) hp
  have hbad : ∃ p ∈ d.writtenMembers, ¬p.2.Fits := by
    obtain ⟨k, hk⟩ := hdepth
    refine ⟨(partName k, .part k (d.get k)), ?_, ?_⟩
    · cases k <;> simp [writtenMembers, Keyword.all]
    · simp only [Member.Fits, maxDepth] at hk ⊢
      omega
  have hmembers : members (string steps) (scanMember steps) steps
      (List.intercalate [','] (d.writtenMembers.map (memberText esc)) ++ '\x7d' :: rest) = none :=
    members_eq_none (fun p hp => (hmember p hp).1)
      (fun p hp hfits rest hrest =>
        scanMember_of_fits hesc hplain hp hfits (hmember p hp).2 hrest)
      (fun p hp hfits rest _ => scanMember_eq_none hesc hplain hp hfits (hmember p hp).2 rest)
      hbad steps rest
  rw [scan_eq_members, hmembers, Option.bind_none]

end

section

variable {d : Descriptor} (hplain : ∀ k, Everywhere Plain (d.get k))

include hplain

theorem parse?_chars (hdepth : ∀ k, (d.get k).depth ≤ maxDepth - 1) :
    parse? d.toJson.chars = some d := by
  have hscan := scan_textWith escaping_escape hplain hdepth (Nat.le_refl _) []
  rw [List.append_nil] at hscan
  rw [chars_eq_textWith, parse?, whole, hscan]
  rfl

theorem parse?_chars_eq_none (hdepth : ∃ k, maxDepth ≤ (d.get k).depth) :
    parse? d.toJson.chars = none := by
  have hscan := scan_textWith_eq_none escaping_escape hplain hdepth (Nat.le_refl _) []
  rw [List.append_nil] at hscan
  rw [chars_eq_textWith, parse?, whole, hscan]

end

end RequestLine.Descriptor

namespace RequestLine.Line

open Json

/-! ## Descriptors of lines -/

/-- Sections that were read from a line have no name twice in an object. -/
theorem Grammar.everywhere_distinct {line : List Char} {d : Descriptor} {m u : List Char}
    {parts : List (Keyword × List Char)} (h : Grammar line d m u parts) (k : Keyword) :
    Everywhere Distinct (d.get k) := by
  rcases h.section_cases k with ⟨text, -, hvalue⟩ | ⟨-, hempty⟩
  · exact distinct_of_parse? hvalue
  · rw [hempty, Json.empty, everywhere_object]
    simp [Distinct]

/-- Sections of a line are plain as soon as their numbers are integers. -/
theorem everywhere_plain_of_parse {line : String} {d : Descriptor} (h : parse line = .ok d)
    (hintegral : ∀ k, Everywhere Integral (d.get k)) (k : Keyword) :
    Everywhere Plain (d.get k) := by
  obtain ⟨m, u, parts, hgrammar⟩ := Grammar.of_parse h
  intro w hw
  exact ⟨hintegral k w hw, hgrammar.everywhere_distinct k w hw, hgrammar.everywhere_unmarked k w hw⟩

/-! ## The deepest values of a line -/

/-- Arrays inside one another, with nothing in the innermost. -/
def nested : Nat → Json
  | 0 => .null
  | depth + 1 => .array [nested depth]

theorem depth_nested (n : Nat) : (nested n).depth = n := by
  induction n with
  | zero => simp [nested, Json.depth]
  | succ n ih => simp [nested, Json.depth, ih]

theorem everywhere_plain_nested (n : Nat) : Everywhere Plain (nested n) := by
  induction n with
  | zero => exact everywhere_null.2 ⟨trivial, trivial, trivial⟩
  | succ n ih =>
    refine everywhere_array.2 ⟨⟨trivial, trivial, trivial⟩, ?_⟩
    simpa using ih

/-- A line with arrays inside one another in one of its sections. -/
theorem exists_parse_nested (k : Keyword) {n : Nat} (hn : n ≤ Reader.maxDepth) :
    ∃ line d, parse line = .ok d ∧ (∀ k', Everywhere Integral (d.get k')) ∧
      (d.get k).depth = n := by
  let d : Descriptor := (⟨.get, "x", .empty, .empty, .empty⟩ : Descriptor).withSection k (nested n)
  have hget : ∀ k', d.get k' = nested n ∨ d.get k' = .empty := by
    intro k'
    cases k <;> cases k' <;> simp [d, Descriptor.withSection, Descriptor.get]
  have hplain : ∀ k', Everywhere Plain (d.get k') := by
    intro k'
    rcases hget k' with h | h
    · exact h ▸ everywhere_plain_nested n
    · rw [h, Json.empty, everywhere_object, plain_object_iff]
      simp
  have hdepth : ∀ k', (d.get k').depth ≤ Reader.maxDepth := by
    intro k'
    rcases hget k' with h | h
    · rwa [h, depth_nested]
    · simp [h, Json.empty, Json.depth, Reader.maxDepth]
  have hurl : d.url = "x" := by cases k <;> rfl
  have hgrammar : Grammar (lineOf d) d d.method.name.toList (urlText d.url) (partsOf d) := by
    apply grammar_lineOf hplain hdepth
    · rw [hurl]
      decide
    · rw [hurl]
      decide
    · rw [hurl]
      constructor <;> simp [Text.isBlank]
  rw [← String.toList_ofList (l := lineOf d)] at hgrammar
  refine ⟨_, d, hgrammar.parse_eq, fun k' w hw => (hplain k' w hw).integral, ?_⟩
  have hk : d.get k = nested n := by cases k <;> rfl
  rw [hk, depth_nested]

/-- What a line with integers only describes is read back from its text if no section uses the last
level that a line allows, and cannot be read back if one does. Each section of a line can use it. -/
theorem parse?_chars_of_parse :
    (∀ line d, parse line = .ok d → (∀ k, Everywhere Integral (d.get k)) →
      ((∀ k, (d.get k).depth ≤ 126) → Descriptor.parse? d.toJson.chars = some d) ∧
        ((∃ k, 127 ≤ (d.get k).depth) → Descriptor.parse? d.toJson.chars = none)) ∧
      ∀ k, ∃ line d, parse line = .ok d ∧ (∀ k', Everywhere Integral (d.get k')) ∧
        (d.get k).depth = 127 := by
  constructor
  · intro line d h hintegral
    have hplain := everywhere_plain_of_parse h hintegral
    exact ⟨Descriptor.parse?_chars hplain, Descriptor.parse?_chars_eq_none hplain⟩
  · intro k
    exact exists_parse_nested k (Nat.le_refl _)

/-- A body of depth two is read back, and one of some line is too deep for that. -/
theorem parse?_chars_shallow_and_deepest :
    (∃ d, parse "HTTP POST | URL x | BODY [[7]]" = .ok d ∧
      Descriptor.parse? d.toJson.chars = some d) ∧
    ∃ line d, parse line = .ok d ∧ (d.get .body).depth = 127 ∧
      Descriptor.parse? d.toJson.chars = none := by
  constructor
  · let d : Descriptor :=
      ⟨.post, "x", .empty, .empty, .array [.array [.number (.integer 7 (by decide))]]⟩
    have hline : parse "HTTP POST | URL x | BODY [[7]]" = .ok d := rfl
    refine ⟨d, hline, (parse?_chars_of_parse.1 _ d hline ?_).1 ?_⟩
    · intro k
      cases k <;> simp [d, Descriptor.get, Json.empty, Integral]
    · intro k
      cases k <;> simp [d, Descriptor.get, Json.empty, depth]
  · obtain ⟨line, d, h, hintegral, hdepth⟩ := parse?_chars_of_parse.2 .body
    exact ⟨line, d, h, hdepth, (parse?_chars_of_parse.1 line d h hintegral).2 ⟨.body, hdepth.ge⟩⟩

end RequestLine.Line
