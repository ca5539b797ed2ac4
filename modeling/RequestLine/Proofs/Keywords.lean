import RequestLine.Proofs.Scans
import Mathlib.Data.List.Nodup
import Mathlib.Data.List.Perm.Subperm

/-!
# The loop over the keyword sections

The keyword sections of a line are read one after the other, and the names that have been met are
noted so that a second section for a name is refused. A name is compared with the noted ones before
anything else is checked about it, so it has to be ruled out that a name is refused as a second one
although it is no keyword at all. It never is: whenever the loop comes to a section, the names that
have been noted are keywords, those of the sections before it, and each of these sections has a
value that can be read (`Visited`).

From this invariant follows what the faults of the loop can name, and that no line has more than
three keyword sections. The loop ends within the fourth one, and what stands behind the sixth
section of a line has no say in its fault (`keyword_loop`).
-/

namespace RequestLine.Line

/-! ## The invariant -/

/-- Reading the sections of a line comes to the keyword section `text`, behind the keyword sections
`earlier` and with what they have left in `p`. -/
def ComesTo (line : String) (earlier : List (List Char)) (text : List Char)
    (later : List (List Char)) (p : Progress) : Prop :=
  ∃ s start, sections? line.toList = .ok s ∧ opening line.toList s = .ok start ∧
    s.others = earlier ++ text :: later ∧
    earlier.foldlM Progress.add { descriptor := start } = .ok p

/-- What the loop has done with the keyword sections `earlier`. -/
structure Visited (earlier : List (List Char)) (p : Progress) : Prop where
  /-- Only keywords have been noted. -/
  known : ∀ name ∈ p.seen, ∃ k : Keyword, name = k.name.toList
  /-- Those of the sections have been noted and no others. -/
  noted_iff : ∀ name, name ∈ p.seen ↔ ∃ t ∈ earlier, heading t = name
  distinct : (earlier.map heading).Nodup
  /-- Every section has a value, and the loop has kept it. -/
  read : ∀ t ∈ earlier, ∃ k v, t = partText (k, v) ∧
    Json.parse? (Text.trim v) = some (p.descriptor.get k)

theorem map_heading_map_partText (parts : List (Keyword × List Char)) :
    (parts.map partText).map heading = parts.map (·.1.name.toList) := by
  rw [List.map_map]
  exact List.map_congr_left fun part _ => heading_partText part.1 part.2

/-- The invariant holds after any run of the loop that starts with nothing noted. -/
theorem visited_of_foldlM {earlier : List (List Char)} {p q : Progress} (hp : p.seen = [])
    (h : earlier.foldlM Progress.add p = .ok q) : Visited earlier q := by
  obtain ⟨parts, rfl, hfills⟩ := foldlM_add_eq_ok_iff.1 h
  have hseen : ∀ name, name ∈ q.seen ↔ name ∈ (parts.map partText).map heading := by
    intro name
    rw [hfills.seen_eq, hp, List.append_nil, List.mem_reverse, map_heading_map_partText]
  refine ⟨?_, ?_, ?_, ?_⟩
  · intro name hname
    rw [hseen, map_heading_map_partText] at hname
    obtain ⟨part, -, rfl⟩ := List.mem_map.1 hname
    exact ⟨part.1, rfl⟩
  · intro name
    rw [hseen, List.mem_map]
  · have hinjective : Function.Injective fun k : Keyword => k.name.toList :=
      fun _ _ => Keyword.toList_name_inj.1
    have hdistinct := List.Nodup.map hinjective hfills.distinct
    rw [List.map_map] at hdistinct
    rw [map_heading_map_partText]
    exact hdistinct
  · intro t ht
    obtain ⟨⟨k, v⟩, hpart, rfl⟩ := List.mem_map.1 ht
    exact ⟨k, v, rfl, hfills.read (k, v) hpart⟩

theorem ComesTo.visited {line : String} {earlier later : List (List Char)} {text : List Char}
    {p : Progress} (h : ComesTo line earlier text later p) : Visited earlier p := by
  obtain ⟨s, start, -, -, -, hrun⟩ := h
  exact visited_of_foldlM rfl hrun

/-- There are only three keywords to be read. -/
theorem Visited.length_le {earlier : List (List Char)} {p : Progress} (h : Visited earlier p) :
    earlier.length ≤ 3 := by
  have hsubset : earlier.map heading ⊆ Keyword.all.map (·.name.toList) := by
    intro name hname
    obtain ⟨k, rfl⟩ := h.known name ((h.noted_iff name).2 (List.mem_map.1 hname))
    cases k <;> simp [Keyword.all]
  have hlength := (h.distinct.subperm hsubset).length_le
  simpa [Keyword.all] using hlength

/-! ## Faults of the loop -/

/-- A fault that names a keyword is found at a section that the loop comes to. -/
theorem exists_comesTo {line : String} {f : Fault} (h : parse line = .error f) {name : String}
    (hf : f = .duplicateKeyword name ∨ f = .unknownKeyword name) :
    ∃ earlier text later p, ComesTo line earlier text later p ∧ p.add text = .error f := by
  rw [parse, bind_eq_error] at h
  rcases h with h | ⟨s, hs, h⟩
  · rcases fault_of_sections? h with rfl | rfl | rfl <;> simp at hf
  · rw [describe, bind_eq_error] at h
    rcases h with h | ⟨start, hstart, h⟩
    · rcases fault_of_opening h with rfl | rfl | rfl | rfl | rfl <;> simp at hf
    · rw [bind_eq_error] at h
      rcases h with h | ⟨done, -, h⟩
      · obtain ⟨earlier, text, later, p, hothers, hrun, hadd⟩ := exists_stop_of_foldlM_eq_error h
        exact ⟨earlier, text, later, p, ⟨s, start, hs, hstart, hothers, hrun⟩, hadd⟩
      · cases h

/-- A section is refused as a second one only if its name has been noted. -/
theorem Progress.mem_seen_of_add {p : Progress} {text : List Char} {name : String}
    (h : p.add text = .error (.duplicateKeyword name)) :
    heading text ∈ p.seen ∧ name = String.ofList (heading text) := by
  rw [Progress.add_eq] at h
  split at h
  · cases h
  · split at h
    · next hseen =>
      cases h
      exact ⟨hseen, rfl⟩
    · split at h
      · cases h
      · split at h
        · cases h
        · split at h <;> cases h

/-- A name is refused as unknown only after it was found to be in upper case. -/
theorem Progress.unknown_of_add {p : Progress} {text : List Char} {name : String}
    (h : p.add text = .error (.unknownKeyword name)) :
    ' ' ∈ text ∧ heading text = Text.uppercase (heading text) ∧
      Keyword.ofName? (String.ofList (heading text)) = none ∧ name = String.ofList (heading text) := by
  rw [Progress.add_eq] at h
  split at h
  · cases h
  · next hspace =>
    split at h
    · cases h
    · split at h
      · cases h
      · next hupper =>
        split at h
        · next hname =>
          cases h
          exact ⟨not_not.1 hspace, not_not.1 hupper, hname, rfl⟩
        · split at h <;> cases h

/-- The keyword `name` has a second section in the line, and its first one has a value. -/
def Repeats (line name : String) : Prop :=
  ∃ (k : Keyword) (v : List Char) (value : Json) (before between after : List (List Char))
    (text : List Char), name = k.name ∧
      (split line.toList).drop 2 = before ++ partText (k, v) :: (between ++ text :: after) ∧
      (∀ t ∈ before, heading t ≠ k.name.toList) ∧ heading text = k.name.toList ∧
      Json.parse? (Text.trim v) = some value

/-- The name that is refused as a second one has been noted, so it is a keyword and its first
section has a value. -/
theorem repeats_of_parse {line name : String}
    (h : parse line = .error (.duplicateKeyword name)) : Repeats line name := by
  obtain ⟨earlier, text, later, p, hcomes, hadd⟩ := exists_comesTo h (.inl rfl)
  obtain ⟨hseen, rfl⟩ := Progress.mem_seen_of_add hadd
  have hvisited := hcomes.visited
  obtain ⟨t, ht, hheading⟩ := (hvisited.noted_iff _).1 hseen
  obtain ⟨k, v, rfl, hvalue⟩ := hvisited.read t ht
  rw [heading_partText] at hheading
  obtain ⟨before, between, rfl⟩ := List.append_of_mem ht
  have hdistinct := hvisited.distinct
  rw [List.map_append, List.map_cons, heading_partText, List.nodup_append] at hdistinct
  obtain ⟨s, start, hs, -, hothers, -⟩ := hcomes
  refine ⟨k, v, _, before, between, later, text, ?_, ?_, ?_, hheading.symm, hvalue⟩
  · rw [← hheading, String.ofList_toList]
  · rw [split_of_sections? hs, show s.all.drop 2 = s.others from rfl, hothers]
    simp
  · intro u hu
    exact hdistinct.2.2 _ (List.mem_map_of_mem hu) _ List.mem_cons_self

/-- A name that can stand in a line as that of a section, but is none of the keywords. -/
structure Unlisted (name : String) : Prop where
  ne_empty : name ≠ ""
  spaceless : ' ' ∉ name.toList
  pipeless : '|' ∉ name.toList
  uppercase : Text.uppercase name.toList = name.toList
  no_keyword : ∀ k : Keyword, name ≠ k.name

theorem space_not_mem_heading (text : List Char) : ' ' ∉ heading text := by
  intro h
  simpa using List.mem_takeWhile_imp h

/-- A keyword section cannot begin with a space, which would be the second one in a row. -/
theorem heading_ne_nil {line : List Char} {s : Sections} {text : List Char}
    (hs : sections? line = .ok s) (hsingle : ¬hasDoubleSpace line) (htext : text ∈ s.others)
    (hspace : ' ' ∈ text) : heading text ≠ [] := by
  intro hnil
  have heq := eq_heading_append hspace
  rw [hnil, List.nil_append] at heq
  obtain ⟨rfl, -⟩ := sections?_eq_ok_iff.1 hs
  have hinfix : delimiter ++ text <:+: join s.all :=
    delimiter_append_infix_join (List.mem_cons_of_mem _ htext)
  apply hsingle
  rw [hasDoubleSpace_iff]
  refine List.IsInfix.trans ?_ hinfix
  rw [heq]
  exact ⟨[' ', '|'], literalOf text, by simp [delimiter]⟩

/-- A name that is refused as unknown is not empty, since no section begins with a space. -/
theorem unlisted_of_parse {line name : String}
    (h : parse line = .error (.unknownKeyword name)) : Unlisted name := by
  obtain ⟨earlier, text, later, p, hcomes, hadd⟩ := exists_comesTo h (.inr rfl)
  obtain ⟨hspace, hupper, hunknown, rfl⟩ := Progress.unknown_of_add hadd
  obtain ⟨s, start, hs, hstart, hothers, -⟩ := hcomes
  have htext : text ∈ s.others := by simp [hothers]
  obtain ⟨-, -, -, -, hsingle, -⟩ := opening_eq_ok_iff.1 hstart
  refine ⟨?_, ?_, ?_, ?_, ?_⟩
  · simpa using heading_ne_nil hs hsingle htext hspace
  · rw [String.toList_ofList]
    exact space_not_mem_heading text
  · rw [String.toList_ofList]
    intro hpipe
    have hpipes := (sections?_eq_ok_iff.1 hs).2 text
      (List.mem_cons_of_mem _ (List.mem_cons_of_mem _ htext))
    exact hpipes ((List.takeWhile_prefix _).subset hpipe)
  · rw [String.toList_ofList]
    exact hupper.symm
  · intro k hk
    rw [hk, Keyword.ofName?_name] at hunknown
    cases hunknown

/-! ## Long lines -/

/-- A run of four sections or more ends within the first four. -/
theorem foldlM_take_four {texts : List (List Char)} {p : Progress} (hp : p.seen = [])
    (hlong : 4 ≤ texts.length) :
    ∃ f, (texts.take 4).foldlM Progress.add p = .error f ∧
      texts.foldlM Progress.add p = .error f := by
  cases hrun : (texts.take 4).foldlM Progress.add p with
  | ok q =>
    have hlength := (visited_of_foldlM hp hrun).length_le
    rw [List.length_take] at hlength
    omega
  | error f =>
    refine ⟨f, rfl, ?_⟩
    rw [← List.take_append_drop 4 texts, List.foldlM_append, hrun]
    rfl

/-- The first `n` sections of a line as a line. -/
def firstSections (n : Nat) (line : String) : String :=
  String.ofList (join ((split line.toList).take n))

theorem join_take_isPrefix (n : Nat) (sections : List (List Char)) :
    join (sections.take n) <+: join sections := by
  cases n with
  | zero => exact List.nil_prefix
  | succ n =>
    cases sections with
    | nil => exact List.prefix_refl _
    | cons s rest =>
      rw [List.take_succ_cons, join_eq_append_flatMap, join_eq_append_flatMap]
      nth_rewrite 2 [← List.take_append_drop n rest]
      rw [List.flatMap_append, ← List.append_assoc]
      exact List.prefix_append _ _

/-- Four keyword sections decide the fault of any longer line. -/
theorem describe_take_four {line line' : List Char} {s : Sections} (hlong : 4 ≤ s.others.length)
    (hline : ¬hasDoubleSpace line) (hline' : ¬hasDoubleSpace line') :
    ∃ f, describe line s = .error f ∧
      describe line' { s with others := s.others.take 4 } = .error f := by
  have hdouble : hasDoubleSpace line = hasDoubleSpace line' := by simp [hline, hline']
  have hopening : opening line s = opening line' { s with others := s.others.take 4 } :=
    opening_congr rfl rfl hdouble
  unfold describe
  rw [← hopening]
  cases opening line s with
  | error f => exact ⟨f, rfl, rfl⟩
  | ok start =>
    obtain ⟨f, htake, hall⟩ := foldlM_take_four (p := { descriptor := start }) rfl hlong
    refine ⟨f, ?_, ?_⟩
    · exact bind_eq_error.2 (.inr ⟨start, rfl, bind_eq_error.2 (.inl hall)⟩)
    · exact bind_eq_error.2 (.inr ⟨start, rfl, bind_eq_error.2 (.inl htake)⟩)

/-- A line of six sections has four keyword sections, and there are three keywords. -/
theorem exists_error_of_six {line : String} (hlong : 6 ≤ (split line.toList).length) :
    ∃ f, parse line = .error f := by
  cases hparse : parse line with
  | error f => exact ⟨f, rfl⟩
  | ok d =>
    rw [parse, bind_eq_ok] at hparse
    obtain ⟨s, hs, h⟩ := hparse
    rw [describe, bind_eq_ok] at h
    obtain ⟨start, -, h⟩ := h
    rw [bind_eq_ok] at h
    obtain ⟨done, hdone, -⟩ := h
    have hlength := (visited_of_foldlM rfl hdone).length_le
    rw [split_of_sections? hs, show s.all.length = s.others.length + 2 from rfl] at hlong
    omega

/-- A long line has the fault of its first six sections. These are cut and spaced as in the line. -/
theorem exists_error_firstSections {line : String}
    (hcounts : delimiters line.toList = pipes line.toList) (hsingle : ¬[' ', ' '] <:+: line.toList)
    (hlong : 6 ≤ (split line.toList).length) :
    ∃ f, parse line = .error f ∧ parse (firstSections 6 line) = .error f := by
  have hdelimiters : delimiters line.toList ≠ 0 := by
    have hlength := length_split line.toList
    omega
  obtain ⟨method, url, others, hsplit⟩ := exists_split_of_counts hdelimiters
  let s : Sections := ⟨method, url, others⟩
  let s' : Sections := { s with others := others.take 4 }
  have hfirst : (firstSections 6 line).toList = join s'.all := by
    rw [firstSections, String.toList_ofList, hsplit]
    rfl
  have hs : sections? line.toList = .ok s := sections?_of_counts hdelimiters hcounts.symm hsplit
  obtain ⟨hjoin, hpipes⟩ := sections?_eq_ok_iff.1 hs
  have hs' : sections? (firstSections 6 line).toList = .ok s' := by
    refine sections?_eq_ok_iff.2 ⟨hfirst, ?_⟩
    intro t ht
    exact hpipes t ((List.take_sublist 6 s.all).subset ht)
  have hprefix : (firstSections 6 line).toList <+: line.toList := by
    rw [hfirst, hjoin]
    exact join_take_isPrefix 6 s.all
  have hdouble : ¬hasDoubleSpace line.toList := mt (hasDoubleSpace_iff _).1 hsingle
  have hdouble' : ¬hasDoubleSpace (firstSections 6 line).toList := by
    rw [hasDoubleSpace_iff]
    exact fun h => hsingle (h.trans hprefix.isInfix)
  have hothers : 4 ≤ s.others.length := by
    rw [hsplit, List.length_cons, List.length_cons] at hlong
    exact Nat.le_of_add_le_add_right (b := 2) hlong
  obtain ⟨f, hf, hf'⟩ := describe_take_four hothers hdouble hdouble'
  refine ⟨f, ?_, ?_⟩
  · rw [parse, hs]
    exact hf
  · rw [parse, hs']
    exact hf'

/-! ## The loop -/

/-- What holds of the loop over the keyword sections of a line, and what follows for its faults. -/
structure KeywordLoop (line : String) : Prop where
  /-- At every section the loop has noted the keywords of the sections before it. -/
  visited : ∀ earlier text later p, ComesTo line earlier text later p → Visited earlier p
  /-- What is named as a second section is one for a keyword. -/
  duplicate : ∀ name, parse line = .error (.duplicateKeyword name) → Repeats line name
  unknown : ∀ name, parse line = .error (.unknownKeyword name) → Unlisted name
  /-- There is no line with a fourth keyword section. -/
  rejected : 6 ≤ (split line.toList).length → ∃ f, parse line = .error f
  /-- The fault is found in the first six sections. -/
  decided : delimiters line.toList = pipes line.toList → ¬[' ', ' '] <:+: line.toList →
    6 < (split line.toList).length →
      ∃ f, parse line = .error f ∧ parse (firstSections 6 line) = .error f

/-- The loop over the keyword sections keeps its invariant on every line. -/
theorem keyword_loop (line : String) : KeywordLoop line where
  visited _ _ _ _ h := h.visited
  duplicate _ h := repeats_of_parse h
  unknown _ h := unlisted_of_parse h
  rejected := exists_error_of_six
  decided hcounts hsingle hlong :=
    exists_error_firstSections hcounts hsingle (Nat.le_of_lt hlong)

/-- A second section is refused whatever it holds, the plural of a keyword is none, and a seventh
section without a keyword is not looked at. -/
theorem keyword_loop_second_and_seventh :
    Repeats "HTTP GET | URL x | BODY 1 | BODY [" "BODY" ∧ Unlisted "BODIES" ∧
      let line := "HTTP GET | URL x | BODY 1 | QUERY 2 | HEADERS 3 | BODY 4 | x"
      ∃ f, parse line = .error f ∧ parse (firstSections 6 line) = .error f := by
  refine ⟨?_, ?_, ?_⟩
  · exact (keyword_loop "HTTP GET | URL x | BODY 1 | BODY [").duplicate "BODY" rfl
  · exact (keyword_loop "HTTP GET | URL x | BODIES 1").unknown "BODIES" rfl
  · exact (keyword_loop _).decided (by decide) (by decide) (by decide)

end RequestLine.Line
