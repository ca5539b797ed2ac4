import RequestLine.Proofs.Reading

/-!
# The scans of a line

Before a line is cut it is scanned twice: once its pipes are counted and once its delimiters, and
the cutting itself is a third scan. Neighbouring pipes can share a space, as in `" | | "`, so what
counts as a delimiter depends on where a scan stands. The rule is that delimiters are found from
left to right and do not overlap: each is the first one behind the one before it (`Scanned`).

Cutting follows this rule and no other list of sections does (`scanned_iff`). With it the three
scans agree on every line (`scans_agree`), so a line that has passed the counts has at least two
sections, and the lines without a delimiter are exactly those that fail a count.
-/

namespace RequestLine.Line

/-! ## From left to right -/

/-- The delimiter between `before` and `after` is the first one: none begins further left. -/
def FirstDelimiter (before after : List Char) : Prop :=
  ∀ before' after', before ++ delimiter ++ after = before' ++ delimiter ++ after' →
    before.length ≤ before'.length

/-- The sections of a line, when delimiters are found from left to right and do not overlap. -/
inductive Scanned : List Char → List (List Char) → Prop
  | last {text : List Char} : ¬delimiter <:+: text → Scanned text [text]
  | next {text rest : List Char} {sections : List (List Char)} :
    FirstDelimiter text rest → Scanned rest sections →
      Scanned (text ++ delimiter ++ rest) (text :: sections)

/-- One character further left the first delimiter is the same, unless one begins right there. -/
theorem firstDelimiter_cons_iff {c : Char} {before after : List Char} :
    FirstDelimiter (c :: before) after ↔
      ¬delimiter <+: c :: (before ++ delimiter ++ after) ∧ FirstDelimiter before after := by
  constructor
  · intro h
    constructor
    · rintro ⟨after', hstart⟩
      have hle := h [] after' hstart.symm
      simp at hle
    · intro before' after' heq
      have hle := h (c :: before') after' (by simpa using heq)
      simpa using hle
  · rintro ⟨hstart, h⟩ before' after' heq
    cases before' with
    | nil => exact absurd ⟨after', heq.symm⟩ hstart
    | cons d before' =>
      obtain ⟨-, hrest⟩ : c = d ∧ before ++ delimiter ++ after = before' ++ delimiter ++ after' := by
        simpa using heq
      simpa using h before' after' hrest

/-- A character where no delimiter begins stays in the section. -/
theorem split_cons_of_not_prefix {c : Char} {rest : List Char} (h : ¬delimiter <+: c :: rest) :
    split (c :: rest) = consFirst c (split rest) := by
  apply split.eq_2
  rintro rest' rfl rfl
  exact h ⟨rest', rfl⟩

theorem Scanned.consFirst {c : Char} {rest : List Char} {sections : List (List Char)}
    (h : Scanned rest sections) (hstart : ¬delimiter <+: c :: rest) :
    Scanned (c :: rest) (consFirst c sections) := by
  cases h with
  | last hnone =>
    refine .last ?_
    rw [List.infix_cons_iff, not_or]
    exact ⟨hstart, hnone⟩
  | next hfirst hrest => exact .next (firstDelimiter_cons_iff.2 ⟨hstart, hfirst⟩) hrest

/-- Cutting finds delimiters from left to right. By the recursion of cutting. -/
theorem scanned_split (line : List Char) : Scanned line (split line) := by
  fun_induction split line with
  | case1 rest ih =>
    have hfirst : FirstDelimiter [] rest := fun _ _ _ => Nat.zero_le _
    exact .next hfirst ih
  | case2 c rest hc ih => exact ih.consFirst (not_prefix_of_ne hc)
  | case3 => exact .last (by simp [delimiter])

/-- A line without delimiters is one section. -/
theorem split_of_not_infix {text : List Char} (h : ¬delimiter <:+: text) : split text = [text] := by
  have hlength := length_split text
  rw [(delimiters_eq_zero_iff text).2 h] at hlength
  obtain ⟨s, hs⟩ := List.length_eq_one_iff.1 hlength
  have hjoin := join_split text
  rw [hs, join_singleton] at hjoin
  rw [hs, hjoin]

/-- A section ends at the first delimiter. -/
theorem split_of_firstDelimiter {text rest : List Char} (h : FirstDelimiter text rest) :
    split (text ++ delimiter ++ rest) = text :: split rest := by
  induction text with
  | nil => rfl
  | cons c text ih =>
    obtain ⟨hstart, hfirst⟩ := firstDelimiter_cons_iff.1 h
    rw [List.cons_append, List.cons_append, split_cons_of_not_prefix hstart, ih hfirst]
    rfl

/-- There is one way to find delimiters from left to right, and cutting follows it. -/
theorem scanned_iff {line : List Char} {sections : List (List Char)} :
    Scanned line sections ↔ split line = sections := by
  constructor
  · intro h
    induction h with
    | last hnone => exact split_of_not_infix hnone
    | next hfirst _ ih => rw [split_of_firstDelimiter hfirst, ih]
  · rintro rfl
    exact scanned_split line

/-! ## Counts and sections -/

/-- A line that passes the counts is cut into at least two sections. -/
theorem exists_split_of_counts {line : List Char} (hdelimiters : delimiters line ≠ 0) :
    ∃ method url others, split line = method :: url :: others := by
  have hlength := length_split line
  match hsplit : split line with
  | [] => exact absurd hsplit (split_ne_nil line)
  | [s] =>
    rw [hsplit, List.length_singleton] at hlength
    omega
  | method :: url :: others => exact ⟨method, url, others, rfl⟩

theorem sections?_of_counts {line : List Char} {method url : List Char} {others : List (List Char)}
    (hdelimiters : delimiters line ≠ 0) (hcounts : pipes line = delimiters line)
    (hsplit : split line = method :: url :: others) :
    sections? line = .ok ⟨method, url, others⟩ := by
  have hne : line ≠ [] := by
    rintro rfl
    exact hdelimiters rfl
  have hpipes : ¬(pipes line = 0 ∨ delimiters line = 0) := by omega
  unfold sections?
  rw [if_neg (by simpa using hne), if_neg hpipes, if_neg (not_not.2 hcounts), hsplit]

theorem counts_of_sections? {line : List Char} {s : Sections} (h : sections? line = .ok s) :
    delimiters line ≠ 0 ∧ delimiters line = pipes line := by
  obtain ⟨rfl, hpipes⟩ := sections?_eq_ok_iff.1 h
  have hall : s.all ≠ [] := by simp [Sections.all]
  have hlength : s.others.length + 2 = delimiters (join s.all) + 1 :=
    length_eq_delimiters_join hall hpipes
  exact ⟨by omega, delimiters_join hall hpipes⟩

/-- What is found after a line has been cut is not the fault of its delimiters. -/
theorem describe_ne_missingDelimiter (line : List Char) (s : Sections) :
    describe line s ≠ .error .missingDelimiter := by
  intro h
  rcases opening_or_add_of_describe_eq_error h with h | ⟨q, text, -, h⟩
  · rcases fault_of_opening h with h | h | h | h | h <;> cases h
  · rcases fault_of_add h with h | h | h | h | ⟨k, h⟩ <;> cases h

theorem sections?_eq_missingDelimiter_iff {line : List Char} :
    sections? line = .error .missingDelimiter ↔
      line ≠ [] ∧ (pipes line = 0 ∨ delimiters line = 0) := by
  constructor
  · intro h
    by_cases hne : line = []
    · subst hne
      cases h
    · refine ⟨hne, ?_⟩
      by_contra hcounts
      rw [not_or] at hcounts
      by_cases heq : pipes line = delimiters line
      · obtain ⟨method, url, others, hsplit⟩ := exists_split_of_counts hcounts.2
        rw [sections?_of_counts hcounts.2 heq hsplit] at h
        cases h
      · unfold sections? at h
        rw [if_neg (by simpa using hne), if_neg (not_or.2 hcounts), if_pos heq] at h
        cases h
  · rintro ⟨hne, hcounts⟩
    unfold sections?
    rw [if_neg (by simpa using hne), if_pos hcounts]

theorem parse_eq_missingDelimiter_iff {line : String} :
    parse line = .error .missingDelimiter ↔ sections? line.toList = .error .missingDelimiter := by
  rw [parse, bind_eq_error]
  constructor
  · rintro (h | ⟨s, -, h⟩)
    · exact h
    · exact absurd h (describe_ne_missingDelimiter _ s)
  · exact .inl

/-! ## Agreement -/

/-- What the scans of a line have to do with one another. -/
structure ScansAgree (line : String) : Prop where
  /-- The line is cut at the delimiters that are found from left to right. -/
  cut_iff_scanned : ∀ sections, split line.toList = sections ↔ Scanned line.toList sections
  /-- There is one section more than delimiters are counted. -/
  counted : delimiters line.toList + 1 = (split line.toList).length
  joined : join (split line.toList) = line.toList
  bounded : delimiters line.toList ≤ pipes line.toList
  /-- Every pipe is counted as part of a delimiter exactly if none is left in a section. -/
  balanced_iff : delimiters line.toList = pipes line.toList ↔ ∀ s ∈ split line.toList, '|' ∉ s
  /-- Behind the counts there are two sections at least, and the line is cut into them. -/
  reaches : pipes line.toList ≠ 0 → delimiters line.toList ≠ 0 →
    pipes line.toList = delimiters line.toList → ∃ method url others,
      split line.toList = method :: url :: others ∧
        sections? line.toList = .ok ⟨method, url, others⟩
  /-- So a delimiter is only missed where a count is zero. -/
  missed_iff : parse line = .error .missingDelimiter ↔
    line ≠ "" ∧ (pipes line.toList = 0 ∨ delimiters line.toList = 0)

/-- The counts of pipes and delimiters and the sections of a line agree. -/
theorem scans_agree (line : String) : ScansAgree line where
  cut_iff_scanned _ := scanned_iff.symm
  counted := (length_split line.toList).symm
  joined := join_split line.toList
  bounded := delimiters_le_pipes line.toList
  balanced_iff := delimiters_eq_pipes_iff line.toList
  reaches := by
    intro _ hdelimiters hcounts
    obtain ⟨method, url, others, hsplit⟩ := exists_split_of_counts hdelimiters
    exact ⟨method, url, others, hsplit, sections?_of_counts hdelimiters hcounts hsplit⟩
  missed_iff := by
    rw [parse_eq_missingDelimiter_iff, sections?_eq_missingDelimiter_iff]
    simp

/-- Two pipes that share a space: the first takes it, and the second is left in a section. -/
theorem scans_agree_shared_space :
    Scanned " | | ".toList [[], ['|', ' ']] ∧
      ¬delimiters " | | ".toList = pipes " | | ".toList := by
  have hsplit : split " | | ".toList = [[], ['|', ' ']] := by decide
  refine ⟨((scans_agree " | | ").cut_iff_scanned _).1 hsplit, ?_⟩
  rw [(scans_agree " | | ").balanced_iff, hsplit]
  decide

end RequestLine.Line
