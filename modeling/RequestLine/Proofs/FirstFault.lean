import RequestLine.Proofs.Reading

/-!
# The fault of a submission

The rules on submissions, each as a statement of its own about the submission and with the code and
the text that its author is told (`rules`). A submission that breaks several rules is told about the
first of them, and only then is it told anything (`reports_outcome_iff_firstOf`).

The rules do not speak of how a line is read: there is no counting in them, no cutting from left to
right, and no list of keywords that have been seen. A keyword section is compared with all sections
before it, whatever they are.
-/

namespace RequestLine

namespace Json

/-! ## Zero -/

namespace Binary64

theorem roundDiv_pos {num den : Nat} (hden : 0 < den) (h : den ≤ num) : 0 < roundDiv num den := by
  have hq : 0 < num / den := Nat.div_pos h hden
  unfold roundDiv
  dsimp only
  split
  · exact hq
  · split <;> omega

/-- Scaling a number down by no more than its highest bit leaves a quotient of at least one. -/
theorem scaled_le {n : Nat} (hn : n ≠ 0) {e : Int} (he : -(n.log2 : Int) ≤ e) :
    0 < (scaled 2 n 1 e).2 ∧ (scaled 2 n 1 e).2 ≤ (scaled 2 n 1 e).1 := by
  cases e with
  | ofNat k =>
    have hpow : 0 < n * Nat.pow 2 k := Nat.mul_pos (by omega) (Nat.pow_pos (by omega))
    exact ⟨Nat.one_pos, hpow⟩
  | negSucc k =>
    have hk : k + 1 ≤ n.log2 := by omega
    have hpow : Nat.pow 2 (k + 1) ≤ n :=
      (Nat.pow_le_pow_right (by omega) hk).trans (Nat.log2_self_le hn)
    have hpos : 0 < Nat.pow 2 (k + 1) := Nat.pow_pos (by omega)
    simp only [scaled, Nat.one_mul]
    exact ⟨hpos, hpow⟩

/-- No natural number but zero is rounded to zero. -/
theorem significand_ne_zero_of_ofNat? {n : Nat} {d : Binary64} (hn : n ≠ 0)
    (h : ofNat? n = some d) : d.significand ≠ 0 := by
  have hlog : Nat.log2 1 = 0 := by decide
  have hround : ∀ e : Int, -(n.log2 : Int) ≤ e →
      roundDiv (scaled 2 n 1 e).1 (scaled 2 n 1 e).2 ≠ 0 := fun e he =>
    Nat.ne_of_gt (roundDiv_pos (scaled_le hn he).1 (scaled_le hn he).2)
  unfold ofNat? ofRatio? at h
  rw [if_neg hn] at h
  dsimp only at h
  generalize htop : (if (scaled 2 n 1 (-((n.log2 : Int) - (Nat.log2 1 : Int)))).1 <
    (scaled 2 n 1 (-((n.log2 : Int) - (Nat.log2 1 : Int)))).2 then _ else _ : Int) = top at h
  have hle : top ≤ (n.log2 : Int) := by
    rw [← htop, hlog]
    split <;> omega
  have hne := hround (-max (-1074) (top - 52)) (by omega)
  generalize roundDiv (scaled 2 n 1 (-max (-1074) (top - 52))).1
    (scaled 2 n 1 (-max (-1074) (top - 52))).2 = significand at h hne
  by_cases hcarry : significand = 0x20000000000000
  · rw [if_pos hcarry] at h
    split at h
    · cases h
    · cases h
      simp
  · rw [if_neg hcarry] at h
    split at h
    · cases h
    · cases h
      exact hne

end Binary64

/-- A number as a double: an integer is rounded to the nearest one. -/
def Number.double? : Number → Option Binary64
  | .integer value _ => (Binary64.ofNat? value.natAbs).map ({ · with negative := value < 0 })
  | .double value => some value

/-- A number is zero exactly if the double that it is read as is zero. -/
theorem Number.isZero_iff (n : Number) : n.isZero ↔ ∃ d, n.double? = some d ∧ d.isZero := by
  cases n with
  | double value => simp [isZero, double?]
  | integer value range =>
    have hzero : (Number.integer value range).isZero ↔ value = 0 := by simp [isZero]
    rw [hzero]
    constructor
    · rintro rfl
      exact ⟨_, rfl, rfl⟩
    · rintro ⟨d, hd, hdzero⟩
      obtain ⟨e, he, rfl⟩ := Option.map_eq_some_iff.1 hd
      by_contra hne
      have hsignificand := Binary64.significand_ne_zero_of_ofNat? (by omega) he
      exact hsignificand (by simpa [Binary64.isZero] using hdzero)

end Json

namespace Line

/-! ## Verdicts -/

/-- What the author of a submission is told. -/
structure Verdict where
  code : String
  message : String

/-- What the author is told about a fault. -/
def Fault.verdict (f : Fault) : Verdict := ⟨f.code, f.message⟩

/-- A reading ends with a fault that is told as `v`. -/
def Reports {α : Type} (reading : Except Fault α) (v : Verdict) : Prop :=
  ∃ f, reading = .error f ∧ f.verdict = v

/-- A rule says which verdicts it passes: none unless it is broken. -/
abbrev Rule := Verdict → Prop

/-- A rule that passes a single verdict when it is broken. -/
def rule (broken : Prop) (code message : String) : Rule :=
  fun v => broken ∧ (⟨code, message⟩ : Verdict) = v

/-- A verdict of the first rule that passes any. -/
inductive FirstOf : List Rule → Verdict → Prop
  | here {r : Rule} {rules : List Rule} {v : Verdict} : r v → FirstOf (r :: rules) v
  | later {r : Rule} {rules : List Rule} {v : Verdict} :
    (∀ w, ¬r w) → FirstOf rules v → FirstOf (r :: rules) v

/-! ## The rules -/

/-- The rules on a keyword section, given the keyword sections before it. -/
def sectionRules (earlier : List (List Char)) (text : List Char) : List Rule :=
  let name := String.ofList (heading text)
  [rule (' ' ∉ text) "MISSING_KEYWORD_SPACE" "Missing space after keyword",
    rule (∃ t ∈ earlier, heading t = heading text) "DUPLICATE_KEYWORD"
      ("Duplicate keyword found: " ++ name),
    rule (heading text ≠ Text.uppercase (heading text)) "KEYWORD_NOT_UPPERCASE"
      "Keywords must be uppercase",
    rule (∀ k : Keyword, name ≠ k.name) "UNKNOWN_KEYWORD"
      ("Invalid keyword: " ++ name ++ ". Only HEADERS, QUERY, BODY are allowed"),
    rule (Json.parse? (Text.trim (literalOf text)) = none) "INVALID_SECTION_LITERAL"
      ("Invalid JSON format in " ++ name ++ " section")]

/-- A verdict on a keyword section when all sections before it are faultless. -/
def firstBadSection (texts : List (List Char)) : Rule := fun v =>
  ∃ i text, texts[i]? = some text ∧ FirstOf (sectionRules (texts.take i) text) v ∧
    ∀ j < i, ∀ t, texts[j]? = some t → ∀ w, ¬FirstOf (sectionRules (texts.take j) t) w

/-- The line joins sections without pipes, of which there are at least two. -/
def Cut (line : List Char) (s : Sections) : Prop :=
  line = join s.all ∧ ∀ t ∈ s.all, '|' ∉ t

/-- The rules on a line that can be cut. -/
def cutRules (line : List Char) : List Rule :=
  [rule (∃ s, Cut line s ∧ s.methodText ≠ Text.uppercase s.methodText) "METHOD_NOT_UPPERCASE"
      "HTTP method must be uppercase",
    rule (∃ s, Cut line s ∧ ¬httpMark <+: s.method) "MISSING_HTTP_KEYWORD"
      "Missing required HTTP keyword",
    rule (∃ s, Cut line s ∧ ¬urlMark <+: s.url) "MISSING_URL_KEYWORD"
      "Missing required URL keyword",
    rule (∃ s, Cut line s ∧ ∀ m : Method, String.ofList s.methodText ≠ m.name)
      "UNSUPPORTED_METHOD" "Invalid HTTP method. Only GET and POST are supported",
    rule ([' ', ' '] <:+: line) "DOUBLE_SPACE" "Multiple spaces found where single space expected",
    fun v => ∃ s, Cut line s ∧ firstBadSection s.others v]

/-- The rules on a line that is not empty. -/
def lineRules (line : List Char) : List Rule :=
  rule (¬delimiter <:+: line) "MISSING_DELIMITER" "Missing Delimiter" ::
    rule (¬∃ segments, line = join segments ∧ ∀ t ∈ segments, '|' ∉ t) "BAD_PIPE_SPACING"
      "Invalid spacing around pipe delimiter" ::
    cutRules line

namespace Submission

/-- Nothing has been handed in, or what counts as nothing. -/
def IsMissing : Submission → Prop
  | .text line | .member (some (.string line)) => line = ""
  | .member none | .member (some .null) => True
  | .member (some (.bool value)) => value = false
  | .member (some (.number n)) => ∃ d, n.double? = some d ∧ d.isZero
  | .member (some (.array _)) | .member (some (.object _)) => False

/-- The characters of a submission, if it is a text. -/
def chars? : Submission → Option (List Char)
  | .text line | .member (some (.string line)) => some line.toList
  | _ => none

/-- All rules, in order. -/
def rules (s : Submission) : List Rule :=
  rule s.IsMissing "MISSING_REQLINE" "Missing 'reqline' in request body" ::
    rule (s.chars? = none) "NOT_A_STRING" "Reqline must be a string" ::
    lineRules (s.chars?.getD [])

end Submission

/-! ## First rules and faults -/

section

variable {broken : Prop} {code message : String} {others : List Rule} {v : Verdict}

/-- A broken rule decides, whatever rules stand behind it. -/
theorem firstOf_of_broken (h : broken) :
    FirstOf (rule broken code message :: others) v ↔ (⟨code, message⟩ : Verdict) = v := by
  constructor
  · intro hfirst
    cases hfirst with
    | here hrule => exact hrule.2
    | later hnone => exact absurd ⟨h, rfl⟩ (hnone _)
  · exact fun hv => .here ⟨h, hv⟩

/-- A rule that is kept has no say. -/
theorem firstOf_of_not_broken (h : ¬broken) :
    FirstOf (rule broken code message :: others) v ↔ FirstOf others v := by
  constructor
  · intro hfirst
    cases hfirst with
    | here hrule => exact absurd hrule.1 h
    | later _ hfirst => exact hfirst
  · exact .later fun w hrule => h hrule.1

end

theorem firstOf_singleton {r : Rule} {v : Verdict} : FirstOf [r] v ↔ r v := by
  constructor
  · intro hfirst
    cases hfirst with
    | here hrule => exact hrule
    | later _ hfirst => cases hfirst
  · exact .here

theorem not_firstOf_nil {v : Verdict} : ¬FirstOf [] v := nofun

section

variable {α β : Type} {v : Verdict}

theorem reports_error {f : Fault} : Reports (.error f : Except Fault α) v ↔ f.verdict = v := by
  constructor
  · rintro ⟨g, hg, hv⟩
    cases hg
    exact hv
  · exact fun hv => ⟨f, rfl, hv⟩

theorem not_reports_ok {a : α} : ¬Reports (.ok a : Except Fault α) v := nofun

/-- Of two stages the first one reports, and the second only if the first went through. -/
theorem reports_bind {x : Except Fault α} {f : α → Except Fault β} :
    Reports (x >>= f) v ↔ Reports x v ∨ ∃ a, x = .ok a ∧ Reports (f a) v := by
  unfold Reports
  simp only [bind_eq_error, or_and_right, exists_or]
  constructor
  · rintro (h | ⟨g, ⟨a, ha, hg⟩, hv⟩)
    · exact .inl h
    · exact .inr ⟨a, ha, g, hg, hv⟩
  · rintro (h | ⟨a, ha, g, hg, hv⟩)
    · exact .inl h
    · exact .inr ⟨g, ⟨a, ha, hg⟩, hv⟩

end

/-! ## Keyword sections -/

/-- A run has met the keywords of the sections `earlier`. -/
def Met (p : Progress) (earlier : List (List Char)) : Prop :=
  ∀ name, name ∈ p.seen ↔ ∃ t ∈ earlier, heading t = name

/-- A section that is read is met from then on. -/
theorem Met.add {p q : Progress} {earlier : List (List Char)} {text : List Char}
    (hmet : Met p earlier) (h : p.add text = .ok q) : Met q (earlier ++ [text]) := by
  obtain ⟨k, v, value, rfl, -, -, rfl⟩ := Progress.add_eq_ok_iff.1 h
  intro name
  rw [List.mem_cons, hmet name]
  simp only [List.mem_append, List.mem_singleton]
  constructor
  · rintro (rfl | ⟨t, ht, hname⟩)
    · exact ⟨_, .inr rfl, heading_partText k v⟩
    · exact ⟨t, .inl ht, hname⟩
  · rintro ⟨t, ht | rfl, rfl⟩
    · exact .inr ⟨t, ht, rfl⟩
    · exact .inl (heading_partText k v)

/-- One section: it is told about the first rule that it breaks. -/
theorem reports_add_iff {p : Progress} {earlier : List (List Char)} (hmet : Met p earlier)
    {text : List Char} {v : Verdict} :
    Reports (p.add text) v ↔ FirstOf (sectionRules earlier text) v := by
  rw [Progress.add_eq]
  unfold sectionRules
  dsimp only
  by_cases hspace : ' ' ∉ text
  · rw [if_pos hspace, firstOf_of_broken hspace, reports_error]
    rfl
  rw [if_neg hspace, firstOf_of_not_broken hspace]
  by_cases hseen : heading text ∈ p.seen
  · rw [if_pos hseen, firstOf_of_broken ((hmet _).1 hseen), reports_error]
    rfl
  rw [if_neg hseen, firstOf_of_not_broken fun h => hseen ((hmet _).2 h)]
  by_cases hupper : heading text ≠ Text.uppercase (heading text)
  · rw [if_pos hupper, firstOf_of_broken hupper, reports_error]
    rfl
  rw [if_neg hupper, firstOf_of_not_broken hupper]
  cases hname : Keyword.ofName? (String.ofList (heading text)) with
  | none =>
    have hunknown : ∀ k : Keyword, String.ofList (heading text) ≠ k.name := by
      intro k hk
      rw [Keyword.ofName?_eq_some_iff.2 hk] at hname
      cases hname
    rw [firstOf_of_broken hunknown, reports_error]
    rfl
  | some k =>
    have hk := Keyword.ofName?_eq_some_iff.1 hname
    rw [firstOf_of_not_broken fun hunknown => hunknown k hk]
    cases hvalue : Json.parse? (Text.trim (literalOf text)) with
    | none =>
      rw [firstOf_of_broken rfl, reports_error, hk]
      rfl
    | some value =>
      rw [firstOf_of_not_broken (by simp)]
      exact iff_of_false not_reports_ok not_firstOf_nil

/-- A run of sections: it is told about the first bad one. The sections before the run count as
earlier ones. -/
theorem reports_foldlM_iff {p : Progress} {earlier : List (List Char)} (hmet : Met p earlier)
    {texts : List (List Char)} {v : Verdict} :
    Reports (texts.foldlM Progress.add p) v ↔
      ∃ i text, texts[i]? = some text ∧
        FirstOf (sectionRules (earlier ++ texts.take i) text) v ∧
        ∀ j < i, ∀ t, texts[j]? = some t →
          ∀ w, ¬FirstOf (sectionRules (earlier ++ texts.take j) t) w := by
  induction texts generalizing p earlier with
  | nil =>
    refine iff_of_false not_reports_ok ?_
    rintro ⟨i, text, htext, -⟩
    simp at htext
  | cons text texts ih =>
    have hstep : ∀ w, Reports (p.add text) w ↔ FirstOf (sectionRules earlier text) w :=
      fun w => reports_add_iff hmet
    rw [List.foldlM_cons, reports_bind]
    constructor
    · rintro (h | ⟨q, hq, h⟩)
      · refine ⟨0, text, rfl, ?_, by simp⟩
        simpa using (hstep v).1 h
      · obtain ⟨i, t, ht, hfirst, hlower⟩ := (ih (hmet.add hq)).1 h
        refine ⟨i + 1, t, by simpa using ht, by simpa using hfirst, ?_⟩
        intro j hj t' ht' w
        cases j with
        | zero =>
          obtain rfl : text = t' := by simpa using ht'
          intro hw
          have hreports := (hstep w).2 (by simpa using hw)
          rw [hq] at hreports
          exact not_reports_ok hreports
        | succ j => simpa using hlower j (by omega) t' (by simpa using ht') w
    · rintro ⟨i, t, ht, hfirst, hlower⟩
      cases i with
      | zero =>
        obtain rfl : text = t := by simpa using ht
        exact .inl ((hstep v).2 (by simpa using hfirst))
      | succ i =>
        have hgood : ∀ w, ¬Reports (p.add text) w := by
          intro w hw
          exact hlower 0 (by omega) text rfl w (by simpa using (hstep w).1 hw)
        cases hq : p.add text with
        | error f => exact absurd ⟨f, hq, rfl⟩ (hgood f.verdict)
        | ok q =>
          refine .inr ⟨q, rfl, (ih (hmet.add hq)).2 ⟨i, t, by simpa using ht, ?_, ?_⟩⟩
          · simpa using hfirst
          · intro j hj t' ht' w
            simpa using hlower (j + 1) (by omega) t' (by simpa using ht') w

/-! ## Lines -/

/-- A line is cut into sections exactly as the reader does it. -/
theorem cut_iff {line : List Char} {s : Sections} : Cut line s ↔ sections? line = .ok s :=
  sections?_eq_ok_iff.symm

/-- A line can be cut in one way only, so a statement about some cut is one about the cut. -/
theorem Cut.exists_and_iff {line : List Char} {s : Sections} (h : Cut line s)
    {Q : Sections → Prop} : (∃ t, Cut line t ∧ Q t) ↔ Q s := by
  constructor
  · rintro ⟨t, ht, hQ⟩
    rw [cut_iff] at h ht
    rw [h] at ht
    cases ht
    exact hQ
  · exact fun hQ => ⟨s, h, hQ⟩

/-- Without a delimiter among its characters a line is not cut. -/
theorem sections?_of_not_infix {line : List Char} (hne : line ≠ [])
    (h : ¬delimiter <:+: line) : sections? line = .error .missingDelimiter := by
  unfold sections?
  rw [if_neg (by simpa using hne), if_pos (.inr ((delimiters_eq_zero_iff line).2 h))]

/-- A pipe that is no part of a delimiter keeps a line from being cut. -/
theorem sections?_of_not_join {line : List Char} (hne : line ≠ [])
    (hdelimiter : delimiter <:+: line)
    (h : ¬∃ segments, line = join segments ∧ ∀ t ∈ segments, '|' ∉ t) :
    sections? line = .error .badPipeSpacing := by
  have hpos : delimiters line ≠ 0 := fun h0 => (delimiters_eq_zero_iff line).1 h0 hdelimiter
  have hle := delimiters_le_pipes line
  have hcounts : pipes line ≠ delimiters line := by
    intro heq
    exact h ⟨split line, (join_split line).symm, (delimiters_eq_pipes_iff line).1 heq.symm⟩
  unfold sections?
  rw [if_neg (by simpa using hne), if_neg (by omega), if_pos hcounts]

/-- A line with a delimiter and without stray pipes is cut. -/
theorem exists_cut {line : List Char} (hdelimiter : delimiter <:+: line)
    (h : ∃ segments, line = join segments ∧ ∀ t ∈ segments, '|' ∉ t) : ∃ s, Cut line s := by
  obtain ⟨segments, rfl, hpipes⟩ := h
  have hpos : delimiters (join segments) ≠ 0 :=
    fun h0 => (delimiters_eq_zero_iff _).1 h0 hdelimiter
  match segments, hpipes with
  | [], _ => exact absurd rfl hpos
  | [t], hpipes =>
    have hlength := length_eq_delimiters_join (by simp) hpipes
    simp only [List.length_singleton] at hlength
    omega
  | method :: url :: others, hpipes => exact ⟨⟨method, url, others⟩, rfl, hpipes⟩

/-- In a line that has been cut, the first rule that it breaks is reported. -/
theorem reports_describe_iff {line : List Char} {s : Sections} (h : Cut line s) {v : Verdict} :
    Reports (describe line s) v ↔ FirstOf (cutRules line) v := by
  rw [describe, opening_eq]
  unfold cutRules
  simp only [h.exists_and_iff]
  by_cases hupper : s.methodText ≠ Text.uppercase s.methodText
  · rw [if_pos hupper, firstOf_of_broken hupper]
    exact reports_error
  rw [if_neg hupper, firstOf_of_not_broken hupper]
  by_cases hhttp : ¬httpMark <+: s.method
  · rw [if_pos hhttp, firstOf_of_broken hhttp]
    exact reports_error
  rw [if_neg hhttp, firstOf_of_not_broken hhttp]
  by_cases hurl : ¬urlMark <+: s.url
  · rw [if_pos hurl, firstOf_of_broken hurl]
    exact reports_error
  rw [if_neg hurl, firstOf_of_not_broken hurl]
  cases hname : Method.ofName? (String.ofList s.methodText) with
  | none =>
    have hunsupported : ∀ m : Method, String.ofList s.methodText ≠ m.name := by
      intro m hm
      rw [Method.ofName?_eq_some_iff.2 hm] at hname
      cases hname
    rw [firstOf_of_broken hunsupported]
    exact reports_error
  | some m =>
    have hm := Method.ofName?_eq_some_iff.1 hname
    rw [firstOf_of_not_broken fun hunsupported => hunsupported m hm]
    by_cases hdouble : hasDoubleSpace line
    · rw [firstOf_of_broken ((hasDoubleSpace_iff line).1 hdouble)]
      simp only [hdouble, if_true]
      exact reports_error
    · rw [firstOf_of_not_broken fun hrun => hdouble ((hasDoubleSpace_iff line).2 hrun),
        firstOf_singleton]
      simp only [hdouble, Bool.false_eq_true, if_false]
      -- the opening has been read, and only the keyword sections are left
      let start : Progress := { descriptor := { method := m, url := String.ofList s.urlText } }
      have hstart : Met start [] := fun name => by simp [start]
      change Reports (s.others.foldlM Progress.add start >>= _) v ↔ _
      rw [reports_bind, reports_foldlM_iff hstart]
      simp only [List.nil_append]
      constructor
      · rintro (hbad | ⟨done, -, hdone⟩)
        · exact hbad
        · exact absurd hdone not_reports_ok
      · exact .inl

/-- In any line that is not empty, the first rule that it breaks is reported. -/
theorem reports_parse_iff {line : List Char} (hne : line ≠ []) {v : Verdict} :
    Reports (sections? line >>= describe line) v ↔ FirstOf (lineRules line) v := by
  unfold lineRules
  by_cases hdelimiter : ¬delimiter <:+: line
  · rw [firstOf_of_broken hdelimiter, sections?_of_not_infix hne hdelimiter]
    exact reports_error
  rw [firstOf_of_not_broken hdelimiter]
  by_cases hjoin : ¬∃ segments, line = join segments ∧ ∀ t ∈ segments, '|' ∉ t
  · rw [firstOf_of_broken hjoin, sections?_of_not_join hne (not_not.1 hdelimiter) hjoin]
    exact reports_error
  rw [firstOf_of_not_broken hjoin]
  obtain ⟨s, hs⟩ := exists_cut (not_not.1 hdelimiter) (not_not.1 hjoin)
  rw [cut_iff.1 hs]
  exact reports_describe_iff hs

/-! ## Submissions -/

namespace Submission

/-- Texts are read as lines, and an empty one counts as nothing. -/
theorem reports_outcome_iff_of_chars? {s : Submission} {line : String}
    (hline : s.line? = .ok line) (hchars : s.chars? = some line.toList)
    (hmissing : s.IsMissing ↔ line = "") {v : Verdict} :
    Reports s.outcome v ↔ FirstOf s.rules v := by
  have houtcome : s.outcome = parse line := by
    rw [outcome, hline]
    rfl
  unfold rules
  rw [houtcome, hchars]
  by_cases hempty : line = ""
  · rw [firstOf_of_broken (hmissing.2 hempty), hempty]
    exact reports_error
  · rw [firstOf_of_not_broken fun h => hempty (hmissing.1 h), firstOf_of_not_broken (by simp)]
    exact reports_parse_iff (by simpa using hempty)

/-- What is no text and does not count as nothing is no line. -/
theorem reports_outcome_iff_of_error {s : Submission} {f : Fault} (hline : s.line? = .error f)
    (hchars : s.chars? = none)
    (hfault : s.IsMissing ∧ f = .missingLine ∨ ¬s.IsMissing ∧ f = .notText) {v : Verdict} :
    Reports s.outcome v ↔ FirstOf s.rules v := by
  have houtcome : s.outcome = .error f := by
    rw [outcome, hline]
    rfl
  unfold rules
  rw [houtcome, reports_error]
  rcases hfault with ⟨hmissing, rfl⟩ | ⟨hmissing, rfl⟩
  · rw [firstOf_of_broken hmissing]
    rfl
  · rw [firstOf_of_not_broken hmissing, firstOf_of_broken hchars]
    rfl

end Submission

/-- A submission is told about the first rule that it breaks, and is told nothing otherwise. -/
theorem reports_outcome_iff_firstOf (s : Submission) (v : Verdict) :
    Reports s.outcome v ↔ FirstOf s.rules v := by
  match s with
  | .text line => exact Submission.reports_outcome_iff_of_chars? rfl rfl Iff.rfl
  | .member (some (.string line)) => exact Submission.reports_outcome_iff_of_chars? rfl rfl Iff.rfl
  | .member none | .member (some .null) | .member (some (.bool false)) =>
    refine Submission.reports_outcome_iff_of_error rfl rfl (.inl ⟨?_, rfl⟩)
    trivial
  | .member (some (.bool true)) =>
    exact Submission.reports_outcome_iff_of_error rfl rfl (.inr ⟨Bool.noConfusion, rfl⟩)
  | .member (some (.array _)) | .member (some (.object _)) =>
    exact Submission.reports_outcome_iff_of_error rfl rfl (.inr ⟨id, rfl⟩)
  | .member (some (.number n)) =>
    refine Submission.reports_outcome_iff_of_error rfl rfl ?_
    by_cases hzero : n.isZero
    · exact .inl ⟨n.isZero_iff.1 hzero, if_pos hzero⟩
    · exact .inr ⟨fun h => hzero (n.isZero_iff.2 h), if_neg hzero⟩

end Line

end RequestLine
