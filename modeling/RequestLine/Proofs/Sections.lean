import RequestLine.Line.Sections
import Mathlib.Data.List.Basic
import Mathlib.Data.List.Infix

/-!
# Cutting and joining lines

A line is cut from left to right by three scans of its own: one counts the delimiters, one counts
the pipes and one collects the sections. They agree with one another:

* joining the sections gives the line back (`join_split`), and there is one section more than there
  are delimiters (`length_split`);
* a pipe belongs to a delimiter or to a section (`pipes_eq`), so the two counts are equal exactly
  when no section holds a pipe (`delimiters_eq_pipes_iff`);
* texts without pipes are the sections of the line that they join (`split_join`). Pipes inside the
  texts would let a delimiter begin in one text and end in another, so the condition is needed.
-/

namespace RequestLine.Line

/-! ## Joining -/

@[simp] theorem join_singleton (s : List Char) : join [s] = s := by
  simp [join]

theorem join_cons {s : List Char} {rest : List (List Char)} (h : rest ≠ []) :
    join (s :: rest) = s ++ delimiter ++ join rest := by
  obtain ⟨t, others, rfl⟩ := List.exists_cons_of_ne_nil h
  simp [join, List.intercalate]

/-- A joined line is its first section, followed by the others with a delimiter before each. -/
theorem join_eq_append_flatMap (s : List Char) (rest : List (List Char)) :
    join (s :: rest) = s ++ rest.flatMap (delimiter ++ ·) := by
  induction rest generalizing s with
  | nil => simp
  | cons t rest ih => rw [join_cons (by simp), ih t]; simp

theorem consFirst_ne_nil (c : Char) (sections : List (List Char)) : consFirst c sections ≠ [] := by
  cases sections <;> simp [consFirst]

theorem join_consFirst {c : Char} {sections : List (List Char)} (h : sections ≠ []) :
    join (consFirst c sections) = c :: join sections := by
  obtain ⟨s, rest, rfl⟩ := List.exists_cons_of_ne_nil h
  simp only [consFirst, join_eq_append_flatMap, List.cons_append]

theorem length_consFirst {c : Char} {sections : List (List Char)} (h : sections ≠ []) :
    (consFirst c sections).length = sections.length := by
  obtain ⟨s, rest, rfl⟩ := List.exists_cons_of_ne_nil h
  rfl

theorem flatten_consFirst (c : Char) (sections : List (List Char)) :
    (consFirst c sections).flatten = c :: sections.flatten := by
  cases sections <;> simp [consFirst]

/-! ## Cutting -/

theorem split_ne_nil (line : List Char) : split line ≠ [] := by
  fun_cases split line
  · simp
  · exact consFirst_ne_nil _ _
  · simp

/-- Nothing is lost by cutting. -/
theorem join_split (line : List Char) : join (split line) = line := by
  fun_induction split line with
  | case1 rest ih =>
    rw [join_cons (split_ne_nil rest), ih]
    rfl
  | case2 c rest _ ih => rw [join_consFirst (split_ne_nil rest), ih]
  | case3 => rfl

theorem length_split (line : List Char) : (split line).length = delimiters line + 1 := by
  fun_induction split line with
  | case1 rest ih => simp [delimiters, ih]
  | case2 c rest hc ih => rw [length_consFirst (split_ne_nil rest), ih, delimiters.eq_2 _ _ hc]
  | case3 => rfl

theorem pipes_append (a b : List Char) : pipes (a ++ b) = pipes a + pipes b :=
  List.count_append

/-- Every pipe belongs to a delimiter or to a section. -/
theorem pipes_eq (line : List Char) :
    pipes line = delimiters line + pipes (split line).flatten := by
  fun_induction split line with
  | case1 rest ih =>
    have hpipes : pipes (delimiter ++ rest) = 1 + pipes rest := pipes_append delimiter rest
    change pipes (delimiter ++ rest) = _
    rw [hpipes, ih, delimiters, List.flatten_cons, List.nil_append]
    omega
  | case2 c rest hc ih =>
    rw [flatten_consFirst, delimiters.eq_2 _ _ hc, ← List.singleton_append, pipes_append, ih,
      ← List.singleton_append (l := (split rest).flatten), pipes_append]
    omega
  | case3 => rfl

theorem delimiters_le_pipes (line : List Char) : delimiters line ≤ pipes line := by
  rw [pipes_eq]
  exact Nat.le_add_right _ _

/-- Every pipe is part of a delimiter exactly if none is left in a section. -/
theorem delimiters_eq_pipes_iff (line : List Char) :
    delimiters line = pipes line ↔ ∀ s ∈ split line, '|' ∉ s := by
  have hflatten : delimiters line = pipes line ↔ pipes (split line).flatten = 0 := by
    rw [pipes_eq]
    omega
  rw [hflatten, pipes, List.count_eq_zero]
  simp

/-! ## Texts without pipes -/

/-- A delimiter has its pipe in the second place, so none begins before another character there. -/
theorem split_cons_of_head?_ne {c : Char} {rest : List Char} (h : rest.head? ≠ some '|') :
    split (c :: rest) = consFirst c (split rest) := by
  rw [split.eq_2]
  rintro rest' - rfl
  exact h rfl

theorem split_pipeless_append {s : List Char} (hs : '|' ∉ s) (rest : List Char) :
    split (s ++ delimiter ++ rest) = s :: split rest := by
  induction s with
  | nil => rfl
  | cons c s ih =>
    simp only [List.mem_cons, not_or] at hs
    have hhead : (s ++ delimiter ++ rest).head? ≠ some '|' := by
      cases s with
      | nil => simp [delimiter]
      | cons d s =>
        intro h
        have hd : d = '|' := by simpa using h
        exact hs.2 (hd ▸ List.mem_cons_self)
    rw [List.cons_append, List.cons_append, split_cons_of_head?_ne hhead, ih hs.2]
    rfl

theorem split_pipeless {s : List Char} (hs : '|' ∉ s) : split s = [s] := by
  induction s with
  | nil => rfl
  | cons c s ih =>
    simp only [List.mem_cons, not_or] at hs
    have hhead : s.head? ≠ some '|' := fun h => hs.2 (List.mem_of_mem_head? h)
    rw [split_cons_of_head?_ne hhead, ih hs.2]
    rfl

/-- Sections without pipes are found again in the line that they make up. -/
theorem split_join {sections : List (List Char)} (hne : sections ≠ [])
    (h : ∀ s ∈ sections, '|' ∉ s) : split (join sections) = sections := by
  induction sections with
  | nil => exact absurd rfl hne
  | cons s rest ih =>
    have hs : '|' ∉ s := h s List.mem_cons_self
    cases rest with
    | nil => rw [join_singleton, split_pipeless hs]
    | cons t rest =>
      have hrest : ∀ s ∈ t :: rest, '|' ∉ s := fun s hs => h s (List.mem_cons_of_mem _ hs)
      rw [join_cons (by simp), split_pipeless_append hs, ih (by simp) hrest]

/-- All pipes of such a line are in its delimiters. -/
theorem delimiters_join {sections : List (List Char)} (hne : sections ≠ [])
    (h : ∀ s ∈ sections, '|' ∉ s) : delimiters (join sections) = pipes (join sections) := by
  rw [delimiters_eq_pipes_iff, split_join hne h]
  exact h

theorem length_eq_delimiters_join {sections : List (List Char)} (hne : sections ≠ [])
    (h : ∀ s ∈ sections, '|' ∉ s) : sections.length = delimiters (join sections) + 1 := by
  rw [← length_split, split_join hne h]

/-! ## Runs of characters -/

/-- The scans pass over a character where no delimiter begins. -/
theorem not_prefix_of_ne {c : Char} {rest : List Char}
    (h : ∀ rest', c = ' ' → rest = '|' :: ' ' :: rest' → False) : ¬delimiter <+: c :: rest := by
  rintro ⟨rest', heq⟩
  obtain ⟨rfl, rfl⟩ : ' ' = c ∧ '|' :: ' ' :: rest' = rest := by simpa [delimiter] using heq
  exact h rest' rfl rfl

/-- There is no delimiter to count exactly when the line has none as a run of its characters. -/
theorem delimiters_eq_zero_iff (line : List Char) : delimiters line = 0 ↔ ¬delimiter <:+: line := by
  fun_induction delimiters line with
  | case1 rest ih =>
    have : delimiter <:+: ' ' :: '|' :: ' ' :: rest := ⟨[], rest, rfl⟩
    simp [this]
  | case2 c rest hc ih =>
    rw [ih, List.infix_cons_iff]
    simp [not_prefix_of_ne hc]
  | case3 => simp [delimiter]

/-- Every section but the first stands behind a delimiter. -/
theorem delimiter_append_infix_join {s first : List Char} {rest : List (List Char)} (h : s ∈ rest) :
    delimiter ++ s <:+: join (first :: rest) := by
  have hrest : delimiter ++ s <:+: rest.flatMap (delimiter ++ ·) :=
    List.infix_of_mem_flatten (List.mem_map_of_mem h)
  rw [join_eq_append_flatMap]
  exact hrest.trans (List.suffix_append _ _).isInfix

/-- Every section is a run of characters of the line. -/
theorem infix_join {s : List Char} {sections : List (List Char)} (h : s ∈ sections) :
    s <:+: join sections := by
  obtain ⟨first, rest, rfl⟩ := List.exists_cons_of_ne_nil (List.ne_nil_of_mem h)
  rcases List.mem_cons.1 h with rfl | h
  · rw [join_eq_append_flatMap]
    exact (List.prefix_append _ _).isInfix
  · exact (List.suffix_append _ _).isInfix.trans (delimiter_append_infix_join h)

theorem hasDoubleSpace_iff (line : List Char) : hasDoubleSpace line ↔ [' ', ' '] <:+: line := by
  fun_induction hasDoubleSpace line with
  | case1 rest =>
    have : [' ', ' '] <:+: ' ' :: ' ' :: rest := ⟨[], rest, rfl⟩
    simp [this]
  | case2 c rest hc ih =>
    have hstart : ¬[' ', ' '] <+: c :: rest := by
      rintro ⟨rest', h⟩
      obtain ⟨rfl, rfl⟩ : ' ' = c ∧ ' ' :: rest' = rest := by simpa using h
      exact hc rest' rfl rfl
    rw [ih, List.infix_cons_iff]
    simp [hstart]
  | case3 => simp

/-! ## Single spaces -/

theorem hasDoubleSpace_cons (c : Char) (line : List Char) :
    hasDoubleSpace (c :: line) ↔ c = ' ' ∧ line.head? = some ' ' ∨ hasDoubleSpace line := by
  by_cases hstart : c = ' ' ∧ line.head? = some ' '
  · obtain ⟨rfl, hhead⟩ := hstart
    obtain ⟨rest, rfl⟩ := List.head?_eq_some_iff.1 hhead
    simp [hasDoubleSpace]
  · rw [hasDoubleSpace.eq_2]
    · simp [hstart]
    · rintro rest rfl rfl
      exact hstart ⟨rfl, rfl⟩

theorem hasDoubleSpace_append (a b : List Char) :
    hasDoubleSpace (a ++ b) ↔
      hasDoubleSpace a ∨ hasDoubleSpace b ∨ a.getLast? = some ' ' ∧ b.head? = some ' ' := by
  induction a with
  | nil => simp [hasDoubleSpace]
  | cons c a ih =>
    rw [List.cons_append, hasDoubleSpace_cons, hasDoubleSpace_cons, ih]
    cases a with
    | nil => simp [hasDoubleSpace, or_comm]
    | cons d a => simp [List.getLast?_cons_cons, or_assoc]

/-- A text without double spaces that may stand between single spaces. -/
structure Tight (text : List Char) : Prop where
  ne_nil : text ≠ []
  single : ¬hasDoubleSpace text
  head : text.head? ≠ some ' '
  last : text.getLast? ≠ some ' '

/-- Tight texts with a space between them are a tight text. -/
theorem Tight.append_space {a b : List Char} (ha : Tight a) (hb : Tight b) :
    Tight (a ++ ' ' :: b) where
  ne_nil := by simp
  single := by
    rw [hasDoubleSpace_append, hasDoubleSpace_cons]
    simp [ha.single, ha.last, hb.single, hb.head]
  head := by
    rw [List.head?_append_of_ne_nil _ ha.ne_nil]
    exact ha.head
  last := by
    obtain ⟨c, b, rfl⟩ := List.exists_cons_of_ne_nil hb.ne_nil
    rw [List.getLast?_append_of_ne_nil _ (by simp), List.getLast?_cons_cons]
    exact hb.last

/-- Around a space a tight text has tight texts. -/
theorem Tight.of_append_space {a b : List Char} (h : Tight (a ++ ' ' :: b)) :
    Tight a ∧ Tight b := by
  have hsingle := h.single
  rw [hasDoubleSpace_append, hasDoubleSpace_cons] at hsingle
  simp only [List.head?_cons, not_or, and_true, true_and] at hsingle
  obtain ⟨hsinglea, ⟨hheadb, hsingleb⟩, hlasta⟩ := hsingle
  have hnea : a ≠ [] := by
    rintro rfl
    exact h.head rfl
  have hneb : b ≠ [] := by
    rintro rfl
    exact h.last (by simp)
  refine ⟨⟨hnea, hsinglea, ?_, hlasta⟩, ⟨hneb, hsingleb, hheadb, ?_⟩⟩
  · rw [← List.head?_append_of_ne_nil a hnea]
    exact h.head
  · obtain ⟨c, b, rfl⟩ := List.exists_cons_of_ne_nil hneb
    rw [← List.getLast?_cons_cons (a := ' '), ← List.getLast?_append_of_ne_nil a (by simp)]
    exact h.last

/-- Single spaces stay single where sections are joined. -/
theorem tight_join {sections : List (List Char)} (hne : sections ≠ [])
    (h : ∀ s ∈ sections, Tight s) : Tight (join sections) := by
  induction sections with
  | nil => exact absurd rfl hne
  | cons s rest ih =>
    have hs : Tight s := h s List.mem_cons_self
    cases rest with
    | nil => rwa [join_singleton]
    | cons t rest =>
      have hrest := ih (by simp) fun s hs => h s (List.mem_cons_of_mem _ hs)
      have hpipe : Tight ['|'] := by constructor <;> decide
      have hjoin := hs.append_space (hpipe.append_space hrest)
      rw [join_cons (by simp)]
      simpa [delimiter] using hjoin

/-- A line is tight only if its sections are. -/
theorem tight_of_tight_join {sections : List (List Char)} (h : Tight (join sections)) :
    ∀ s ∈ sections, Tight s := by
  induction sections with
  | nil => simp
  | cons s rest ih =>
    cases rest with
    | nil => simpa using h
    | cons t rest =>
      rw [join_cons (by simp), List.append_assoc] at h
      obtain ⟨hs, hrest⟩ := Tight.of_append_space (b := '|' :: ' ' :: join (t :: rest)) h
      obtain ⟨-, hrest⟩ := Tight.of_append_space (a := ['|']) hrest
      intro u hu
      rcases List.mem_cons.1 hu with rfl | hu
      · exact hs
      · exact ih hrest u hu

end RequestLine.Line
