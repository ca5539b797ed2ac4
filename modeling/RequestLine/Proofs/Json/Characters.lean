import RequestLine.Proofs.Json.ReadBack
import RequestLine.Proofs.Pieces

/-!
# The characters of a written value

Outside its strings a written value has only the characters of a short list, whatever its numbers
are (`mem_textWith`). What a text must not contain thus depends on how the characters of strings are
written, and on nothing else.
-/

namespace RequestLine.Json

/-- The characters that a written value has outside its strings. -/
def marks : List Char := "[]\x7b\x7d:,\"+-.0123456789aeflnrstu".toList

/-! ## Numbers -/

theorem mem_marks_of_isDigit {c : Char} (h : c.isDigit = true) : c ∈ marks := by
  have hrange : 48 ≤ c.toNat ∧ c.toNat ≤ 57 := Char.isDigit_iff_toNat.1 h
  obtain ⟨n, hn⟩ : ∃ n, c.toNat = n := ⟨_, rfl⟩
  rw [← Char.ofNat_toNat c, hn]
  rw [hn] at hrange
  obtain ⟨hlow, hhigh⟩ := hrange
  interval_cases n <;> decide

theorem mem_marks_of_mem_toDigits {n : Nat} {c : Char} (h : c ∈ Nat.toDigits 10 n) : c ∈ marks :=
  mem_marks_of_isDigit (Nat.isDigit_of_mem_toDigits (by omega) (by omega) h)

namespace Number

theorem mem_marks_of_mem_integerText {i : Int} {c : Char} (h : c ∈ integerText i) : c ∈ marks := by
  unfold integerText at h
  split at h
  · rcases List.mem_cons.1 h with rfl | h
    · decide
    · exact mem_marks_of_mem_toDigits h
  · exact mem_marks_of_mem_toDigits h

/-- Whatever number of digits is tried, only digits come out of it. -/
theorem mem_marks_of_mem_shortestFrom {d : Binary64} {top : Int} {count tries : Nat} {c : Char}
    (h : c ∈ (d.shortestFrom top count tries).digits) : c ∈ marks := by
  fun_induction Binary64.shortestFrom d top count tries with
  | case1 => cases h
  | case2 => exact mem_marks_of_mem_toDigits h
  | case3 _ _ _ ih => exact ih h

theorem mem_marks_of_mem_shortest {d : Binary64} {c : Char} (h : c ∈ d.shortest.digits) :
    c ∈ marks := by
  unfold Binary64.shortest Binary64.shortest.withoutZeros at h
  rw [List.mem_reverse] at h
  exact mem_marks_of_mem_shortestFrom (List.mem_reverse.1 ((List.dropWhile_suffix _).subset h))

theorem mem_marks_of_mem_positional {digits : List Char} {exponent : Int}
    (hdigits : ∀ c ∈ digits, c ∈ marks) {c : Char} (h : c ∈ positional digits exponent) :
    c ∈ marks := by
  have hzeros : ∀ n, ∀ c ∈ List.replicate n '0', c ∈ marks := by
    intro n c hc
    rw [List.eq_of_mem_replicate hc]
    decide
  unfold positional at h
  cases exponent with
  | ofNat e =>
    have hpadded : ∀ c ∈ digits ++ List.replicate (e + 1 - digits.length) '0', c ∈ marks := by
      intro c hc
      rcases List.mem_append.1 hc with hc | hc
      · exact hdigits c hc
      · exact hzeros _ c hc
    simp only [List.mem_append, List.mem_singleton] at h
    rcases h with (h | rfl) | h
    · exact hpadded c (List.mem_of_mem_take h)
    · decide
    · split at h
      · rw [List.mem_singleton.1 h]
        decide
      · exact hpadded c (List.mem_of_mem_drop h)
  | negSucc e =>
    simp only [List.mem_append, List.mem_cons, List.not_mem_nil, or_false] at h
    rcases h with ((rfl | rfl) | h) | h
    · decide
    · decide
    · exact hzeros _ c h
    · exact hdigits c h

theorem mem_marks_of_mem_scientific {digits : List Char} {exponent : Int}
    (hdigits : ∀ c ∈ digits, c ∈ marks) {c : Char} (h : c ∈ scientific digits exponent) :
    c ∈ marks := by
  unfold scientific at h
  simp only [List.mem_append, List.mem_cons, List.not_mem_nil, or_false] at h
  rcases h with (h | rfl | rfl) | h
  · split at h
    · cases h
    · exact hdigits c h
    · next d rest _ =>
      rcases List.mem_cons.1 h with rfl | h
      · exact hdigits _ List.mem_cons_self
      · rcases List.mem_cons.1 h with rfl | h
        · decide
        · exact hdigits c (List.mem_cons_of_mem _ h)
  · decide
  · split <;> decide
  · exact mem_marks_of_mem_toDigits h

/-- A double is written in digits and marks in either notation. -/
theorem mem_marks_of_mem_doubleText {d : Binary64} {c : Char} (h : c ∈ doubleText d) :
    c ∈ marks := by
  have hsign : (if d.negative then ['-'] else []) ⊆ marks := by
    split <;> decide
  have hdigits : ∀ c ∈ d.shortest.digits, c ∈ marks := fun c hc => mem_marks_of_mem_shortest hc
  have hzero : ['0', '.', '0'] ⊆ marks := by decide
  dsimp only [doubleText] at h
  generalize (if d.negative then ['-'] else []) = sign at h hsign
  split at h
  · exact (List.mem_append.1 h).elim (@hsign c) (@hzero c)
  · split at h
    · exact (List.mem_append.1 h).elim (@hsign c) (mem_marks_of_mem_positional hdigits)
    · exact (List.mem_append.1 h).elim (@hsign c) (mem_marks_of_mem_scientific hdigits)

theorem mem_marks_of_mem_text {n : Number} {c : Char} (h : c ∈ n.text) : c ∈ marks := by
  cases n with
  | integer i range => exact mem_marks_of_mem_integerText h
  | double d => exact mem_marks_of_mem_doubleText h

end Number

/-! ## Values -/

variable {esc : Char → List Char} {d : Char}

/-- A quoted text holds quotes and what its characters are escaped to. -/
theorem mem_quoteWith {text : String} (h : d ∈ quoteWith esc text) :
    d ∈ marks ∨ ∃ c, d ∈ esc c := by
  simp only [quoteWith, List.mem_cons, List.mem_append, List.mem_flatMap, List.not_mem_nil,
    or_false] at h
  rcases h with rfl | ⟨c, _, hc⟩ | rfl
  · exact .inl (by decide)
  · exact .inr ⟨c, hc⟩
  · exact .inl (by decide)

/-- A character of a written value is one of the marks or belongs to a written character. -/
theorem mem_textWith {v : Json} (h : d ∈ textWith esc v) : d ∈ marks ∨ ∃ c, d ∈ esc c := by
  induction v using Json.induction with
  | null =>
    have hnull : ['n', 'u', 'l', 'l'] ⊆ marks := by decide
    rw [textWith] at h
    exact .inl (hnull h)
  | bool b =>
    have htrue : ['t', 'r', 'u', 'e'] ⊆ marks := by decide
    have hfalse : ['f', 'a', 'l', 's', 'e'] ⊆ marks := by decide
    cases b with
    | true =>
      rw [textWith] at h
      exact .inl (htrue h)
    | false =>
      rw [textWith] at h
      exact .inl (hfalse h)
  | number n =>
    rw [textWith] at h
    exact .inl (Number.mem_marks_of_mem_text h)
  | string text =>
    rw [textWith] at h
    exact mem_quoteWith h
  | array items ih =>
    rw [textWith, List.mem_cons, List.mem_append, List.mem_singleton] at h
    rcases h with rfl | h | rfl
    · exact .inl (by decide)
    · rcases Text.mem_intercalate h with rfl | ⟨text, htext, hd⟩
      · exact .inl (by decide)
      · obtain ⟨v, hv, rfl⟩ := List.mem_map.1 htext
        exact ih v hv hd
    · exact .inl (by decide)
  | object members ih =>
    rw [textWith_object, List.mem_cons, List.mem_append, List.mem_singleton] at h
    rcases h with rfl | h | rfl
    · exact .inl (by decide)
    · rcases Text.mem_intercalate h with rfl | ⟨text, htext, hd⟩
      · exact .inl (by decide)
      · obtain ⟨m, hm, rfl⟩ := List.mem_map.1 htext
        rw [memberWith, List.mem_append, List.mem_cons] at hd
        rcases hd with hd | rfl | hd
        · exact mem_quoteWith hd
        · exact .inl (by decide)
        · exact ih m hm hd
    · exact .inl (by decide)

/-! ## Escapes -/

/-- The characters that the compact text uses in escapes. -/
def escapeMarks : List Char := "\\\"bfnrtu0123456789abcdef".toList

theorem hexFour_subset_escapeMarks {n : Nat} (hn : n < 0x20) : hexFour n ⊆ escapeMarks := by
  interval_cases n <;> decide

/-- A character is written as it is, unless it is a control character, or with an escape. -/
theorem mem_escape {c d : Char} (h : d ∈ escape c) :
    d = c ∧ ¬c.toNat < 0x20 ∨ d ∈ escapeMarks := by
  have hpair : ∀ e ∈ escapeMarks, d ∈ ['\\', e] → d ∈ escapeMarks := by
    intro e he hd
    simp only [List.mem_cons, List.not_mem_nil, or_false] at hd
    rcases hd with rfl | rfl
    · decide
    · exact he
  unfold escape at h
  split at h
  · exact .inr (hpair _ (by decide) h)
  · exact .inr (hpair _ (by decide) h)
  · exact .inr (hpair _ (by decide) h)
  · exact .inr (hpair _ (by decide) h)
  · exact .inr (hpair _ (by decide) h)
  · exact .inr (hpair _ (by decide) h)
  · exact .inr (hpair _ (by decide) h)
  · split at h
    · next hcontrol =>
      rcases List.mem_append.1 h with h | h
      · exact .inr (hpair _ (by decide) h)
      · exact .inr (hexFour_subset_escapeMarks hcontrol h)
    · next hcontrol => exact .inl ⟨List.mem_singleton.1 h, hcontrol⟩

/-- The compact text has no control characters. -/
theorem le_toNat_of_mem_chars {v : Json} {c : Char} (h : c ∈ v.chars) : 0x20 ≤ c.toNat := by
  have hmarks : marks.all (0x20 ≤ ·.toNat) := by decide
  have hescapes : escapeMarks.all (0x20 ≤ ·.toNat) := by decide
  rw [List.all_eq_true] at hmarks hescapes
  rw [chars_eq_textWith] at h
  rcases mem_textWith h with h | ⟨d, h⟩
  · exact of_decide_eq_true (hmarks c h)
  · rcases mem_escape h with ⟨rfl, hcontrol⟩ | h
    · exact Nat.le_of_not_lt hcontrol
    · exact of_decide_eq_true (hescapes c h)

end RequestLine.Json
