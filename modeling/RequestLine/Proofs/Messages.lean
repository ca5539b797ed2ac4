import RequestLine.Proofs.Reading

/-!
# What messages repeat

The text about a fault is fixed, but for the name of a keyword that it may repeat (`quoted`). Such a
name is a run of characters of the line (`quoted_isInfix`), so a message has no character that is
neither in the line nor visible (`mem_message_of_parse`).
-/

namespace RequestLine.Line

/-- What the text about a fault repeats of the line. -/
def Fault.quoted : Fault → List Char
  | .duplicateKeyword name | .unknownKeyword name => name.toList
  | _ => []

/-- The rest of the text is made of characters that are no controls. -/
theorem Fault.mem_message {f : Fault} {c : Char} (h : c ∈ f.message.toList) :
    c ∈ f.quoted ∨ 0x20 ≤ c.toNat := by
  have hvisible : ∀ text : List Char, text.all (0x20 ≤ ·.toNat) → c ∈ text →
      c ∈ f.quoted ∨ 0x20 ≤ c.toNat := by
    intro text htext hc
    rw [List.all_eq_true] at htext
    exact .inr (of_decide_eq_true (htext c hc))
  cases f with
  | duplicateKeyword name =>
    rw [show (duplicateKeyword name).message = "Duplicate keyword found: " ++ name from rfl,
      String.toList_append, List.mem_append] at h
    rcases h with h | h
    · exact hvisible _ (by decide +kernel) h
    · exact .inl h
  | unknownKeyword name =>
    rw [show (unknownKeyword name).message = "Invalid keyword: " ++ name ++
      ". Only HEADERS, QUERY, BODY are allowed" from rfl, String.toList_append,
      String.toList_append, List.mem_append, List.mem_append] at h
    rcases h with (h | h) | h
    · exact hvisible _ (by decide +kernel) h
    · exact .inl h
    · exact hvisible _ (by decide +kernel) h
  | invalidLiteral keyword => cases keyword <;> exact hvisible _ (by decide +kernel) h
  | _ => exact hvisible _ (by decide +kernel) h

/-! ## Where the repeated text comes from -/

theorem quoted_of_sections? {line : List Char} {f : Fault} (h : sections? line = .error f) :
    f.quoted = [] := by
  rcases fault_of_sections? h with rfl | rfl | rfl <;> rfl

/-- The faults of the first two sections quote nothing. -/
theorem quoted_of_opening {line : List Char} {s : Sections} {f : Fault}
    (h : opening line s = .error f) : f.quoted = [] := by
  rcases fault_of_opening h with rfl | rfl | rfl | rfl | rfl <;> rfl

/-- One section: its fault repeats at most its own keyword. -/
theorem quoted_of_add {p : Progress} {text : List Char} {f : Fault} (h : p.add text = .error f) :
    f.quoted <:+: text := by
  have hheading : (String.ofList (heading text)).toList <:+: text := by
    rw [String.toList_ofList]
    exact (List.takeWhile_prefix _).isInfix
  rcases fault_of_add h with rfl | rfl | rfl | rfl | ⟨k, rfl⟩
  · exact List.nil_infix
  · exact hheading
  · exact List.nil_infix
  · exact hheading
  · exact List.nil_infix

/-- What a fault quotes stands in the line. -/
theorem quoted_isInfix {line : String} {f : Fault} (h : parse line = .error f) :
    f.quoted <:+: line.toList := by
  have hnil : f.quoted = [] → f.quoted <:+: line.toList := fun hnil => hnil ▸ List.nil_infix
  rw [parse, bind_eq_error] at h
  rcases h with h | ⟨s, hs, h⟩
  · exact hnil (quoted_of_sections? h)
  · rcases opening_or_add_of_describe_eq_error h with h | ⟨q, text, htext, h⟩
    · exact hnil (quoted_of_opening h)
    · obtain ⟨hline, -⟩ := sections?_eq_ok_iff.1 hs
      rw [hline]
      exact (quoted_of_add h).trans
        (infix_join (List.mem_cons_of_mem _ (List.mem_cons_of_mem _ htext)))

/-- A message holds no control character that the line does not hold. -/
theorem mem_message_of_parse {line : String} {f : Fault} (h : parse line = .error f) {c : Char}
    (hc : c ∈ f.message.toList) : c ∈ line.toList ∨ 0x20 ≤ c.toNat :=
  (Fault.mem_message hc).imp_left fun hmem => (quoted_isInfix h).subset hmem

end RequestLine.Line
