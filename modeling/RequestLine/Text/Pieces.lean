/-!
# Pieces of a text

A text is cut at every character of a class. What is cut at one character can be put together
again, and no piece holds a character of the class.
-/

namespace RequestLine.Text

/-- The pieces of a text between the characters of a class; there is always at least one. -/
def pieces (divides : Char → Bool) : List Char → List (List Char)
  | [] => [[]]
  | c :: rest =>
    if divides c then [] :: pieces divides rest
    else match pieces divides rest with
      | [] => [[c]]
      | piece :: others => (c :: piece) :: others

theorem pieces_ne_nil (divides : Char → Bool) (text : List Char) : pieces divides text ≠ [] := by
  cases text with
  | nil => simp [pieces]
  | cons c rest =>
    simp only [pieces]
    split
    · simp
    · split <;> simp

/-- No piece holds a character of the class. -/
theorem divides_of_mem_pieces {divides : Char → Bool} {text piece : List Char} {c : Char}
    (h : piece ∈ pieces divides text) (hc : c ∈ piece) : divides c = false := by
  induction text generalizing piece with
  | nil => simp_all [pieces]
  | cons d rest ih =>
    simp only [pieces] at h
    split at h
    · rcases List.mem_cons.1 h with rfl | h
      · simp at hc
      · exact ih h hc
    · next hd =>
      split at h
      · simp_all
      · next first others hfirst =>
        rcases List.mem_cons.1 h with rfl | h
        · rcases List.mem_cons.1 hc with rfl | hc
          · simpa using hd
          · exact ih (hfirst ▸ List.mem_cons_self) hc
        · exact ih (hfirst ▸ List.mem_cons_of_mem _ h) hc

/-- What is cut at one character is put together again with that character. -/
theorem intercalate_pieces (mark : Char) (text : List Char) :
    List.intercalate [mark] (pieces (· == mark) text) = text := by
  induction text with
  | nil => rfl
  | cons c rest ih =>
    obtain ⟨first, others, h⟩ := List.exists_cons_of_ne_nil (pieces_ne_nil (· == mark) rest)
    rw [h] at ih
    by_cases hc : c = mark
    · simp only [pieces, hc, beq_self_eq_true, if_true, h]
      cases others <;> simp_all [List.intercalate]
    · simp only [pieces, beq_iff_eq, hc, if_false, h]
      cases others <;> simp_all [List.intercalate]

end RequestLine.Text
