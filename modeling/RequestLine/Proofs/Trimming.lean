import RequestLine.Text.Blank
import Mathlib.Data.List.TakeWhile

/-!
# Trimming

A trimmed text is a run of characters of the text that neither starts nor ends with a blank, and a
text of that kind is left as it is.
-/

namespace RequestLine.Text

/-- A text that neither starts nor ends with a blank. -/
structure Trimmed (text : List Char) : Prop where
  head : ∀ c ∈ text.head?, isBlank c = false
  last : ∀ c ∈ text.getLast?, isBlank c = false

theorem dropWhile_eq_self {p : Char → Bool} {text : List Char}
    (h : ∀ c ∈ text.head?, p c = false) : text.dropWhile p = text := by
  cases text with
  | nil => rfl
  | cons c text => exact List.dropWhile_cons_of_neg (by simp [h c rfl])

theorem head?_dropWhile {p : Char → Bool} {text : List Char} {c : Char}
    (h : c ∈ (text.dropWhile p).head?) : p c = false := by
  have hnot := List.head?_dropWhile_not p text
  rw [h] at hnot
  simpa using hnot

theorem trimEnd_isPrefix (p : Char → Bool) (text : List Char) : trimEnd p text <+: text := by
  have hsuffix : text.reverse.dropWhile p <:+ text.reverse := List.dropWhile_suffix p
  simpa [trimEnd] using List.reverse_prefix.2 hsuffix

theorem trim_isInfix (text : List Char) : trim text <:+: text := by
  have hstart : trimStart isBlank text <:+ text := List.dropWhile_suffix isBlank
  exact (trimEnd_isPrefix isBlank _).isInfix.trans hstart.isInfix

theorem trimmed_trim (text : List Char) : Trimmed (trim text) where
  head c hc := by
    -- what is left at the end starts as it did before
    have hhead : c ∈ (trimStart isBlank text).head? := by
      obtain ⟨rest, hrest⟩ := trimEnd_isPrefix isBlank (trimStart isBlank text)
      rw [← hrest]
      simp only [List.head?_append]
      rw [show (trimEnd isBlank (trimStart isBlank text)).head? = some c from hc]
      rfl
    exact head?_dropWhile hhead
  last c hc := by
    unfold trim trimBy trimEnd at hc
    rw [List.getLast?_reverse] at hc
    exact head?_dropWhile hc

theorem trim_eq_self {text : List Char} (h : Trimmed text) : trim text = text := by
  have hstart : trimStart isBlank text = text := dropWhile_eq_self h.head
  have hend : text.reverse.dropWhile isBlank = text.reverse := by
    refine dropWhile_eq_self ?_
    rw [List.head?_reverse]
    exact h.last
  rw [trim, trimBy, hstart, trimEnd, hend, List.reverse_reverse]

end RequestLine.Text
