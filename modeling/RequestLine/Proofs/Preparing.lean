import RequestLine.Proofs.Results
import RequestLine.Request.Wire

/-!
# The stages of building a request

A request is built in three stages: its address is read, then its query section, then its headers
section. What all stages need is said once (`prepare_eq_ok_iff`), and which stage fails first
(`prepare_eq_error_iff`).
-/

namespace RequestLine

theorem Json.kind_eq_object_iff {v : Json} : v.kind = .object ↔ ∃ members, v = .object members := by
  cases v <;> simp [Json.kind]

namespace Descriptor

variable {d : Descriptor}

/-- A section gives pairs exactly if it is an object. -/
theorem pairs_eq_ok_iff {k : Keyword} {pairs : List (String × String)} :
    d.pairs k = .ok pairs ↔ ∃ members, d.get k = .object members ∧ pairs = plainPairs members := by
  unfold Descriptor.pairs
  cases d.get k <;> simp [eq_comm]

/-- Otherwise the failure names the section and what it is instead. -/
theorem pairs_eq_error_iff {k : Keyword} {failure : Failure} :
    d.pairs k = .error failure ↔
      (d.get k).kind ≠ .object ∧ failure = .notObject k (d.get k).kind := by
  unfold Descriptor.pairs
  cases d.get k <;> simp [Json.kind, eq_comm]

/-- A request is built from an absolute address and two sections that are objects. -/
theorem prepare_eq_ok_iff {p : Prepared} :
    d.prepare = .ok p ↔ ∃ url query headers, Url.parse d.url = .ok url ∧
      d.query = .object query ∧ d.headers = .object headers ∧
      p = ⟨d, d.method, url.withPairs (plainPairs query),
        allHeaders d.method (plainPairs headers), d.content⟩ := by
  unfold prepare
  cases Url.parse d.url with
  | error cause => simp
  | ok url =>
    simp only [bind_eq_ok, pairs_eq_ok_iff]
    constructor
    · rintro ⟨_, ⟨query, hquery, rfl⟩, _, ⟨headers, hheaders, rfl⟩, h⟩
      cases h
      exact ⟨url, query, headers, rfl, hquery, hheaders, rfl⟩
    · rintro ⟨url', query, headers, hurl, hquery, hheaders, rfl⟩
      cases hurl
      exact ⟨_, ⟨query, hquery, rfl⟩, _, ⟨headers, hheaders, rfl⟩, rfl⟩

/-- The address is looked at first, then the query section, then the headers section. -/
theorem prepare_eq_error_iff {failure : Failure} :
    d.prepare = .error failure ↔
      (∃ cause, Url.parse d.url = .error cause ∧ failure = .badUrl d.url cause) ∨
      (∃ url, Url.parse d.url = .ok url) ∧
        (d.query.kind ≠ .object ∧ failure = .notObject .query d.query.kind ∨
          d.query.kind = .object ∧ d.headers.kind ≠ .object ∧
            failure = .notObject .headers d.headers.kind) := by
  unfold prepare
  cases Url.parse d.url with
  | error cause => simp [eq_comm]
  | ok url =>
    have hbuilt : ∀ k, (∃ pairs, d.pairs k = .ok pairs) ↔ (d.get k).kind = .object := by
      intro k
      simp [pairs_eq_ok_iff, Json.kind_eq_object_iff, exists_comm]
    constructor
    · intro h
      rw [bind_eq_error] at h
      rcases h with h | ⟨query, hquery, h⟩
      · exact .inr ⟨⟨url, rfl⟩, .inl (pairs_eq_error_iff.1 h)⟩
      · rw [bind_eq_error] at h
        rcases h with h | ⟨headers, -, h⟩
        · exact .inr ⟨⟨url, rfl⟩, .inr ⟨(hbuilt .query).1 ⟨query, hquery⟩, pairs_eq_error_iff.1 h⟩⟩
        · cases h
    · rintro (⟨cause, hcause, -⟩ | ⟨-, hquery | ⟨hquery, hheaders⟩⟩)
      · cases hcause
      · exact bind_eq_error.2 (.inl (pairs_eq_error_iff.2 hquery))
      · obtain ⟨query, hquery⟩ := (hbuilt .query).2 hquery
        refine bind_eq_error.2 (.inr ⟨query, hquery, ?_⟩)
        exact bind_eq_error.2 (.inl (pairs_eq_error_iff.2 hheaders))

/-- A request cannot be built because of the address or because a section is no object. -/
theorem failure_of_prepare {failure : Failure} (h : d.prepare = .error failure) :
    (∃ cause, failure = .badUrl d.url cause) ∨ ∃ k found, failure = .notObject k found := by
  rcases prepare_eq_error_iff.1 h with ⟨cause, -, rfl⟩ | ⟨-, ⟨-, rfl⟩ | ⟨-, -, rfl⟩⟩
  · exact .inl ⟨cause, rfl⟩
  · exact .inr ⟨_, _, rfl⟩
  · exact .inr ⟨_, _, rfl⟩

end Descriptor

/-- An address with a host and nothing else. -/
def Url.loopback : Url where
  scheme := "http"
  authority? := some { host := .ipv6 ⟨[0, 0, 0, 0, 0, 0, 0, 1], rfl⟩ }
  path := .segments [[]]

theorem Url.parse_loopback : Url.parse "http://[::1]/" = .ok loopback := by
  decide +kernel

end RequestLine
