import RequestLine.Proofs.Json.Decoded

/-!
# Members as they are written

The text of an object may write a name more than once. What the object then has is read off the
pairs of the text (`Writes`): a name stands where it is written first and has the value that is
written last. An object that stands in an embedded text has the pairs of that text.
-/

namespace RequestLine.Json

/-- The names of the members are those of the pairs, each at its first place. -/
theorem map_fst_membersOf (pairs : List (String × Json)) :
    (membersOf pairs).map Prod.fst = (pairs.map Prod.fst).eraseDups := by
  induction pairs using List.reverseRecOn with
  | nil => rfl
  | append_singleton pairs p ih =>
    rw [membersOf_append_singleton, map_fst_put, ih, List.map_append, List.eraseDups_append]
    by_cases hmem : p.1 ∈ pairs.map Prod.fst
    · simp [hmem, List.removeAll]
    · simp [hmem, List.removeAll, List.eraseDups_cons]

/-- The members of an object are those that the pairs of its text leave: each name at the place
where it is written first, with the value that is written last. -/
structure Writes (pairs members : List (String × Json)) : Prop where
  names_eq : members.map Prod.fst = (pairs.map Prod.fst).eraseDups
  lookup_eq : ∀ name, members.lookup name = pairs.reverse.lookup name

/-- The members that the reader keeps are those that the pairs leave. -/
theorem writes_membersOf (pairs : List (String × Json)) : Writes pairs (membersOf pairs) where
  names_eq := map_fst_membersOf pairs
  lookup_eq := lookup_membersOf pairs

namespace Reader

/-- The pairs of the object that is read next, given how those of an embedded text are read. -/
def nextPairs (inner : List Char → Option (List (String × Json)))
    (embedded : List Char → Option Json) (steps depth : Nat) (text : List Char) :
    Option (List (String × Json)) :=
  match skipSpaces text with
  | '\x7b' :: rest =>
    match embedding? steps rest with
    | some rest => do
      let (found, _) ← embeddedText steps rest
      inner found.toList
    | none => do
      let (pairs, _) ← objectRest (string steps) (fun _ => value embedded steps depth) steps rest
      return pairs
  | _ => none

/-- An object that was read has pairs in its own text or in the embedded text that it stands for. -/
theorem exists_nextPairs {inner : List Char → Option (List (String × Json))}
    {embedded : List Char → Option Json} {steps depth : Nat} {text rest : List Char}
    {members : List (String × Json)}
    (hinner : ∀ found members, embedded found = some (.object members) →
      ∃ pairs, inner found = some pairs ∧ members = membersOf pairs)
    (h : value embedded steps (depth + 1) text = some (.object members, rest)) :
    ∃ pairs, nextPairs inner embedded steps depth text = some pairs ∧
      members = membersOf pairs := by
  rw [value] at h
  rw [nextPairs]
  split at h
  · rw [Option.bind_eq_bind, Option.bind_eq_some_iff] at h
    obtain ⟨items, -, h⟩ := h
    cases h
  · next after hspaces =>
    simp only [hspaces]
    cases hembedding : embedding? steps after with
    | some behind =>
      simp only [hembedding, Option.bind_eq_bind, Option.bind_eq_some_iff] at h
      obtain ⟨⟨found, rest'⟩, htext, v, hv, h⟩ := h
      cases h
      simp only [htext, Option.bind_eq_bind, Option.bind_some]
      exact hinner _ _ hv
    | none =>
      simp only [hembedding, Option.bind_eq_bind, Option.bind_eq_some_iff] at h
      obtain ⟨⟨pairs, rest'⟩, hpairs, h⟩ := h
      cases h
      refine ⟨pairs, ?_, rfl⟩
      simp only [hpairs, Option.bind_eq_bind, Option.bind_some]
      rfl
  · exact absurd rfl ((flat_of_scalar h).2 members)

/-- A scanner that returns the place where it began. -/
def placeOf {ν α : Type} (value : ν → Scan α) (name : ν) : Scan (List Char) := fun text =>
  (value name text).map fun found => (text, found.2)

/-- The places of values are found by the same scan that reads the values, in the same order. -/
theorem members_placeOf {ν α : Type} {name : Scan ν} {value : ν → Scan α} {steps : Nat}
    {text rest : List Char} {pairs : List (ν × α)}
    (h : members name value steps text = some (pairs, rest)) :
    ∃ places, members name (placeOf value) steps text = some (places, rest) ∧
      places.map Prod.fst = pairs.map Prod.fst ∧
      ∀ q ∈ places, ∃ v r, (q.1, v) ∈ pairs ∧ value q.1 q.2 = some (v, r) := by
  induction steps generalizing text pairs with
  | zero => cases h
  | succ steps ih =>
    rw [members, Option.bind_eq_bind, Option.bind_eq_some_iff] at h
    obtain ⟨⟨n, r⟩, hn, h⟩ := h
    rw [members, hn]
    dsimp only [Option.bind_eq_bind, Option.bind_some] at h ⊢
    split at h
    · next behind _ =>
      rw [Option.bind_eq_some_iff] at h
      obtain ⟨⟨v, r'⟩, hv, h⟩ := h
      have hplace : placeOf value n behind = some (behind, r') := by
        rw [placeOf, hv]
        rfl
      simp only [hplace, Option.bind_some]
      dsimp only at h
      split at h
      · rw [Option.bind_eq_some_iff] at h
        obtain ⟨⟨pairs', r''⟩, hpairs, h⟩ := h
        cases h
        obtain ⟨places, hplaces, hnames, hvalues⟩ := ih hpairs
        simp only [hplaces, Option.bind_some]
        refine ⟨_, rfl, by rw [List.map_cons, List.map_cons, hnames], ?_⟩
        intro q hq
        rcases List.mem_cons.1 hq with rfl | hq
        · exact ⟨v, r', List.mem_cons_self, hv⟩
        · obtain ⟨w, s, hmem, hw⟩ := hvalues q hq
          exact ⟨w, s, List.mem_cons_of_mem _ hmem, hw⟩
      · cases h
        refine ⟨_, rfl, rfl, ?_⟩
        intro q hq
        obtain rfl := List.mem_singleton.1 hq
        exact ⟨v, r', List.mem_singleton_self _, hv⟩
      · cases h
    · cases h

theorem objectRest_placeOf {ν α : Type} {name : Scan ν} {value : ν → Scan α} {steps : Nat}
    {text rest : List Char} {pairs : List (ν × α)}
    (h : objectRest name value steps text = some (pairs, rest)) :
    ∃ places, objectRest name (placeOf value) steps text = some (places, rest) ∧
      places.map Prod.fst = pairs.map Prod.fst ∧
      ∀ q ∈ places, ∃ v r, (q.1, v) ∈ pairs ∧ value q.1 q.2 = some (v, r) := by
  rw [objectRest] at h
  rw [objectRest]
  split at h
  · cases h
    exact ⟨[], rfl, rfl, by simp⟩
  · exact members_placeOf h

/-- The first item of an array stands at its start. -/
theorem items_head {α : Type} {item : Scan α} {steps : Nat} {text rest : List Char} {x : α}
    {xs : List α} (h : items item steps text = some (x :: xs, rest)) :
    ∃ r, item text = some (x, r) := by
  cases steps with
  | zero => cases h
  | succ steps =>
    rw [items, Option.bind_eq_bind, Option.bind_eq_some_iff] at h
    obtain ⟨⟨y, r⟩, hy, h⟩ := h
    dsimp only at h
    split at h
    · rw [Option.bind_eq_bind, Option.bind_eq_some_iff] at h
      obtain ⟨found, -, h⟩ := h
      cases h
      exact ⟨r, hy⟩
    · cases h
      exact ⟨r, hy⟩
    · cases h

end Reader

/-- The pairs that the text of an object writes, if texts are embedded in one another fewer than
`levels` times. -/
def pairsWithin : (levels : Nat) → List Char → Option (List (String × Json))
  | 0, _ => none
  | levels + 1, text =>
    Reader.nextPairs (pairsWithin levels) (parseWithin levels) text.length (Reader.maxDepth - 1)
      text

/-- The pairs that the text of an object writes, in their order. -/
def pairs? (text : List Char) : Option (List (String × Json)) :=
  pairsWithin (text.length + 1) text

/-- An object that was read has pairs, however deep its text is embedded. By induction on the
levels. -/
theorem exists_pairsWithin {levels : Nat} {text : List Char} {members : List (String × Json)}
    (h : parseWithin levels text = some (.object members)) :
    ∃ pairs, pairsWithin levels text = some pairs ∧ members = membersOf pairs := by
  induction levels generalizing text members with
  | zero => cases h
  | succ levels ih =>
    obtain ⟨rest, hvalue⟩ := Reader.exists_of_whole h
    exact Reader.exists_nextPairs (fun _ _ => ih) hvalue

/-- Every text that writes an object has pairs, and the object is what they leave. -/
theorem exists_pairs? {text : List Char} {members : List (String × Json)}
    (h : parse? text = some (.object members)) :
    ∃ pairs, pairs? text = some pairs ∧ members = membersOf pairs := by
  rw [parse?] at h
  rw [pairs?]
  exact exists_pairsWithin h

end RequestLine.Json
