import RequestLine.Proofs.Json.Values

/-!
# What reading can give

Every value that is read was put together in one of a few ways (`Decoded`): it is a scalar, an array
or an object of values that were read one level deeper, or what an embedded text stands for. An
object is never one that begins with the name that marks an embedded text, because such an object is
taken for the embedding.

So a decoded value is unmarked everywhere (`unmarked_of_parse?`), its names are distinct
(`distinct_of_parse?`), and an object has no more members than its text has characters
(`length_members_le_of_parse?`). Of several pairs with one name the last one gives the value
(`lookup_membersOf`).
-/

namespace RequestLine.Json

/-! ## Members -/

theorem mem_put {members : List (String × Json)} {name : String} {v : Json} {m : String × Json}
    (h : m ∈ put members name v) : m ∈ members ∨ m = (name, v) := by
  induction members with
  | nil => exact .inr (by simpa [put] using h)
  | cons n members ih =>
    rw [put] at h
    split at h
    · next hname =>
      rcases List.mem_cons.1 h with rfl | h
      · exact .inr (by rw [hname])
      · exact .inl (List.mem_cons_of_mem _ h)
    · rcases List.mem_cons.1 h with rfl | h
      · exact .inl List.mem_cons_self
      · exact (ih h).imp_left (List.mem_cons_of_mem _)

theorem length_put_le (members : List (String × Json)) (name : String) (v : Json) :
    (put members name v).length ≤ members.length + 1 := by
  induction members with
  | nil => simp [put]
  | cons n members ih =>
    rw [put]
    split
    · simp
    · simpa using ih

/-- A new value leaves the first name in its place. -/
theorem head?_put (members : List (String × Json)) (name : String) (v : Json) :
    (put members name v).head?.map Prod.fst = (members.head?.map Prod.fst).or (some name) := by
  cases members with
  | nil => rfl
  | cons n members =>
    rw [put]
    split <;> rfl

/-- A new name comes last, and a name that is there stays in its place. -/
theorem map_fst_put (members : List (String × Json)) (name : String) (v : Json) :
    (put members name v).map Prod.fst =
      if name ∈ members.map Prod.fst then members.map Prod.fst
      else members.map Prod.fst ++ [name] := by
  induction members with
  | nil => rfl
  | cons n members ih =>
    rw [put]
    by_cases hname : n.1 = name
    · simp [hname]
    · rw [if_neg hname, List.map_cons, ih]
      by_cases hmem : name ∈ members.map Prod.fst
      · simp [hmem]
      · simp [hmem, Ne.symm hname]

/-- The names of members are distinct, whatever the pairs were. -/
theorem nodup_membersOf (pairs : List (String × Json)) :
    ((membersOf pairs).map Prod.fst).Nodup := by
  induction pairs using List.reverseRecOn with
  | nil => exact List.nodup_nil
  | append_singleton pairs p ih =>
    rw [membersOf_append_singleton, map_fst_put]
    split
    · exact ih
    · next hname =>
      rw [List.nodup_append]
      refine ⟨ih, List.nodup_singleton _, ?_⟩
      intro a ha b hb hab
      obtain rfl : b = p.1 := List.mem_singleton.1 hb
      exact hname (hab ▸ ha)

theorem lookup_cons_eq_ite (p : String × Json) (members : List (String × Json)) (key : String) :
    (p :: members).lookup key = if key = p.1 then some p.2 else members.lookup key := by
  rw [List.lookup_cons]
  by_cases h : key = p.1
  · simp [h]
  · simp [h, beq_false_of_ne h]

/-- The value that was put last is the one that is found. -/
theorem lookup_put (members : List (String × Json)) (name : String) (v : Json) (key : String) :
    (put members name v).lookup key = if key = name then some v else members.lookup key := by
  induction members with
  | nil => exact lookup_cons_eq_ite (name, v) [] key
  | cons n members ih =>
    rw [put]
    by_cases hname : n.1 = name
    · rw [if_pos hname, lookup_cons_eq_ite, lookup_cons_eq_ite, hname]
      split <;> rfl
    · rw [if_neg hname, lookup_cons_eq_ite, lookup_cons_eq_ite, ih]
      by_cases hkey : key = name
      · rw [if_pos hkey, if_pos hkey, if_neg (hkey ▸ Ne.symm hname)]
      · rw [if_neg hkey, if_neg hkey]

/-- The value of a member is that of the last pair with its name. -/
theorem lookup_membersOf (pairs : List (String × Json)) (key : String) :
    (membersOf pairs).lookup key = pairs.reverse.lookup key := by
  induction pairs using List.reverseRecOn with
  | nil => rfl
  | append_singleton pairs p ih =>
    rw [membersOf_append_singleton, lookup_put, ih, List.reverse_append, List.reverse_singleton,
      List.singleton_append, lookup_cons_eq_ite]

/-- Members only come from pairs. -/
theorem mem_of_mem_membersOf {pairs : List (String × Json)} {m : String × Json}
    (h : m ∈ membersOf pairs) : m ∈ pairs := by
  induction pairs using List.reverseRecOn with
  | nil => cases h
  | append_singleton pairs p ih =>
    rw [membersOf_append_singleton] at h
    rcases mem_put h with h | rfl
    · exact List.mem_append_left _ (ih h)
    · simp

/-- Repeated names leave fewer members than there are pairs. -/
theorem length_membersOf_le (pairs : List (String × Json)) :
    (membersOf pairs).length ≤ pairs.length := by
  induction pairs using List.reverseRecOn with
  | nil => exact Nat.le_refl _
  | append_singleton pairs p ih =>
    rw [membersOf_append_singleton, List.length_append, List.length_singleton]
    exact Nat.le_trans (length_put_le _ _ _) (Nat.add_le_add_right ih 1)

/-- The first name of an object is the first name in its text. -/
theorem head?_membersOf (pairs : List (String × Json)) :
    (membersOf pairs).head?.map Prod.fst = pairs.head?.map Prod.fst := by
  induction pairs using List.reverseRecOn with
  | nil => rfl
  | append_singleton pairs p ih =>
    rw [membersOf_append_singleton, head?_put, ih]
    cases pairs <;> rfl

/-! ## Parts of a text -/

namespace Reader

/-- Every item of an array was read from some part of the text. -/
theorem items_sound {α : Type} {item : Scan α} {steps : Nat} {text rest : List Char} {xs : List α}
    (h : items item steps text = some (xs, rest)) : ∀ x ∈ xs, ∃ t r, item t = some (x, r) := by
  induction steps generalizing text xs with
  | zero => cases h
  | succ steps ih =>
    rw [items, Option.bind_eq_bind, Option.bind_eq_some_iff] at h
    obtain ⟨⟨x, r⟩, hx, h⟩ := h
    dsimp only at h
    split at h
    · rw [Option.bind_eq_bind, Option.bind_eq_some_iff] at h
      obtain ⟨⟨xs', r'⟩, hxs, h⟩ := h
      cases h
      intro y hy
      rcases List.mem_cons.1 hy with rfl | hy
      · exact ⟨_, _, hx⟩
      · exact ih hxs y hy
    · cases h
      intro y hy
      obtain rfl : y = x := by simpa using hy
      exact ⟨_, _, hx⟩
    · cases h

theorem arrayRest_sound {α : Type} {item : Scan α} {steps : Nat} {text rest : List Char}
    {xs : List α} (h : arrayRest item steps text = some (xs, rest)) :
    ∀ x ∈ xs, ∃ t r, item t = some (x, r) := by
  rw [arrayRest] at h
  split at h
  · cases h
    exact nofun
  · exact items_sound h

/-- Every member takes a step; its value was read, and the first name stands at the start. -/
theorem members_sound {ν α : Type} {name : Scan ν} {value : ν → Scan α} {steps : Nat}
    {text rest : List Char} {pairs : List (ν × α)}
    (h : members name value steps text = some (pairs, rest)) :
    pairs.length ≤ steps ∧ (∀ p ∈ pairs, ∃ t r, value p.1 t = some (p.2, r)) ∧
      ∀ p ∈ pairs.head?, ∃ r, name text = some (p.1, r) := by
  induction steps generalizing text pairs with
  | zero => cases h
  | succ steps ih =>
    rw [members, Option.bind_eq_bind, Option.bind_eq_some_iff] at h
    obtain ⟨⟨n, r⟩, hn, h⟩ := h
    dsimp only at h
    split at h
    · rw [Option.bind_eq_bind, Option.bind_eq_some_iff] at h
      obtain ⟨⟨v, r'⟩, hv, h⟩ := h
      dsimp only at h
      split at h
      · rw [Option.bind_eq_bind, Option.bind_eq_some_iff] at h
        obtain ⟨⟨pairs', r''⟩, hpairs, h⟩ := h
        cases h
        obtain ⟨hlength, hvalues, -⟩ := ih hpairs
        refine ⟨Nat.succ_le_succ hlength, ?_, ?_⟩
        · intro p hp
          rcases List.mem_cons.1 hp with rfl | hp
          · exact ⟨_, _, hv⟩
          · exact hvalues p hp
        · rintro p hp
          cases hp
          exact ⟨_, hn⟩
      · cases h
        refine ⟨Nat.succ_le_succ (Nat.zero_le _), ?_, ?_⟩
        · intro p hp
          obtain rfl : p = (n, v) := by simpa using hp
          exact ⟨_, _, hv⟩
        · rintro p hp
          cases hp
          exact ⟨_, hn⟩
      · cases h
    · cases h

/-- Every value of an object was read from some part of the text, and its first name from the start.
-/
theorem objectRest_sound {ν α : Type} {name : Scan ν} {value : ν → Scan α} {steps : Nat}
    {text rest : List Char} {pairs : List (ν × α)}
    (h : objectRest name value steps text = some (pairs, rest)) :
    pairs.length ≤ steps ∧ (∀ p ∈ pairs, ∃ t r, value p.1 t = some (p.2, r)) ∧
      ∀ p ∈ pairs.head?, ∃ r, name text = some (p.1, r) := by
  rw [objectRest] at h
  split at h
  · cases h
    exact ⟨Nat.zero_le _, nofun, nofun⟩
  · exact members_sound h

/-- Every character of a string takes a step. -/
theorem length_le_of_stringWith {escape : Scan Char} {steps : Nat} {text rest cs : List Char}
    (h : stringWith escape steps text = some (cs, rest)) : cs.length ≤ steps := by
  fun_induction stringWith escape steps text generalizing cs rest with
  | case1 => cases h
  | case2 => cases h
  | case3 =>
    cases h
    exact Nat.zero_le _
  | case4 steps text ih =>
    rw [Option.bind_eq_bind, Option.bind_eq_some_iff] at h
    obtain ⟨⟨c, r⟩, -, h⟩ := h
    rw [Option.bind_eq_bind, Option.bind_eq_some_iff] at h
    obtain ⟨⟨cs', r'⟩, hcs, h⟩ := h
    cases h
    exact Nat.succ_le_succ (ih _ hcs)
  | case5 => cases h
  | case6 steps c text _ _ _ ih =>
    rw [Option.bind_eq_bind, Option.bind_eq_some_iff] at h
    obtain ⟨⟨cs', r'⟩, hcs, h⟩ := h
    cases h
    exact Nat.succ_le_succ (ih hcs)

theorem length_le_of_string {steps : Nat} {text rest : List Char} {found : String}
    (h : string steps text = some (found, rest)) : found.toList.length ≤ steps := by
  rw [string] at h
  split at h
  · rw [stringRest, Option.bind_eq_bind, Option.bind_eq_some_iff] at h
    obtain ⟨⟨cs, r⟩, hcs, h⟩ := h
    cases h
    rw [String.toList_ofList]
    exact length_le_of_stringWith hcs
  · cases h

/-- An embedded text is no longer than the steps that are left for it. -/
theorem length_le_of_embeddedText {steps : Nat} {text rest : List Char} {found : String}
    (h : embeddedText steps text = some (found, rest)) : found.toList.length ≤ steps := by
  rw [embeddedText] at h
  split at h
  · rw [Option.bind_eq_bind, Option.bind_eq_some_iff] at h
    obtain ⟨⟨s, r⟩, hs, h⟩ := h
    dsimp only at h
    split at h
    · cases h
      exact length_le_of_string hs
    · cases h
  · cases h

/-! ## Decoded values -/

/-- How a value that was read is put together, with arrays and objects at most `depth` deep and no
more members in an object than there are steps. -/
inductive Decoded (embedded : List Char → Option Json) (steps : Nat) : Nat → Json → Prop
  | scalar {depth : Nat} {v : Json} (array : ∀ items, v ≠ .array items)
    (object : ∀ members, v ≠ .object members) : Decoded embedded steps depth v
  | array {depth : Nat} {items : List Json} (read : ∀ v ∈ items, Decoded embedded steps depth v) :
    Decoded embedded steps (depth + 1) (.array items)
  | object {depth : Nat} {pairs : List (String × Json)} (length_le : pairs.length ≤ steps)
    (unmarked : ∀ p ∈ pairs.head?, p.1 ≠ embeddingName)
    (read : ∀ p ∈ pairs, Decoded embedded steps depth p.2) :
    Decoded embedded steps (depth + 1) (.object (membersOf pairs))
  | embedding {depth : Nat} {found : List Char} {v : Json} (length_le : found.length ≤ steps)
    (read : embedded found = some v) : Decoded embedded steps (depth + 1) v

/-- What the reader of scalars gives has no parts. -/
theorem flat_of_scalar {steps : Nat} {text rest : List Char} {v : Json}
    (h : scalar steps text = some (v, rest)) :
    (∀ items, v ≠ .array items) ∧ ∀ members, v ≠ .object members := by
  unfold scalar at h
  split at h
  · cases h
    exact ⟨nofun, nofun⟩
  · cases h
    exact ⟨nofun, nofun⟩
  · cases h
    exact ⟨nofun, nofun⟩
  · rw [Option.bind_eq_bind, Option.bind_eq_some_iff] at h
    obtain ⟨found, -, h⟩ := h
    cases h
    exact ⟨nofun, nofun⟩
  · rw [Option.bind_eq_bind, Option.bind_eq_some_iff] at h
    obtain ⟨found, -, h⟩ := h
    rw [Option.bind_eq_bind, Option.bind_eq_some_iff] at h
    obtain ⟨n, -, h⟩ := h
    cases h
    exact ⟨nofun, nofun⟩

theorem decoded_of_scalar {embedded : List Char → Option Json} {steps depth : Nat}
    {text rest : List Char} {v : Json} (h : scalar steps text = some (v, rest)) :
    Decoded embedded steps depth v :=
  .scalar (flat_of_scalar h).1 (flat_of_scalar h).2

/-- Whatever is read at a depth is decoded at that depth. By induction on the depth, one case for
each form of a value. -/
theorem decoded_of_value {embedded : List Char → Option Json} {steps depth : Nat}
    {text rest : List Char} {v : Json} (h : value embedded steps depth text = some (v, rest)) :
    Decoded embedded steps depth v := by
  induction depth generalizing text v rest with
  | zero => exact decoded_of_scalar h
  | succ depth ih =>
    rw [value] at h
    split at h
    · rw [Option.bind_eq_bind, Option.bind_eq_some_iff] at h
      obtain ⟨⟨items, r⟩, hitems, h⟩ := h
      cases h
      refine .array fun w hw => ?_
      obtain ⟨t, r', ht⟩ := arrayRest_sound hitems w hw
      exact ih ht
    · split at h
      · rw [Option.bind_eq_bind, Option.bind_eq_some_iff] at h
        obtain ⟨⟨found, r⟩, hfound, h⟩ := h
        rw [Option.bind_eq_bind, Option.bind_eq_some_iff] at h
        obtain ⟨w, hw, h⟩ := h
        cases h
        exact .embedding (length_le_of_embeddedText hfound) hw
      · next hembedding =>
        rw [Option.bind_eq_bind, Option.bind_eq_some_iff] at h
        obtain ⟨⟨pairs, r⟩, hpairs, h⟩ := h
        cases h
        obtain ⟨hlength, hvalues, hfirst⟩ := objectRest_sound hpairs
        refine .object hlength ?_ ?_
        · -- the name that opens the object has been looked at before its members
          intro p hp hmark
          obtain ⟨r', hname⟩ := hfirst p hp
          rw [embedding?, hname] at hembedding
          simp [hmark] at hembedding
        · intro p hp
          obtain ⟨t, r', ht⟩ := hvalues p hp
          exact ih ht
    · exact decoded_of_scalar h

/-- A decoded value is unmarked everywhere if those that embedded texts stand for are. -/
theorem Decoded.everywhere_unmarked {embedded : List Char → Option Json} {steps depth : Nat}
    {v : Json} (h : Decoded embedded steps depth v)
    (hembedded : ∀ text w, embedded text = some w → Everywhere Unmarked w) :
    Everywhere Unmarked v := by
  induction h with
  | scalar harray hobject =>
    refine everywhere_of_scalar harray hobject ?_
    unfold Unmarked
    split
    · exact absurd rfl (hobject _)
    · trivial
  | array _ ih => exact everywhere_array.2 ⟨trivial, ih⟩
  | @object depth pairs _ hunmarked _ ih =>
    refine everywhere_object.2 ⟨?_, fun m hm => ih m (mem_of_mem_membersOf hm)⟩
    intro m hm
    have hhead := head?_membersOf pairs
    rw [hm, Option.map_some] at hhead
    obtain ⟨p, hp, hname⟩ := Option.map_eq_some_iff.1 hhead.symm
    rw [← hname]
    exact hunmarked p hp
  | embedding _ hread => exact hembedded _ _ hread

/-- The names in a decoded value are distinct if they are in what embedded texts stand for. -/
theorem Decoded.everywhere_distinct {embedded : List Char → Option Json} {steps depth : Nat}
    {v : Json} (h : Decoded embedded steps depth v)
    (hembedded : ∀ text w, embedded text = some w → Everywhere Distinct w) :
    Everywhere Distinct v := by
  induction h with
  | scalar harray hobject =>
    refine everywhere_of_scalar harray hobject ?_
    unfold Distinct
    split
    · exact absurd rfl (hobject _)
    · trivial
  | array _ ih => exact everywhere_array.2 ⟨trivial, ih⟩
  | @object depth pairs _ _ _ ih =>
    exact everywhere_object.2 ⟨nodup_membersOf pairs, fun m hm => ih m (mem_of_mem_membersOf hm)⟩
  | embedding _ hread => exact hembedded _ _ hread

/-! ## Whole texts -/

theorem exists_of_whole {α : Type} {scan : Scan α} {text : List Char} {found : α}
    (h : whole scan text = some found) : ∃ rest, scan text = some (found, rest) := by
  rw [whole] at h
  split at h
  · next found rest hscan =>
    split at h
    · cases h
      exact ⟨rest, hscan⟩
    · cases h
  · cases h

end Reader

/-- A text writes only decoded values. -/
theorem decoded_of_parseWithin {levels : Nat} {text : List Char} {v : Json}
    (h : parseWithin (levels + 1) text = some v) :
    Reader.Decoded (parseWithin levels) text.length Reader.maxDepth v := by
  obtain ⟨rest, hvalue⟩ := Reader.exists_of_whole h
  exact Reader.decoded_of_value hvalue

/-- What holds of every value that is read if it holds of what its embedded texts stand for. -/
theorem of_parse? {P : Json → Prop}
    (hP : ∀ (embedded : List Char → Option Json) (steps : Nat) (v : Json),
      Reader.Decoded embedded steps Reader.maxDepth v →
        (∀ text w, embedded text = some w → P w) → P v)
    {text : List Char} {v : Json} (h : parse? text = some v) : P v := by
  have hlevels : ∀ levels text v, parseWithin levels text = some v → P v := by
    intro levels
    induction levels with
    | zero => nofun
    | succ levels ih =>
      intro text v h
      exact hP _ _ v (decoded_of_parseWithin h) ih
  exact hlevels _ _ _ h

/-- No value that was read holds an object with the mark of an embedded text. -/
theorem unmarked_of_parse? {text : List Char} {v : Json} (h : parse? text = some v) :
    Everywhere Unmarked v :=
  of_parse? (fun _ _ _ hdecoded hembedded => hdecoded.everywhere_unmarked hembedded) h

/-- No value that was read holds an object with a name twice. -/
theorem distinct_of_parse? {text : List Char} {v : Json} (h : parse? text = some v) :
    Everywhere Distinct v :=
  of_parse? (fun _ _ _ hdecoded hembedded => hdecoded.everywhere_distinct hembedded) h

/-- Every member of an object, also of an embedded one, takes a character of the text. -/
theorem length_members_le_of_parse? {text : List Char} {members : List (String × Json)}
    (h : parse? text = some (.object members)) : members.length ≤ text.length := by
  have hlevels : ∀ levels text, parseWithin levels text = some (.object members) →
      members.length ≤ text.length := by
    intro levels
    induction levels with
    | zero => nofun
    | succ levels ih =>
      intro text h
      generalize hv : Json.object members = v at h
      cases decoded_of_parseWithin h with
      | scalar _ hobject => exact absurd hv.symm (hobject _)
      | array => cases hv
      | object hlength =>
        cases hv
        exact Nat.le_trans (length_membersOf_le _) hlength
      | embedding hlength hread =>
        cases hv
        exact Nat.le_trans (ih _ hread) hlength
  exact hlevels _ _ h

end RequestLine.Json
