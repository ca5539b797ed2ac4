import RequestLine.Proofs.Json.Decoded
import RequestLine.Proofs.Json.ReadBack

/-!
# Values that nest too deep

A written value is read back as long as it nests no deeper than the reader allows
(`value_textWith`). Beyond that the reader gives nothing at all (`value_textWith_eq_none`): it does
not stop at the limit with a part of the value, and it does not take the text for something else.

Before the value that nests too deep there may be others that are read without trouble, so the loops
over parts are followed up to the first part that fails (`items_eq_none`, `members_eq_none`).

The limit is one on texts. A value that is read from a text without embedded texts keeps to it
(`depth_le_of_parseWithin_one`), but the levels of an embedded text are counted from its own start,
so that a value can come out deeper than any text that writes it plainly
(`parse?_array_embedding`).
-/

namespace RequestLine.Json.Reader

/-! ## Loops over parts that may fail -/

/-- Items are not read if one of them is not and all before it are. -/
theorem items_eq_none {α : Type} {item : Scan α} {text : α → List Char} {fits : α → Prop}
    {xs : List α}
    (hread : ∀ x ∈ xs, fits x → ∀ rest, Closed rest → item (text x ++ rest) = some (x, rest))
    (hfail : ∀ x ∈ xs, ¬fits x → ∀ rest, Closed rest → item (text x ++ rest) = none)
    (hbad : ∃ x ∈ xs, ¬fits x) (steps : Nat) (rest : List Char) :
    items item steps (List.intercalate [','] (xs.map text) ++ ']' :: rest) = none := by
  induction xs generalizing steps with
  | nil => simp at hbad
  | cons x xs ih =>
    cases steps with
    | zero => rfl
    | succ steps =>
      by_cases hx : fits x
      · obtain ⟨y, xs, rfl⟩ : ∃ y ys, xs = y :: ys := by
          apply List.exists_cons_of_ne_nil
          rintro rfl
          simp [hx] at hbad
        have hclosed : ∀ t, Closed (',' :: t) := fun t => closed_cons (by decide) t
        have hrest := ih (fun z hz => hread z (List.mem_cons_of_mem _ hz))
          (fun z hz => hfail z (List.mem_cons_of_mem _ hz)) (by simpa [hx] using hbad) steps
        rw [intercalate_comma, List.append_assoc, List.cons_append, items,
          hread x List.mem_cons_self hx _ (hclosed _)]
        simp only [Option.bind_eq_bind, Option.bind_some, skipSpaces_cons isSpace_comma, hrest]
        rfl
      · obtain ⟨t, htext, ht⟩ : ∃ t,
            List.intercalate [','] ((x :: xs).map text) ++ ']' :: rest = text x ++ t ∧ Closed t := by
          cases xs with
          | nil => exact ⟨']' :: rest, by simp, closed_cons (by decide) rest⟩
          | cons y xs =>
            refine ⟨_, by rw [intercalate_comma, List.append_assoc], ?_⟩
            exact closed_cons (by decide) _
        rw [htext, items, hfail x List.mem_cons_self hx t ht]
        rfl

/-- Members are not read if the value of one of them is not and all before it are. -/
theorem members_eq_none {ν α : Type} {name : Scan ν} {value : ν → Scan α}
    {nameText : ν → List Char} {valueText : ν × α → List Char} {fits : ν × α → Prop}
    {pairs : List (ν × α)}
    (hname : ∀ p ∈ pairs, ∀ rest, name (nameText p.1 ++ rest) = some (p.1, rest))
    (hread : ∀ p ∈ pairs, fits p → ∀ rest, Closed rest →
      value p.1 (valueText p ++ rest) = some (p.2, rest))
    (hfail : ∀ p ∈ pairs, ¬fits p → ∀ rest, Closed rest → value p.1 (valueText p ++ rest) = none)
    (hbad : ∃ p ∈ pairs, ¬fits p) (steps : Nat) (rest : List Char) :
    members name value steps
      (List.intercalate [','] (pairs.map fun p => nameText p.1 ++ ':' :: valueText p) ++
        '\x7d' :: rest) = none := by
  have hcolon : isSpace ':' = false := by decide
  induction pairs generalizing steps with
  | nil => simp at hbad
  | cons p pairs ih =>
    cases steps with
    | zero => rfl
    | succ steps =>
      have hn := hname p List.mem_cons_self
      by_cases hp : fits p
      · obtain ⟨q, pairs, rfl⟩ : ∃ q qs, pairs = q :: qs := by
          apply List.exists_cons_of_ne_nil
          rintro rfl
          simp [hp] at hbad
        have hclosed : ∀ t, Closed (',' :: t) := fun t => closed_cons (by decide) t
        have hrest := ih (fun r hr => hname r (List.mem_cons_of_mem _ hr))
          (fun r hr => hread r (List.mem_cons_of_mem _ hr))
          (fun r hr => hfail r (List.mem_cons_of_mem _ hr)) (by simpa [hp] using hbad) steps
        rw [intercalate_comma, List.append_assoc, List.append_assoc, members, hn]
        simp only [Option.bind_eq_bind, Option.bind_some, List.cons_append, skipSpaces_cons hcolon,
          hread p List.mem_cons_self hp _ (hclosed _), skipSpaces_cons isSpace_comma, hrest]
        rfl
      · obtain ⟨t, htext, ht⟩ : ∃ t,
            List.intercalate [','] ((p :: pairs).map fun p => nameText p.1 ++ ':' :: valueText p) ++
              '\x7d' :: rest = nameText p.1 ++ ':' :: (valueText p ++ t) ∧ Closed t := by
          cases pairs with
          | nil => exact ⟨'\x7d' :: rest, by simp, closed_cons (by decide) rest⟩
          | cons q pairs =>
            refine ⟨_, by rw [intercalate_comma, List.append_assoc, List.append_assoc]; rfl, ?_⟩
            exact closed_cons (by decide) _
        rw [htext, members, hn]
        simp only [Option.bind_eq_bind, Option.bind_some, skipSpaces_cons hcolon,
          hfail p List.mem_cons_self hp t ht]
        rfl

/-! ## Values -/

/-- Where nothing may nest, neither an array nor an object begins. -/
theorem value_zero_bracket (embedded : List Char → Option Json) (steps : Nat) {c : Char}
    (hc : c = '[' ∨ c = '\x7b') (text : List Char) : value embedded steps 0 (c :: text) = none := by
  rcases hc with rfl | rfl <;> rfl

section

variable {embedded : List Char → Option Json} {steps : Nat} {esc : Char → List Char}
  (hesc : Escaping esc)

include hesc

/-- A value that is too deep is refused wherever it stands. By induction on the value: its first
part that is too deep is refused, and those before it are read. -/
theorem value_textWith_eq_none {v : Json} (hv : Everywhere Plain v) {depth : Nat}
    (hdepth : depth < v.depth) (hsteps : (textWith esc v).length ≤ steps) (rest : List Char) :
    value embedded steps depth (textWith esc v ++ rest) = none := by
  induction v using Json.induction generalizing depth rest with
  | null => simp [Json.depth] at hdepth
  | bool b => simp [Json.depth] at hdepth
  | number n => simp [Json.depth] at hdepth
  | string text => simp [Json.depth] at hdepth
  | array items ih =>
    cases depth with
    | zero =>
      rw [textWith]
      exact value_zero_bracket embedded steps (.inl rfl) _
    | succ depth =>
      rw [everywhere_array] at hv
      have hbad : ∃ v ∈ items, ¬v.depth ≤ depth := by
        have hnot := mt depth_array_le_iff.2 (Nat.not_le.2 hdepth)
        simpa using hnot
      have hlength : ∀ v ∈ items, (textWith esc v).length ≤ steps := by
        intro v hmem
        have := length_le_of_mem_intercalate (List.mem_map_of_mem (f := textWith esc) hmem)
        rw [textWith] at hsteps
        simp only [List.length_cons, List.length_append] at hsteps
        omega
      have hstart : ∀ v ∈ items, ∃ c t, textWith esc v = c :: t ∧ isSpace c = false ∧ c ≠ ']' := by
        intro v hmem
        obtain ⟨c, t, ht, hblank, hbracket⟩ :=
          exists_textWith_eq_cons esc (hv.2 v hmem).self.integral
        exact ⟨c, t, ht, isSpace_eq_false hblank, hbracket⟩
      have hitems : Reader.items (value embedded steps depth) steps
          (List.intercalate [','] (items.map (textWith esc)) ++ ']' :: rest) = none :=
        items_eq_none
          (fun v hmem hfits rest hrest =>
            value_textWith hesc (hv.2 v hmem) hfits (hlength v hmem) hrest)
          (fun v hmem hfits rest _ =>
            ih v hmem (hv.2 v hmem) (Nat.lt_of_not_le hfits) (hlength v hmem) rest) hbad steps rest
      have hne : items ≠ [] := by
        rintro rfl
        simp at hbad
      rw [textWith, List.cons_append, value, skipSpaces_cons (by decide), List.append_assoc]
      simp only [List.cons_append, List.nil_append, arrayRest_intercalate hne hstart, hitems]
      rfl
  | object members ih =>
    cases depth with
    | zero =>
      rw [textWith]
      exact value_zero_bracket embedded steps (.inr rfl) _
    | succ depth =>
      rw [everywhere_object] at hv
      have hbad : ∃ m ∈ members, ¬m.2.depth ≤ depth := by
        have hnot := mt depth_object_le_iff.2 (Nat.not_le.2 hdepth)
        simpa using hnot
      have hlength : ∀ m ∈ members, (memberWith esc m).length ≤ steps := by
        intro m hmem
        have := length_le_of_mem_intercalate (List.mem_map_of_mem (f := memberWith esc) hmem)
        rw [textWith_object] at hsteps
        simp only [List.length_cons, List.length_append] at hsteps
        omega
      have hname : ∀ m ∈ members, ∀ rest,
          string steps (quoteWith esc m.1 ++ rest) = some (m.1, rest) := by
        intro m hmem rest
        have := hlength m hmem
        rw [memberWith, List.length_append] at this
        exact string_quoteWith hesc m.1 rest (by omega)
      have hvalue : ∀ m ∈ members, (textWith esc m.2).length ≤ steps := by
        intro m hmem
        have := hlength m hmem
        rw [memberWith, List.length_append, List.length_cons] at this
        omega
      have hread : ∀ m ∈ members, m.2.depth ≤ depth → ∀ rest, Closed rest →
          value embedded steps depth (textWith esc m.2 ++ rest) = some (m.2, rest) :=
        fun m hmem hfits rest hrest =>
          value_textWith hesc (hv.2 m hmem) hfits (hvalue m hmem) hrest
      have hfail : ∀ m ∈ members, ¬m.2.depth ≤ depth → ∀ rest, Closed rest →
          value embedded steps depth (textWith esc m.2 ++ rest) = none :=
        fun m hmem hfits rest _ =>
          ih m hmem (hv.2 m hmem) (Nat.lt_of_not_le hfits) (hvalue m hmem) rest
      have hmembers : Reader.members (string steps) (fun _ => value embedded steps depth) steps
          (List.intercalate [','] (members.map (memberWith esc)) ++ '\x7d' :: rest) = none :=
        members_eq_none hname hread hfail hbad steps rest
      have hne : members ≠ [] := by
        rintro rfl
        simp at hbad
      have hstart : ∀ m ∈ members, ∃ t, memberWith esc m = '"' :: t := fun m _ => ⟨_, rfl⟩
      rw [textWith_object, List.cons_append, value, skipSpaces_cons (by decide),
        List.append_assoc]
      simp only [List.cons_append, List.nil_append,
        embedding?_textWith hesc hv.1.unmarked hsteps rest,
        objectRest_intercalate hne hstart, hmembers]
      rfl

/-- An embedded text is read from the level where it stands, with no regard to how deep the value is
that it writes. -/
theorem value_embedding {inner : String} {v : Json} (hv : embedded inner.toList = some v)
    (hsteps : (textWith esc (.object [(embeddingName, .string inner)])).length ≤ steps)
    (depth : Nat) (rest : List Char) :
    value embedded steps (depth + 1)
      (textWith esc (.object [(embeddingName, .string inner)]) ++ rest) = some (v, rest) := by
  have hlength : (memberWith esc (embeddingName, .string inner)).length ≤ steps := by
    rw [textWith_object] at hsteps
    simp only [List.map_singleton, List.intercalate_singleton, List.length_cons,
      List.length_append] at hsteps
    omega
  have hmark : embedding? steps (memberWith esc (embeddingName, .string inner) ++ '\x7d' :: rest) =
      some (':' :: (quoteWith esc inner ++ '\x7d' :: rest)) := by
    rw [embedding?, string_memberWith hesc hlength, textWith]
    exact if_pos rfl
  have hinner : string steps (quoteWith esc inner ++ '\x7d' :: rest) =
      some (inner, '\x7d' :: rest) := by
    apply string_quoteWith hesc
    rw [memberWith, textWith, List.length_append, List.length_cons] at hlength
    omega
  have htext : embeddedText steps (':' :: (quoteWith esc inner ++ '\x7d' :: rest)) =
      some (inner, rest) := by
    rw [embeddedText, skipSpaces_cons (by decide)]
    simp only [Option.bind_eq_bind, Option.bind_some, hinner]
    rfl
  rw [textWith_object, List.map_singleton, List.intercalate_singleton, List.cons_append, value,
    skipSpaces_cons (by decide), List.append_assoc]
  simp only [List.singleton_append, hmark, htext, Option.bind_eq_bind, Option.bind_some, hv]
  rfl

end

/-- Without embedded texts a value is no deeper than the reader allows. -/
theorem Decoded.depth_le {steps depth : Nat} {v : Json}
    (h : Decoded (fun _ => none) steps depth v) : v.depth ≤ depth := by
  induction h with
  | @scalar depth v harray hobject =>
    have hzero : v.depth = 0 := by
      unfold Json.depth
      split
      · exact absurd rfl (harray _)
      · exact absurd rfl (hobject _)
      · rfl
    omega
  | array _ ih => exact depth_array_le_iff.2 ih
  | object _ _ _ ih => exact depth_object_le_iff.2 fun m hm => ih m (mem_of_mem_membersOf hm)
  | embedding _ hread => cases hread

end RequestLine.Json.Reader

namespace RequestLine.Json

/-! ## Whole texts -/

/-- The text of a value that nests deeper than a text may is refused. -/
theorem parse?_chars_eq_none {v : Json} (hv : Everywhere Plain v)
    (hdepth : Reader.maxDepth < v.depth) : parse? v.chars = none := by
  have hvalue : Reader.value (parseWithin v.chars.length) v.chars.length Reader.maxDepth
      (textWith escape v ++ []) = none :=
    Reader.value_textWith_eq_none Reader.escaping_escape hv hdepth
      (by rw [chars_eq_textWith]) []
  rw [List.append_nil, ← chars_eq_textWith] at hvalue
  rw [parse?, parseWithin, Reader.whole, hvalue]

/-- The compact text of a value is read back exactly if it keeps to the limit. -/
theorem parse?_chars_eq_ite {v : Json} (hv : Everywhere Plain v) :
    parse? v.chars = if v.depth ≤ Reader.maxDepth then some v else none := by
  split
  · next hdepth => exact parse?_chars hv hdepth
  · next hdepth => exact parse?_chars_eq_none hv (Nat.lt_of_not_le hdepth)

/-- A text in which no other is embedded writes a value that keeps to the limit. -/
theorem depth_le_of_parseWithin_one {text : List Char} {v : Json}
    (h : parseWithin 1 text = some v) : v.depth ≤ Reader.maxDepth := by
  have hdecoded := decoded_of_parseWithin h
  have hnone : parseWithin 0 = fun _ => none := by
    funext text
    rfl
  rw [hnone] at hdecoded
  exact hdecoded.depth_le

/-- An embedded text may use all levels itself, wherever it stands. -/
theorem parse?_array_embedding {esc : Char → List Char} (hesc : Reader.Escaping esc) {v : Json}
    (hv : Everywhere Plain v) (hdepth : v.depth ≤ Reader.maxDepth) :
    parse? (textWith esc (.array [.object [(Reader.embeddingName, .string v.render)]])) =
      some (.array [v]) := by
  obtain ⟨text, htext⟩ :
      ∃ text, textWith esc (.object [(Reader.embeddingName, .string v.render)]) = text := ⟨_, rfl⟩
  have hlength : ('[' :: (text ++ [']'])).length = text.length + 2 := by simp
  have hinner : parseWithin (text.length + 2) v.render.toList = some v := by
    rw [render, String.toList_ofList, chars_eq_textWith]
    exact parseWithin_textWith Reader.escaping_escape hv hdepth _
  have hitem : Reader.value (parseWithin (text.length + 2)) (text.length + 2) 126
      (text ++ [']']) = some (v, [']']) := by
    rw [← htext]
    rw [← htext] at hinner
    exact Reader.value_embedding hesc hinner (by omega) 125 [']']
  have hitems : Reader.arrayRest
      (Reader.value (parseWithin (text.length + 2)) (text.length + 2) 126) (text.length + 2)
      (text ++ [']']) = some ([v], []) := by
    have hopen : ∃ t, text = '\x7b' :: t := ⟨_, htext.symm.trans (textWith_object esc _)⟩
    obtain ⟨t, rfl⟩ := hopen
    rw [Reader.arrayRest, List.cons_append, Reader.skipSpaces_cons (by decide), ← List.cons_append]
    simp only [Reader.items, hitem, Option.bind_eq_bind, Option.bind_some]
    rfl
  rw [textWith, List.map_singleton, List.intercalate_singleton, htext, parse?, parseWithin,
    Reader.whole, hlength, Reader.maxDepth, Reader.value, Reader.skipSpaces_cons (by decide)]
  simp only [hitems, Option.bind_eq_bind, Option.bind_some]
  rfl

end RequestLine.Json
