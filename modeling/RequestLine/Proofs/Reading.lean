import RequestLine.Line.Reader
import RequestLine.Proofs.Results
import RequestLine.Proofs.Sections
import Mathlib.Data.List.TakeWhile

/-!
# The stages of reading a line

A line is read in three stages: it is cut, its first two sections are read, and the others are read
one after the other. For each stage there is one equation that lists its checks in order
(`opening_eq`, `Progress.add_eq`), and from it what the stage accepts (`sections?_eq_ok_iff`,
`opening_eq_ok_iff`, `Progress.add_eq_ok_iff`) and which faults it finds (`fault_of_sections?`,
`fault_of_opening`, `fault_of_add`).

The keyword sections are a run of steps. What the whole run does to a descriptor is `Fills`: every
section of the run sets the value of its own keyword, no other section changes it, and the run
keeps a list of exactly the keywords that it has read.
-/

namespace RequestLine

/-! ## Names -/

theorem Method.ofName?_eq_some_iff {name : String} {m : Method} :
    Method.ofName? name = some m ↔ name = m.name := by
  constructor
  · intro h
    unfold Method.ofName? at h
    split at h
    · next hname => cases h; exact hname
    · split at h
      · next hname => cases h; exact hname
      · cases h
  · rintro rfl
    exact Method.ofName?_name m

theorem Keyword.ofName?_eq_some_iff {text : String} {k : Keyword} :
    Keyword.ofName? text = some k ↔ text = k.name := by
  constructor
  · intro h
    have := List.find?_some h
    exact (by simpa using this : k.name = text).symm
  · rintro rfl
    exact Keyword.ofName?_name k

theorem Keyword.name_injective {k l : Keyword} (h : k.name = l.name) : k = l := by
  have hk := Keyword.ofName?_name k
  rw [h, Keyword.ofName?_name] at hk
  exact (Option.some.inj hk).symm

theorem Keyword.toList_name_inj {k l : Keyword} : k.name.toList = l.name.toList ↔ k = l :=
  ⟨fun h => Keyword.name_injective (String.toList_inj.1 h), fun h => h ▸ rfl⟩

theorem Method.uppercase_name (m : Method) :
    Text.uppercase m.name.toList = m.name.toList := by
  apply Text.uppercase_eq_self
  cases m <;> decide

theorem Keyword.uppercase_name (k : Keyword) :
    Text.uppercase k.name.toList = k.name.toList := by
  apply Text.uppercase_eq_self
  cases k <;> decide

theorem Keyword.space_not_mem_name (k : Keyword) : ' ' ∉ k.name.toList := by
  cases k <;> decide

theorem Keyword.pipe_not_mem_name (k : Keyword) : '|' ∉ k.name.toList := by
  cases k <;> decide

/-! ## Descriptors -/

namespace Descriptor

@[simp] theorem get_withSection_self (d : Descriptor) (k : Keyword) (v : Json) :
    (d.withSection k v).get k = v := by
  cases k <;> rfl

/-- Giving one section leaves the others as they are. -/
theorem get_withSection_of_ne (d : Descriptor) {k l : Keyword} (v : Json) (h : l ≠ k) :
    (d.withSection k v).get l = d.get l := by
  cases k <;> cases l <;> first | rfl | exact absurd rfl h

@[simp] theorem withSection_method (d : Descriptor) (k : Keyword) (v : Json) :
    (d.withSection k v).method = d.method := by
  cases k <;> rfl

@[simp] theorem withSection_url (d : Descriptor) (k : Keyword) (v : Json) :
    (d.withSection k v).url = d.url := by
  cases k <;> rfl

/-- A descriptor is its method, its address and its three sections. -/
theorem ext_get {d e : Descriptor} (hmethod : d.method = e.method) (hurl : d.url = e.url)
    (hget : ∀ k, d.get k = e.get k) : d = e := by
  have hheaders : d.headers = e.headers := hget .headers
  have hquery : d.query = e.query := hget .query
  have hbody : d.body = e.body := hget .body
  cases d
  cases e
  simp_all

end Descriptor

namespace Line

/-! ## Cutting -/

/-- All sections of a line that has been cut. -/
def Sections.all (s : Sections) : List (List Char) := s.method :: s.url :: s.others

/-- A line is cut into sections exactly if it is what they make up and no pipe is left in them. -/
theorem sections?_eq_ok_iff {line : List Char} {s : Sections} :
    sections? line = .ok s ↔ line = join s.all ∧ ∀ t ∈ s.all, '|' ∉ t := by
  constructor
  · intro h
    unfold sections? at h
    split at h
    · cases h
    · split at h
      · cases h
      · split at h
        · cases h
        · next hcounts =>
          split at h
          · next method url others hsplit =>
            cases h
            have hpipes := (delimiters_eq_pipes_iff line).1 (by omega)
            rw [hsplit] at hpipes
            refine ⟨?_, hpipes⟩
            rw [← join_split line, hsplit]
            rfl
          · cases h
  · rintro ⟨rfl, hpipes⟩
    have hall : s.all ≠ [] := by simp [Sections.all]
    have hcounts := delimiters_join hall hpipes
    have hlength : s.others.length + 2 = delimiters (join s.all) + 1 :=
      length_eq_delimiters_join hall hpipes
    have hne : join s.all ≠ [] := by
      intro h
      rw [h] at hlength
      simp [delimiters] at hlength
    unfold sections?
    rw [if_neg (by simpa using hne), if_neg (by omega), if_neg (by omega), split_join hall hpipes]
    rfl

theorem split_of_sections? {line : List Char} {s : Sections} (h : sections? line = .ok s) :
    split line = s.all := by
  obtain ⟨rfl, hpipes⟩ := sections?_eq_ok_iff.1 h
  exact split_join (by simp [Sections.all]) hpipes

/-! ## The first two sections -/

/-- The text where a method is expected. -/
def Sections.methodText (s : Sections) : List Char := Text.trim (s.method.drop httpMark.length)

/-- The text where an address is expected. -/
def Sections.urlText (s : Sections) : List Char := Text.trim (s.url.drop urlMark.length)

/-- The checks on the first two sections, in order. -/
theorem opening_eq (line : List Char) (s : Sections) :
    opening line s =
      if s.methodText ≠ Text.uppercase s.methodText then .error .methodNotUppercase
      else if ¬httpMark <+: s.method then .error .missingHttpKeyword
      else if ¬urlMark <+: s.url then .error .missingUrlKeyword
      else match Method.ofName? (String.ofList s.methodText) with
        | none => .error .unsupportedMethod
        | some method =>
          if hasDoubleSpace line then .error .doubleSpace
          else .ok { method, url := String.ofList s.urlText } := by
  simp only [← List.isPrefixOf_iff_prefix]
  unfold opening Sections.methodText Sections.urlText
  simp only [throw_bind]
  cases Method.ofName? (String.ofList (Text.trim (s.method.drop httpMark.length))) <;> rfl

/-- Of the line as a whole only its double spaces matter here. -/
theorem opening_congr {line line' : List Char} {s s' : Sections} (hmethod : s.method = s'.method)
    (hurl : s.url = s'.url) (hdouble : hasDoubleSpace line = hasDoubleSpace line') :
    opening line s = opening line' s' := by
  have hmethodText : s.methodText = s'.methodText := by simp only [Sections.methodText, hmethod]
  have hurlText : s.urlText = s'.urlText := by simp only [Sections.urlText, hurl]
  rw [opening_eq, opening_eq, hmethodText, hurlText, hmethod, hurl, hdouble]

/-- The first two sections are accepted exactly if they have their marks, the line has single
spaces, and the method is a known one. -/
theorem opening_eq_ok_iff {line : List Char} {s : Sections} {d : Descriptor} :
    opening line s = .ok d ↔
      ∃ m u, s.method = httpMark ++ m ∧ s.url = urlMark ++ u ∧ ¬hasDoubleSpace line ∧
        Text.trim m = d.method.name.toList ∧
        d = { method := d.method, url := String.ofList (Text.trim u) } := by
  rw [opening_eq]
  constructor
  · intro h
    split at h
    · cases h
    · split at h
      · cases h
      · next hhttp =>
        split at h
        · cases h
        · next hurl =>
          obtain ⟨m, hm⟩ := not_not.1 hhttp
          obtain ⟨u, hu⟩ := not_not.1 hurl
          have hmethod : s.methodText = Text.trim m := by simp [Sections.methodText, ← hm]
          have haddress : s.urlText = Text.trim u := by simp [Sections.urlText, ← hu]
          split at h
          · cases h
          · next method hname =>
            split at h
            · cases h
            · next hdouble =>
              cases h
              rw [Method.ofName?_eq_some_iff, hmethod] at hname
              refine ⟨m, u, hm.symm, hu.symm, hdouble, ?_, ?_⟩
              · rw [← hname, String.toList_ofList]
              · rw [haddress]
  · rintro ⟨m, u, hm, hu, hdouble, hname, hd⟩
    have hmethod : s.methodText = d.method.name.toList := by
      rw [← hname]
      simp [Sections.methodText, hm]
    have haddress : s.urlText = Text.trim u := by simp [Sections.urlText, hu]
    have hhttp : httpMark <+: s.method := hm ▸ List.prefix_append _ _
    have hurl : urlMark <+: s.url := hu ▸ List.prefix_append _ _
    rw [hmethod, haddress, Method.uppercase_name, String.ofList_toList, Method.ofName?_name]
    simp only [ne_eq, not_true_eq_false, if_false, hhttp, hurl, hdouble]
    rw [← hd]
    rfl

/-! ## Keyword sections -/

/-- What stands in a section before its first space. -/
def heading (text : List Char) : List Char := text.takeWhile (· != ' ')

/-- What stands in a section after its first space. -/
def literalOf (text : List Char) : List Char := (text.dropWhile (· != ' ')).tail

/-- A keyword section as it is written. -/
def partText (part : Keyword × List Char) : List Char := part.1.name.toList ++ ' ' :: part.2

theorem dropWhile_eq_cons_literalOf {text : List Char} (h : ' ' ∈ text) :
    text.dropWhile (· != ' ') = ' ' :: literalOf text := by
  induction text with
  | nil => simp at h
  | cons c text ih =>
    unfold literalOf
    by_cases hc : c = ' '
    · subst hc
      rfl
    · have hmem : ' ' ∈ text := by simpa [eq_comm, hc] using h
      rw [List.dropWhile_cons_of_pos (by simpa using hc)]
      exact ih hmem

/-- A section with a space is its heading, the space and its value. -/
theorem eq_heading_append {text : List Char} (h : ' ' ∈ text) :
    text = heading text ++ ' ' :: literalOf text := by
  rw [← dropWhile_eq_cons_literalOf h]
  exact List.takeWhile_append_dropWhile.symm

theorem heading_append {name : List Char} (h : ' ' ∉ name) (rest : List Char) :
    heading (name ++ ' ' :: rest) = name := by
  have hall : ∀ c ∈ name, (c != ' ') = true := by
    intro c hc
    simpa using fun (he : c = ' ') => h (he ▸ hc)
  simp [heading, List.takeWhile_append_of_pos hall]

theorem literalOf_append {name : List Char} (h : ' ' ∉ name) (rest : List Char) :
    literalOf (name ++ ' ' :: rest) = rest := by
  have hall : ∀ c ∈ name, (c != ' ') = true := by
    intro c hc
    simpa using fun (he : c = ' ') => h (he ▸ hc)
  simp [literalOf, List.dropWhile_append_of_pos hall]

/-- The checks on a keyword section, in order. -/
theorem Progress.add_eq (p : Progress) (text : List Char) :
    p.add text =
      if ' ' ∉ text then .error .missingKeywordSpace
      else if heading text ∈ p.seen then .error (.duplicateKeyword (String.ofList (heading text)))
      else if heading text ≠ Text.uppercase (heading text) then .error .keywordNotUppercase
      else match Keyword.ofName? (String.ofList (heading text)) with
        | none => .error (.unknownKeyword (String.ofList (heading text)))
        | some k => match Json.parse? (Text.trim (literalOf text)) with
          | none => .error (.invalidLiteral k)
          | some value => .ok ⟨p.descriptor.withSection k value, heading text :: p.seen⟩ := by
  unfold Progress.add
  rw [List.span_eq_takeWhile_dropWhile]
  by_cases hspace : ' ' ∈ text
  · rw [if_neg (not_not.2 hspace), dropWhile_eq_cons_literalOf hspace]
    simp only [throw_bind, List.contains_iff_mem]
    unfold heading
    cases Keyword.ofName? (String.ofList (text.takeWhile (· != ' '))) with
    | none => rfl
    | some k => cases Json.parse? (Text.trim (literalOf text)) <;> rfl
  · have hrest : text.dropWhile (· != ' ') = [] := by
      rw [List.dropWhile_eq_nil_iff]
      intro c hc
      simpa using fun (he : c = ' ') => hspace (he ▸ hc)
    rw [if_pos hspace, hrest]
    rfl

theorem heading_partText (k : Keyword) (v : List Char) :
    heading (partText (k, v)) = k.name.toList :=
  heading_append k.space_not_mem_name v

theorem literalOf_partText (k : Keyword) (v : List Char) : literalOf (partText (k, v)) = v :=
  literalOf_append k.space_not_mem_name v

/-- A section is accepted exactly if it names a keyword that has not been met and its value can be
read. -/
theorem Progress.add_eq_ok_iff {p q : Progress} {text : List Char} :
    p.add text = .ok q ↔
      ∃ k v value, text = partText (k, v) ∧ k.name.toList ∉ p.seen ∧
        Json.parse? (Text.trim v) = some value ∧
        q = ⟨p.descriptor.withSection k value, k.name.toList :: p.seen⟩ := by
  rw [Progress.add_eq]
  constructor
  · intro h
    split at h
    · cases h
    · next hspace =>
      split at h
      · cases h
      · next hseen =>
        split at h
        · cases h
        · split at h
          · cases h
          · next k hname =>
            split at h
            · cases h
            · next value hvalue =>
              cases h
              have hheading : heading text = k.name.toList := by
                rw [← Keyword.ofName?_eq_some_iff.1 hname, String.toList_ofList]
              rw [hheading] at hseen ⊢
              refine ⟨k, literalOf text, value, ?_, hseen, hvalue, rfl⟩
              rw [partText, ← hheading]
              exact eq_heading_append (not_not.1 hspace)
  · rintro ⟨k, v, value, rfl, hseen, hvalue, rfl⟩
    have hspace : ' ' ∈ partText (k, v) := by simp [partText]
    rw [if_neg (not_not.2 hspace), heading_partText, literalOf_partText, if_neg hseen,
      Keyword.uppercase_name, if_neg (not_not.2 rfl), String.ofList_toList, Keyword.ofName?_name]
    simp only [hvalue]

/-! ## Runs of keyword sections -/

/-- What a run of keyword sections does. The values that it leaves are those of the sections, by
their keywords; all else is as it was, and the run has noted the keywords that it has read. -/
structure Fills (p : Progress) (parts : List (Keyword × List Char)) (q : Progress) : Prop where
  distinct : (parts.map Prod.fst).Nodup
  fresh : ∀ part ∈ parts, part.1.name.toList ∉ p.seen
  read : ∀ part ∈ parts, Json.parse? (Text.trim part.2) = some (q.descriptor.get part.1)
  kept : ∀ k ∉ parts.map Prod.fst, q.descriptor.get k = p.descriptor.get k
  method_eq : q.descriptor.method = p.descriptor.method
  url_eq : q.descriptor.url = p.descriptor.url
  seen_eq : q.seen = (parts.map (·.1.name.toList)).reverse ++ p.seen

namespace Fills

theorem nil_iff {p q : Progress} : Fills p [] q ↔ q = p := by
  constructor
  · intro h
    have hdescriptor : q.descriptor = p.descriptor :=
      Descriptor.ext_get h.method_eq h.url_eq fun k => h.kept k (by simp)
    have hseen : q.seen = p.seen := by simpa using h.seen_eq
    cases p
    cases q
    simp_all
  · rintro rfl
    refine ⟨?_, ?_, ?_, ?_, rfl, rfl, ?_⟩ <;> simp

/-- A run does what its first section does and then what the run of the others does. -/
theorem cons_iff {p q : Progress} {k : Keyword} {v : List Char}
    {parts : List (Keyword × List Char)} :
    Fills p ((k, v) :: parts) q ↔
      ∃ value, k.name.toList ∉ p.seen ∧ Json.parse? (Text.trim v) = some value ∧
        Fills ⟨p.descriptor.withSection k value, k.name.toList :: p.seen⟩ parts q := by
  constructor
  · intro h
    have hdistinct := h.distinct
    rw [List.map_cons, List.nodup_cons] at hdistinct
    refine ⟨q.descriptor.get k, h.fresh (k, v) List.mem_cons_self,
      h.read (k, v) List.mem_cons_self, hdistinct.2, ?_, ?_, ?_, ?_, ?_, ?_⟩
    · intro part hpart
      rw [List.mem_cons, not_or, Keyword.toList_name_inj]
      refine ⟨?_, h.fresh part (List.mem_cons_of_mem _ hpart)⟩
      intro hk
      exact hdistinct.1 (List.mem_map.2 ⟨part, hpart, hk⟩)
    · exact fun part hpart => h.read part (List.mem_cons_of_mem _ hpart)
    · intro l hl
      by_cases hlk : l = k
      · subst hlk
        exact (Descriptor.get_withSection_self ..).symm
      · rw [Descriptor.get_withSection_of_ne _ _ hlk]
        exact h.kept l (by simp_all)
    · simpa using h.method_eq
    · simpa using h.url_eq
    · simpa using h.seen_eq
  · rintro ⟨value, hseen, hvalue, h⟩
    have hk : k ∉ parts.map Prod.fst := by
      intro hmem
      obtain ⟨part, hpart, rfl⟩ := List.mem_map.1 hmem
      exact h.fresh part hpart List.mem_cons_self
    refine ⟨?_, ?_, ?_, ?_, ?_, ?_, ?_⟩
    · exact List.nodup_cons.2 ⟨hk, h.distinct⟩
    · intro part hpart
      rcases List.mem_cons.1 hpart with rfl | hpart
      · exact hseen
      · exact fun hmem => h.fresh part hpart (List.mem_cons_of_mem _ hmem)
    · intro part hpart
      rcases List.mem_cons.1 hpart with rfl | hpart
      · rw [hvalue, h.kept k hk, Descriptor.get_withSection_self]
      · exact h.read part hpart
    · intro l hl
      rw [List.map_cons, List.mem_cons, not_or] at hl
      rw [h.kept l hl.2, Descriptor.get_withSection_of_ne _ _ hl.1]
    · simpa using h.method_eq
    · simpa using h.url_eq
    · simpa using h.seen_eq

end Fills

/-- Reading sections one after the other succeeds exactly on texts of sections that fill the
descriptor. -/
theorem foldlM_add_eq_ok_iff {texts : List (List Char)} {p q : Progress} :
    texts.foldlM Progress.add p = .ok q ↔
      ∃ parts, texts = parts.map partText ∧ Fills p parts q := by
  induction texts generalizing p with
  | nil =>
    constructor
    · intro h
      cases h
      exact ⟨[], rfl, Fills.nil_iff.2 rfl⟩
    · rintro ⟨parts, htexts, h⟩
      obtain rfl : parts = [] := List.map_eq_nil_iff.1 htexts.symm
      rw [Fills.nil_iff.1 h]
      rfl
  | cons text texts ih =>
    rw [List.foldlM_cons, bind_eq_ok]
    constructor
    · rintro ⟨p', hadd, hrest⟩
      obtain ⟨k, v, value, rfl, hseen, hvalue, rfl⟩ := Progress.add_eq_ok_iff.1 hadd
      obtain ⟨parts, rfl, h⟩ := ih.1 hrest
      exact ⟨(k, v) :: parts, rfl, Fills.cons_iff.2 ⟨value, hseen, hvalue, h⟩⟩
    · rintro ⟨parts, htexts, h⟩
      obtain ⟨⟨k, v⟩, parts, rfl⟩ : ∃ part rest, parts = part :: rest :=
        List.exists_cons_of_ne_nil (by rintro rfl; simp at htexts)
      obtain ⟨rfl, rfl⟩ : text = partText (k, v) ∧ texts = parts.map partText := by
        simpa using htexts
      obtain ⟨value, hseen, hvalue, h⟩ := Fills.cons_iff.1 h
      have hadd := Progress.add_eq_ok_iff.2 ⟨k, v, value, rfl, hseen, hvalue, rfl⟩
      exact ⟨_, hadd, ih.2 ⟨parts, rfl, h⟩⟩

/-! ## Faults -/

theorem fault_of_sections? {line : List Char} {f : Fault} (h : sections? line = .error f) :
    f = .missingLine ∨ f = .missingDelimiter ∨ f = .badPipeSpacing := by
  unfold sections? at h
  split at h
  · cases h
    exact .inl rfl
  · split at h
    · cases h
      exact .inr (.inl rfl)
    · split at h
      · cases h
        exact .inr (.inr rfl)
      · split at h
        · cases h
        · cases h
          exact .inr (.inl rfl)

theorem fault_of_opening {line : List Char} {s : Sections} {f : Fault}
    (h : opening line s = .error f) :
    f = .methodNotUppercase ∨ f = .missingHttpKeyword ∨ f = .missingUrlKeyword ∨
      f = .unsupportedMethod ∨ f = .doubleSpace := by
  rw [opening_eq] at h
  split at h
  · cases h
    exact .inl rfl
  · split at h
    · cases h
      exact .inr (.inl rfl)
    · split at h
      · cases h
        exact .inr (.inr (.inl rfl))
      · split at h
        · cases h
          exact .inr (.inr (.inr (.inl rfl)))
        · split at h
          · cases h
            exact .inr (.inr (.inr (.inr rfl)))
          · cases h

/-- The faults of a keyword section, with what they name. -/
theorem fault_of_add {p : Progress} {text : List Char} {f : Fault} (h : p.add text = .error f) :
    f = .missingKeywordSpace ∨ f = .duplicateKeyword (String.ofList (heading text)) ∨
      f = .keywordNotUppercase ∨ f = .unknownKeyword (String.ofList (heading text)) ∨
      ∃ k, f = .invalidLiteral k := by
  rw [Progress.add_eq] at h
  split at h
  · cases h
    exact .inl rfl
  · split at h
    · cases h
      exact .inr (.inl rfl)
    · split at h
      · cases h
        exact .inr (.inr (.inl rfl))
      · split at h
        · cases h
          exact .inr (.inr (.inr (.inl rfl)))
        · split at h
          · cases h
            exact .inr (.inr (.inr (.inr ⟨_, rfl⟩)))
          · cases h

/-- A run of sections that fails has read all sections before one and fails on that one. -/
theorem exists_stop_of_foldlM_eq_error {texts : List (List Char)} {p : Progress} {f : Fault}
    (h : texts.foldlM Progress.add p = .error f) :
    ∃ earlier text later q, texts = earlier ++ text :: later ∧
      earlier.foldlM Progress.add p = .ok q ∧ q.add text = .error f := by
  induction texts generalizing p with
  | nil => cases h
  | cons text texts ih =>
    rw [List.foldlM_cons, bind_eq_error] at h
    rcases h with h | ⟨q, hq, h⟩
    · exact ⟨[], text, texts, p, rfl, rfl, h⟩
    · obtain ⟨earlier, t, later, r, rfl, hr, hadd⟩ := ih h
      refine ⟨text :: earlier, t, later, r, rfl, ?_, hadd⟩
      rw [List.foldlM_cons, bind_eq_ok]
      exact ⟨q, hq, hr⟩

/-- A line that has been cut has a fault in its first two sections or in one of the others. -/
theorem opening_or_add_of_describe_eq_error {line : List Char} {s : Sections} {f : Fault}
    (h : describe line s = .error f) :
    opening line s = .error f ∨ ∃ q, ∃ text ∈ s.others, Progress.add q text = .error f := by
  rw [describe, bind_eq_error] at h
  rcases h with h | ⟨start, -, h⟩
  · exact .inl h
  · rw [bind_eq_error] at h
    rcases h with h | ⟨done, -, h⟩
    · obtain ⟨earlier, text, later, q, hothers, -, hadd⟩ := exists_stop_of_foldlM_eq_error h
      exact .inr ⟨q, text, by simp [hothers], hadd⟩
    · cases h

end Line

end RequestLine
