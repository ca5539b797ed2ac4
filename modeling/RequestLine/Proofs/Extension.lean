import RequestLine.Proofs.FirstFault

/-!
# Lines that are written on

A line can be written on from left to right: a delimiter and one more section are put at its end.
What is wrong with a line stays wrong, with the same fault, and what a faultless line describes is
changed by the new section alone (`parse_append_section`).

The text is read again from the start, and the new delimiter can be cut in another way than the end
of the old line was: in a line that ends with a pipe after a space, the new space completes a
delimiter and the new pipe is the one that is left over. So the sections of a longer line are not
always those of the line with one more. But one more pipe is counted and one more delimiter
(`delimiters_append_section`), so a line with a stray pipe keeps one.
-/

namespace RequestLine.Line

/-! ## Keywords of a line -/

/-- The keywords of a line, each once and in the order in which they are documented: two lines with
the same keywords have the same list. -/
def keywordsOf (line : List Char) : List Keyword :=
  Keyword.all.filter fun k => ((split line).drop 2).any (heading · == k.name.toList)

theorem mem_keywordsOf {line : List Char} {k : Keyword} :
    k ∈ keywordsOf line ↔ ∃ t ∈ (split line).drop 2, heading t = k.name.toList := by
  have hall : k ∈ Keyword.all := by cases k <;> decide
  simp [keywordsOf, hall]

/-- For a line that is made of parts, the keywords are those of the parts. -/
theorem mem_keywordsOf_iff_of_parts {line : List Char} {parts : List (Keyword × List Char)}
    (h : (split line).drop 2 = parts.map partText) (k : Keyword) :
    k ∈ keywordsOf line ↔ k ∈ parts.map Prod.fst := by
  have hheading : ∀ part, heading (partText part) = part.1.name.toList :=
    fun part => heading_partText part.1 part.2
  rw [mem_keywordsOf, h]
  simp only [List.mem_map, exists_exists_and_eq_and, hheading, Keyword.toList_name_inj]

/-- What reading gives for the section `text` after a line that describes `d` and has the keywords
`used`. -/
def appended (d : Descriptor) (used : List Keyword) (text : List Char) :
    Except Fault Descriptor :=
  if ' ' ∉ text then .error .missingKeywordSpace
  else
    let name := String.ofList (heading text)
    if ∃ k ∈ used, k.name = name then .error (.duplicateKeyword name)
    else if heading text ≠ Text.uppercase (heading text) then .error .keywordNotUppercase
    else match Keyword.ofName? name with
      | none => .error (.unknownKeyword name)
      | some k => match Json.parse? (Text.trim (literalOf text)) with
        | none => .error (.invalidLiteral k)
        | some value => .ok (d.withSection k value)

/-! ## Cutting a longer line -/

theorem delimiters_pipeless {s : List Char} (hs : '|' ∉ s) : delimiters s = 0 := by
  have hle := delimiters_le_pipes s
  have hzero : pipes s = 0 := List.count_eq_zero.2 hs
  omega

section

variable {l s : List Char} (hlast : l.getLast? ≠ some ' ') (hpipe : '|' ∉ s)

include hlast hpipe

/-- The delimiter at the joint is counted, since no other one reaches across it. -/
theorem delimiters_append_section : delimiters (l ++ delimiter ++ s) = delimiters l + 1 := by
  have hnew : delimiters (delimiter ++ s) = 1 := by
    simp [delimiter, delimiters, delimiters_pipeless hpipe]
  fun_induction delimiters l with
  | case1 rest ih =>
    have hrest : rest.getLast? ≠ some ' ' := by
      intro h
      cases rest with
      | nil => cases h
      | cons c rest => exact hlast (by simpa [List.getLast?_cons_cons] using h)
    simp only [List.cons_append, delimiters, ih hrest]
  | case2 c rest hc ih =>
    cases rest with
    | nil =>
      have hne : c ≠ ' ' := by
        rintro rfl
        exact hlast rfl
      have hcons : delimiters (c :: (delimiter ++ s)) = delimiters (delimiter ++ s) := by
        apply delimiters.eq_2
        intro rest' hspace
        exact absurd hspace hne
      rw [List.append_assoc, List.singleton_append, hcons, hnew]
      rfl
    | cons b rest =>
      have hrest : (b :: rest).getLast? ≠ some ' ' := by
        rwa [List.getLast?_cons_cons] at hlast
      by_cases hpair : c = ' ' ∧ b = '|' ∧ rest = []
      · -- the old line ends with a pipe after a space: the new space completes that delimiter
        obtain ⟨rfl, rfl, rfl⟩ := hpair
        have hleft : delimiters (['|', ' '] ++ s) = 0 := by
          rw [List.cons_append, delimiters.eq_2 _ _ (by simp)]
          exact delimiters_pipeless (by simp [hpipe])
        simpa [delimiter, delimiters] using hleft
      · rw [← ih hrest]
        apply delimiters.eq_2
        intro rest' hspace hbar
        obtain ⟨rfl, htail⟩ : b = '|' ∧ rest ++ delimiter ++ s = ' ' :: rest' := by
          simpa using hbar
        cases rest with
        | nil => exact hpair ⟨hspace, rfl, rfl⟩
        | cons a rest =>
          obtain ⟨rfl, -⟩ : a = ' ' ∧ rest ++ delimiter ++ s = rest' := by simpa using htail
          exact hc rest hspace rfl
  | case3 => exact hnew

omit hlast in
theorem pipes_append_section : pipes (l ++ delimiter ++ s) = pipes l + 1 := by
  have hzero : pipes s = 0 := List.count_eq_zero.2 hpipe
  rw [pipes_append, pipes_append, hzero]
  rfl

end

/-- The counts agree on a line exactly if it joins texts without pipes. -/
theorem exists_pipeless_join_iff {line : List Char} :
    (∃ segments, line = join segments ∧ ∀ t ∈ segments, '|' ∉ t) ↔
      delimiters line = pipes line := by
  constructor
  · rintro ⟨segments, rfl, hsegments⟩
    by_cases hne : segments = []
    · subst hne
      rfl
    · exact delimiters_join hne hsegments
  · intro h
    exact ⟨split line, (join_split line).symm, (delimiters_eq_pipes_iff line).1 h⟩

/-- The sections of a line with one more. -/
def Sections.append (c : Sections) (text : List Char) : Sections :=
  { c with others := c.others ++ [text] }

theorem join_all_append (c : Sections) (text : List Char) :
    join (c.append text).all = join c.all ++ delimiter ++ text := by
  unfold Sections.all Sections.append
  rw [join_eq_append_flatMap, join_eq_append_flatMap]
  simp

/-- A section without pipes becomes the last section of the line. -/
theorem Cut.append {l s : List Char} {c : Sections} (h : Cut l c) (hpipe : '|' ∉ s) :
    Cut (l ++ delimiter ++ s) (c.append s) := by
  obtain ⟨hjoin, hpipes⟩ := h
  refine ⟨by rw [join_all_append, ← hjoin], ?_⟩
  intro t ht
  rw [show (c.append s).all = c.all ++ [s] from rfl, List.mem_append, List.mem_singleton] at ht
  rcases ht with ht | rfl
  · exact hpipes t ht
  · exact hpipe

/-- One more section changes nothing about whether a line is cut, and stands last if it is. -/
theorem sections?_append_section {l s : List Char} (hlast : l.getLast? ≠ some ' ')
    (hpipe : '|' ∉ s) (hdelimiter : delimiter <:+: l) :
    sections? (l ++ delimiter ++ s) = (sections? l).map (·.append s) := by
  have hdelimiter' : delimiter <:+: l ++ delimiter ++ s :=
    hdelimiter.trans ((List.prefix_append _ _).trans (List.prefix_append _ _)).isInfix
  have hne : ∀ t : List Char, delimiter <:+: t → t ≠ [] := by
    rintro t ht rfl
    exact absurd ht (by decide)
  by_cases hjoin : ∃ segments, l = join segments ∧ ∀ t ∈ segments, '|' ∉ t
  · obtain ⟨c, hc⟩ := exists_cut hdelimiter hjoin
    rw [cut_iff.1 hc, cut_iff.1 (hc.append hpipe)]
    rfl
  · have hjoin' : ¬∃ segments, l ++ delimiter ++ s = join segments ∧ ∀ t ∈ segments, '|' ∉ t := by
      rw [exists_pipeless_join_iff] at hjoin ⊢
      rw [delimiters_append_section hlast hpipe, pipes_append_section hpipe]
      omega
    rw [sections?_of_not_join (hne _ hdelimiter) hdelimiter hjoin,
      sections?_of_not_join (hne _ hdelimiter') hdelimiter' hjoin']
    rfl

/-! ## Reading a longer line -/

/-- The joint has single spaces, so two in a row come from the line itself. -/
theorem hasDoubleSpace_append_section {l s : List Char} (hlast : l.getLast? ≠ some ' ')
    (hsingle : ¬hasDoubleSpace s) (hhead : s.head? ≠ some ' ') :
    hasDoubleSpace (l ++ delimiter ++ s) = hasDoubleSpace l := by
  have hmark : ¬hasDoubleSpace delimiter := by decide
  have hend : (l ++ delimiter).getLast? = some ' ' := by simp [delimiter]
  rw [Bool.eq_iff_iff, hasDoubleSpace_append, hasDoubleSpace_append]
  simp [hmark, hsingle, hlast, hhead, hend]

theorem opening_append (line l text : List Char) (c : Sections)
    (h : hasDoubleSpace line = hasDoubleSpace l) :
    opening line (c.append text) = opening l c :=
  opening_congr rfl rfl h

/-- Of what a run has noted, only the keywords of the line matter. -/
theorem add_eq_appended {p : Progress} {used : List Keyword}
    (hseen : ∀ name, name ∈ p.seen ↔ ∃ k ∈ used, k.name.toList = name) (text : List Char) :
    (p.add text).map (·.descriptor) = appended p.descriptor used text := by
  have hused : heading text ∈ p.seen ↔ ∃ k ∈ used, k.name = String.ofList (heading text) := by
    rw [hseen]
    constructor
    · rintro ⟨k, hk, hname⟩
      exact ⟨k, hk, by rw [← hname, String.ofList_toList]⟩
    · rintro ⟨k, hk, hname⟩
      exact ⟨k, hk, by rw [hname, String.toList_ofList]⟩
  rw [Progress.add_eq, appended]
  simp only [hused]
  split
  · rfl
  · split
    · rfl
    · split
      · rfl
      · cases Keyword.ofName? (String.ofList (heading text)) with
        | none => rfl
        | some k => cases Json.parse? (Text.trim (literalOf text)) <;> rfl

/-- After a whole line has been read, what has been noted are its keywords. -/
theorem mem_seen_iff {l : List Char} {c : Sections} {p q : Progress} (hcut : Cut l c)
    (hp : p.seen = []) (h : c.others.foldlM Progress.add p = .ok q) (name : List Char) :
    name ∈ q.seen ↔ ∃ k ∈ keywordsOf l, k.name.toList = name := by
  obtain ⟨parts, hparts, hfills⟩ := foldlM_add_eq_ok_iff.1 h
  have hsplit : (split l).drop 2 = parts.map partText := by
    rw [hcut.1, split_join (by simp [Sections.all]) hcut.2, ← hparts]
    rfl
  have hkeyword := mem_keywordsOf_iff_of_parts hsplit
  rw [hfills.seen_eq, hp, List.append_nil, List.mem_reverse, List.mem_map]
  constructor
  · rintro ⟨part, hpart, rfl⟩
    exact ⟨part.1, (hkeyword part.1).2 (List.mem_map_of_mem hpart), rfl⟩
  · rintro ⟨k, hk, rfl⟩
    obtain ⟨part, hpart, rfl⟩ := List.mem_map.1 ((hkeyword k).1 hk)
    exact ⟨part, hpart, rfl⟩

/-- A section at the end of a line neither mends the line nor does any harm to what it describes:
a fault stays, and a descriptor is changed in no other way than by this section, which is judged by
the keywords of the line and by its own text. -/
theorem parse_append_section (l s : String) (hdelimiter : delimiter <:+: l.toList)
    (hlast : l.toList.getLast? ≠ some ' ') (hpipe : '|' ∉ s.toList)
    (hsingle : ¬[' ', ' '] <:+: s.toList) (hhead : s.toList.head? ≠ some ' ') :
    parse (l ++ " | " ++ s) =
      match parse l with
      | .error f => .error f
      | .ok d => appended d (keywordsOf l.toList) s.toList := by
  have htext : (l ++ " | " ++ s).toList = l.toList ++ delimiter ++ s.toList := by
    rw [String.toList_append, String.toList_append]
    rfl
  have hdouble := hasDoubleSpace_append_section hlast (mt (hasDoubleSpace_iff _).1 hsingle) hhead
  unfold parse
  rw [htext, sections?_append_section hlast hpipe hdelimiter]
  cases hc : sections? l.toList with
  | error f => rfl
  | ok c =>
    have hcut : Cut l.toList c := cut_iff.2 hc
    change describe _ (c.append s.toList) =
      match describe l.toList c with
      | .error f => .error f
      | .ok d => appended d (keywordsOf l.toList) s.toList
    unfold describe
    rw [opening_append _ _ _ _ hdouble]
    cases opening l.toList c with
    | error f => rfl
    | ok start =>
      let p : Progress := { descriptor := start }
      change ((c.others ++ [s.toList]).foldlM Progress.add p >>= _) =
        match c.others.foldlM Progress.add p >>= _ with
        | .error f => .error f
        | .ok d => appended d (keywordsOf l.toList) s.toList
      rw [List.foldlM_append]
      cases hq : c.others.foldlM Progress.add p with
      | error f => rfl
      | ok q =>
        have hadd := add_eq_appended (mem_seen_iff hcut rfl hq) s.toList
        change (([s.toList].foldlM Progress.add q) >>= _) = appended q.descriptor _ _
        rw [← hadd, List.foldlM_cons]
        cases q.add s.toList <;> rfl

/-- A stray pipe at the end of a line is not mended by the space that the next section brings, and a
second section for a keyword is refused after a line that has one. -/
theorem parse_append_section_pipe_and_repeat :
    parse ("HTTP GET | URL x |" ++ " | " ++ "BODY 1") = .error .badPipeSpacing ∧
      parse ("HTTP GET | URL x | QUERY 1" ++ " | " ++ "QUERY 2") =
        .error (.duplicateKeyword "QUERY") := by
  constructor
  · rw [parse_append_section "HTTP GET | URL x |" "BODY 1" (by decide) (by decide) (by decide)
      (by decide) (by decide)]
    rfl
  · rw [parse_append_section "HTTP GET | URL x | QUERY 1" "QUERY 2" (by decide) (by decide)
      (by decide) (by decide) (by decide)]
    rfl

end RequestLine.Line
