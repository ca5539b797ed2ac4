import RequestLine.Proofs.Extension
import RequestLine.Proofs.Grammar
import Mathlib.Data.List.Perm.Basic

/-!
# The order of keyword sections

The keyword sections of a line may stand in any order, and a section may be written out that only
repeats the default of its keyword: the line describes the same (`parse_join_of_perm`).

The grammar does not look at the order of its sections, so what has to be shown is that the joints of
the new line are as good as those of the old one. No section of an accepted line starts or ends with
a space, for it would stand beside that of a delimiter; only the last one may end with a space, and
then it cannot be moved.
-/

namespace RequestLine.Line

/-- The section that gives a keyword the value that it has without one. -/
def emptySection (k : Keyword) : List Char := k.name.toList ++ [' ', '\x7b', '\x7d']

/-- The keyword and the literal of that section. -/
def emptyPart (k : Keyword) : Keyword × List Char := (k, ['\x7b', '\x7d'])

theorem map_partText_emptyPart (added : List Keyword) :
    (added.map emptyPart).map partText = added.map emptySection := by
  rw [List.map_map]
  rfl

theorem map_fst_emptyPart (added : List Keyword) : (added.map emptyPart).map Prod.fst = added := by
  simp [Function.comp_def, emptyPart]

namespace Grammar

variable {line : List Char} {d : Descriptor} {m u : List Char}
  {parts : List (Keyword × List Char)}

/-- A line of the grammar that does not end with a space has single spaces between texts only. -/
theorem tight (h : Grammar line d m u parts) (hlast : line.getLast? ≠ some ' ') :
    Tight line where
  ne_nil := by simp [h.line_eq, httpMark]
  single := by
    rw [hasDoubleSpace_iff]
    exact h.single_spaced
  head := by simp [h.line_eq, httpMark]
  last := hlast

/-- So has each of its sections, and they can be joined in another order. -/
theorem tight_sections (h : Grammar line d m u parts) (hlast : line.getLast? ≠ some ' ') :
    ∀ t ∈ (sections m u parts).all, Tight t := by
  apply tight_of_tight_join
  rw [← h.eq_join]
  exact h.tight hlast

/-- Keyword sections can change places, and defaults can be written out among them. -/
theorem rearranged (h : Grammar line d m u parts) (hlast : line.getLast? ≠ some ' ')
    {added : List Keyword} (hadded : added.Nodup) (hlacks : ∀ k ∈ added, k ∉ parts.map Prod.fst)
    {parts' : List (Keyword × List Char)}
    (hperm : parts'.Perm (parts ++ added.map emptyPart)) :
    Grammar (join (sections m u parts').all) d m u parts' := by
  have hmem : ∀ part ∈ parts', part ∈ parts ∨
      part.1 ∉ parts.map Prod.fst ∧ part.2 = ['\x7b', '\x7d'] := by
    intro part hpart
    rcases List.mem_append.1 (hperm.subset hpart) with hpart | hpart
    · exact .inl hpart
    · obtain ⟨k, hk, rfl⟩ := List.mem_map.1 hpart
      exact .inr ⟨hlacks k hk, rfl⟩
  have htight := h.tight_sections hlast
  simp only [Sections.all, sections, List.forall_mem_cons, List.forall_mem_map] at htight
  obtain ⟨hmethod, hurl, hparts⟩ := htight
  refine ⟨join_sections m u parts', h.method_pipeless, h.url_pipeless, ?_, ?_, h.method_eq,
    h.url_eq, ?_, ?_, ?_⟩
  · intro part hpart
    rcases hmem part hpart with hpart | ⟨-, htext⟩
    · exact h.parts_pipeless part hpart
    · rw [htext]
      decide
  · rw [← hasDoubleSpace_iff]
    refine (tight_join (by simp [Sections.all]) ?_).single
    simp only [Sections.all, sections, List.forall_mem_cons, List.forall_mem_map]
    refine ⟨hmethod, hurl, ?_⟩
    intro part hpart
    rcases hmem part hpart with hpart | ⟨-, htext⟩
    · exact hparts part hpart
    · obtain ⟨k, v⟩ := part
      obtain rfl : v = ['\x7b', '\x7d'] := htext
      cases k <;> constructor <;> decide
  · rw [(hperm.map Prod.fst).nodup_iff, List.map_append, map_fst_emptyPart, List.nodup_append]
    refine ⟨h.keywords_distinct, hadded, ?_⟩
    intro k hk l hl hkl
    subst hkl
    exact hlacks k hl hk
  · intro part hpart
    rcases hmem part hpart with hpart | ⟨hk, htext⟩
    · exact h.values part hpart
    · rw [htext, h.defaults part.1 hk]
      rfl
  · intro k hk
    apply h.defaults k
    intro hmem
    exact hk ((hperm.map Prod.fst).mem_iff.2 (by simp [hmem]))

end Grammar

/-- The keyword sections of an accepted line may be put in any order, with sections among them that
write out the defaults of keywords which the line lacks. -/
theorem parse_join_of_perm (line : String) (d : Descriptor) (h : parse line = .ok d)
    (hlast : line.toList.getLast? ≠ some ' ') :
    ∃ method url others, split line.toList = method :: url :: others ∧
      ∀ added : List Keyword, added.Nodup → (∀ k ∈ added, k ∉ keywordsOf line.toList) →
        ∀ sections, sections.Perm (others ++ added.map emptySection) →
          parse (String.ofList (join (method :: url :: sections))) = .ok d := by
  obtain ⟨m, u, parts, hgrammar⟩ := Grammar.of_parse h
  have hsplit : split line.toList = (Grammar.sections m u parts).all := by
    have hpipes := Grammar.pipeless_sections.2
      ⟨hgrammar.method_pipeless, hgrammar.url_pipeless, hgrammar.parts_pipeless⟩
    rw [hgrammar.eq_join, split_join (by simp [Sections.all]) hpipes]
  refine ⟨_, _, _, hsplit, ?_⟩
  intro added hadded hlacks sections hperm
  have hothers : (split line.toList).drop 2 = parts.map partText := by
    rw [hsplit]
    rfl
  have hkeywords := mem_keywordsOf_iff_of_parts hothers
  obtain ⟨parts', rfl, hparts'⟩ : Relation.Comp (· = List.map partText ·) List.Perm sections
      (parts ++ added.map emptyPart) := by
    rw [List.eq_map_comp_perm]
    change sections.Perm ((parts ++ added.map emptyPart).map partText)
    rw [List.map_append, map_partText_emptyPart]
    exact hperm
  have hnew := hgrammar.rearranged hlast hadded
    (fun k hk => mt (hkeywords k).2 (hlacks k hk)) hparts'
  rw [← String.toList_ofList (l := join _)] at hnew
  exact hnew.parse_eq

/-- Two sections change places around a written default. -/
theorem parse_join_swapped_with_default :
    parse "HTTP GET | URL x | QUERY 1 | BODY 2" =
      parse "HTTP GET | URL x | BODY 2 | HEADERS \x7b\x7d | QUERY 1" := by
  have hline : parse "HTTP GET | URL x | QUERY 1 | BODY 2" =
      .ok ⟨.get, "x", .empty, .number (.integer 1 (by decide)),
        .number (.integer 2 (by decide))⟩ := rfl
  obtain ⟨method, url, others, hsplit, hjoin⟩ := parse_join_of_perm _ _ hline (by decide)
  obtain ⟨rfl, rfl, rfl⟩ : method = "HTTP GET".toList ∧ url = "URL x".toList ∧
      others = ["QUERY 1".toList, "BODY 2".toList] := by
    have hcut : split "HTTP GET | URL x | QUERY 1 | BODY 2".toList =
        ["HTTP GET".toList, "URL x".toList, "QUERY 1".toList, "BODY 2".toList] := rfl
    rw [hcut] at hsplit
    simpa [eq_comm] using hsplit
  rw [hline]
  exact (hjoin [.headers] (by decide) (by decide)
    ["BODY 2".toList, emptySection .headers, "QUERY 1".toList] (by decide)).symm

end RequestLine.Line
