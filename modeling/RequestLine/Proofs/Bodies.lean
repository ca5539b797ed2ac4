import RequestLine.Proofs.Building
import RequestLine.Proofs.Json.Characters

/-!
# The content of a `POST`

What a `POST` carries is the compact text of its body section. Reading that text gives the section
back (`content_of_line`) as long as the section nests no deeper than the reader allows. A section
does so unless texts are embedded in it: the levels of an embedded text are counted from its own
start, so a section with such a text can be accepted and still be too deep to be read again
(`content_of_deep_embedding`).
-/

namespace RequestLine

open Json

namespace Descriptor

/-- What the content of a request has to do with the body section of its descriptor. -/
structure Carries (d : Descriptor) (content : String) : Prop where
  read_back : d.body.depth ≤ 127 → Json.parse? content.toList = some d.body
  too_deep : 127 < d.body.depth → Json.parse? content.toList = none
  no_controls : ∀ c ∈ content.toList, 0x20 ≤ c.toNat

/-- A body of plain values is carried by its own text. -/
theorem carries_render {d : Descriptor} (hplain : Everywhere Plain d.body) :
    d.Carries d.body.render where
  read_back hdepth := by
    rw [Json.render, String.toList_ofList]
    exact Json.parse?_chars hplain hdepth
  too_deep hdepth := by
    rw [Json.render, String.toList_ofList]
    exact Json.parse?_chars_eq_none hplain hdepth
  no_controls c hc := by
    rw [Json.render, String.toList_ofList] at hc
    exact le_toNat_of_mem_chars hc

end Descriptor

namespace Line

/-- Where the body section of a line comes from: the line leaves it out, or writes it as a text,
which makes it no deeper than the reader allows if no other text is embedded there. -/
def WritesBody (d : Descriptor) (parts : List (Keyword × List Char)) : Prop :=
  (.body ∉ parts.map Prod.fst ∧ d.body = .empty ∧ d.body.depth ≤ 127) ∨
    ∃ text, (.body, text) ∈ parts ∧ Json.parse? (Text.trim text) = some d.body ∧
      (Json.parseWithin 1 (Text.trim text) = some d.body → d.body.depth ≤ 127)

/-- The body section of a line, if there is one, writes the body. -/
theorem Grammar.writesBody {line : List Char} {d : Descriptor} {m u : List Char}
    {parts : List (Keyword × List Char)} (h : Grammar line d m u parts) : WritesBody d parts := by
  rcases h.section_cases .body with ⟨text, hpart, hvalue⟩ | ⟨hbody, hempty⟩
  · simp only [Descriptor.get] at hvalue
    exact .inr ⟨text, hpart, hvalue, depth_le_of_parseWithin_one⟩
  · simp only [Descriptor.get] at hempty
    refine .inl ⟨hbody, hempty, ?_⟩
    simp [hempty, Json.empty, Json.depth]

end Line

/-- The content of a `POST` that a line with integers in its body describes. -/
theorem content_of_line {line : String} {d : Descriptor} {p : Prepared}
    (hparse : Line.parse line = .ok d) (hpost : d.method = .post) (hprepare : d.prepare = .ok p)
    (hintegral : Everywhere Integral d.body) :
    ∃ content, p.wire.body? = some content ∧ d.Carries content ∧
      ∃ m u parts, Line.Grammar line.toList d m u parts ∧ Line.WritesBody d parts := by
  have hread : d.IsRead := .inl ⟨line, hparse⟩
  have hplain : Everywhere Plain d.body := fun w hw =>
    ⟨hintegral w hw, hread.everywhere_distinct .body w hw, hread.everywhere_unmarked .body w hw⟩
  obtain ⟨members, -, hbuilt⟩ := Descriptor.built_of_prepare hread hprepare
  obtain ⟨m, u, parts, hgrammar⟩ := Line.Grammar.of_parse hparse
  exact ⟨_, hbuilt.body_of_post hpost, Descriptor.carries_render hplain, m, u, parts, hgrammar,
    hgrammar.writesBody⟩

/-- A body with a control character, which is written as an escape. -/
theorem content_of_line_with_escape :
    ∃ d p, Line.parse "HTTP POST | URL http://[::1]/ | BODY [[7],\"\\n\"]" = .ok d ∧
      d.method = .post ∧ d.prepare = .ok p ∧ Everywhere Integral d.body ∧
      p.wire.body? = some "[[7],\"\\n\"]" ∧
      Json.parse? "[[7],\"\\n\"]".toList = some d.body := by
  let body : Json := .array [.array [.ofUInt64 7], .string "\n"]
  let d : Descriptor := ⟨.post, "http://[::1]/", .empty, .empty, body⟩
  have hparse : Line.parse "HTTP POST | URL http://[::1]/ | BODY [[7],\"\\n\"]" = .ok d := rfl
  have hprepare := (Descriptor.prepare_eq_ok_iff (d := d)).2
    ⟨_, [], [], Url.parse_loopback, rfl, rfl, rfl⟩
  have hintegral : Everywhere Integral d.body := by
    simp [d, body, Json.ofUInt64, Integral, Number.ofUInt64]
  obtain ⟨content, hcontent, hcarries, -⟩ := content_of_line hparse rfl hprepare hintegral
  obtain rfl : "[[7],\"\\n\"]" = content := Option.some.inj hcontent
  refine ⟨d, _, hparse, rfl, hprepare, hintegral, rfl, hcarries.read_back ?_⟩
  simp [d, body, Json.ofUInt64, Json.depth]

/-! ## Embedded texts -/

/-- The text of an array with an embedded text as its only item, in which arrays nest as deep as
they may. -/
def deepText : List Char :=
  "[\x7b\"$serde_json::private::RawValue\":\"".toList ++ List.replicate 127 '[' ++ "null".toList ++
    List.replicate 127 ']' ++ "\"\x7d]".toList

/-- The embedded text is read on its own, so the whole value nests one level deeper than it may. -/
theorem parse?_deepText : Json.parse? deepText = some (Line.nested 128) := by
  have htext : deepText =
      (Json.array [.object [(Reader.embeddingName, .string (Line.nested 127).render)]]).chars := by
    simp only [chars, itemChars, memberChars, quote, render, String.toList_ofList]
    decide +kernel
  rw [htext, chars_eq_textWith]
  exact parse?_array_embedding Reader.escaping_escape (Line.everywhere_plain_nested 127)
    (Line.depth_nested 127).le

theorem trim_deepText : Text.trim deepText = deepText := by
  decide +kernel

/-- A line with this text as its body. -/
def deepLine : List Char :=
  "HTTP POST | URL http://[::1]/ | BODY ".toList ++ deepText

theorem grammar_deepLine :
    Line.Grammar deepLine ⟨.post, "http://[::1]/", .empty, .empty, Line.nested 128⟩
      "POST".toList "http://[::1]/".toList [(.body, deepText)] where
  line_eq := by decide +kernel
  method_pipeless := by decide
  url_pipeless := by decide
  parts_pipeless := by decide +kernel
  single_spaced := by
    rw [← Line.hasDoubleSpace_iff]
    decide +kernel
  method_eq := by decide +kernel
  url_eq := by decide +kernel
  keywords_distinct := List.nodup_singleton _
  values := by
    intro part hpart
    obtain rfl := List.mem_singleton.1 hpart
    rw [trim_deepText, parse?_deepText]
    rfl
  defaults := by
    intro k hk
    cases k with
    | headers => rfl
    | query => rfl
    | body => simp at hk

/-- A body with an embedded text that is accepted, but whose own text nests too deep to be read. -/
theorem content_of_deep_embedding :
    ∃ d p content, Line.parse (String.ofList deepLine) = .ok d ∧ d.method = .post ∧
      d.prepare = .ok p ∧ Everywhere Integral d.body ∧ p.wire.body? = some content ∧
      Json.parse? content.toList = none := by
  let d : Descriptor := ⟨.post, "http://[::1]/", .empty, .empty, Line.nested 128⟩
  have hparse : Line.parse (String.ofList deepLine) = .ok d := by
    apply Line.Grammar.parse_eq
    rw [String.toList_ofList]
    exact grammar_deepLine
  have hprepare := (Descriptor.prepare_eq_ok_iff (d := d)).2
    ⟨_, [], [], Url.parse_loopback, rfl, rfl, rfl⟩
  have hplain := Line.everywhere_plain_nested 128
  have hcarries : d.Carries d.body.render := Descriptor.carries_render hplain
  refine ⟨d, _, _, hparse, rfl, hprepare, fun w hw => (hplain w hw).integral, rfl,
    hcarries.too_deep ?_⟩
  rw [Line.depth_nested]
  omega

end RequestLine
