import RequestLine.Envelope
import RequestLine.Proofs.Grammar
import RequestLine.Proofs.Json.Characters
import RequestLine.Proofs.Messages
import RequestLine.Proofs.Trimming
import RequestLine.Proofs.Utf8

/-!
# Envelopes of lines without zero characters

An envelope drops the zero characters from its texts. A line without any has none in the text of its
fault, in its address or in the texts of its sections, so nothing is dropped from what reading it
gives (`parse_argument`). What is built from it may still hold some, because JSON can write them
with escapes.
-/

namespace RequestLine.Envelope

/-! ## Zero characters -/

theorem toList_withoutZeros (text : String) :
    (withoutZeros text).toList = text.toList.filter (· != '\x00') := by
  rw [withoutZeros, String.toList_ofList]

theorem withoutZeros_eq_self {text : String} (h : '\x00' ∉ text.toList) :
    withoutZeros text = text := by
  rw [← String.toList_inj, toList_withoutZeros, List.filter_eq_self]
  intro c hc
  rw [bne_iff_ne]
  exact fun heq => h (heq ▸ hc)

/-- A text keeps its first character, unless that is a zero. -/
theorem head?_withoutZeros {text : String} {c : Char} (hc : c ≠ '\x00')
    (h : text.toList.head? = some c) : (withoutZeros text).toList.head? = some c := by
  obtain ⟨rest, hrest⟩ := List.head?_eq_some_iff.1 h
  rw [toList_withoutZeros, hrest, List.filter_cons_of_pos (by simpa using hc)]
  rfl

/-- The text of a value holds no zero, since control characters are escaped. -/
theorem withoutZeros_render (v : Json) : withoutZeros v.render = v.render := by
  apply withoutZeros_eq_self
  rw [Json.render, String.toList_ofList]
  intro h
  have hcontrol := Json.le_toNat_of_mem_chars h
  revert hcontrol
  decide

theorem withoutZeros_code (f : Line.Fault) : withoutZeros f.code = f.code := by
  apply withoutZeros_eq_self
  cases f <;> simp [Line.Fault.code]

/-- A fault quotes only what stands in the line, so it holds no zero that the line does not hold. -/
theorem withoutZeros_message {line : String} (hline : '\x00' ∉ line.toList) {f : Line.Fault}
    (h : Line.parse line = .error f) : withoutZeros f.message = f.message := by
  apply withoutZeros_eq_self
  intro hmem
  rcases Line.mem_message_of_parse h hmem with hmem | hcontrol
  · exact hline hmem
  · revert hcontrol
    decide

/-- The address stands in the line as it is. -/
theorem withoutZeros_url {line : String} (hline : '\x00' ∉ line.toList) {d : Descriptor}
    (h : Line.parse line = .ok d) : withoutZeros d.url = d.url := by
  apply withoutZeros_eq_self
  obtain ⟨m, u, parts, hgrammar⟩ := Line.Grammar.of_parse h
  have hrun : d.url.toList <:+: u := hgrammar.url_eq ▸ Text.trim_isInfix u
  exact fun hmem => hline ((hrun.trans hgrammar.url_isInfix).subset hmem)

/-! ## Arguments -/

/-- The bytes before the first zero of an argument write a line. -/
def Holds (argument : Option (List UInt8)) (line : String) : Prop :=
  ∃ bytes, argument = some bytes ∧ bytes.takeWhile (· != 0) = Text.utf8 line.toList

namespace Holds

variable {argument : Option (List UInt8)} {line : String} (hline : Holds argument line)

include hline

theorem line?_eq : line? argument = .ok line := by
  obtain ⟨bytes, rfl, hbytes⟩ := hline
  simp only [line?, Text.ofUtf8?_eq_some_iff.2 hbytes]

theorem parse_of_fault {f : Line.Fault} (h : Line.parse line = .error f) :
    parse argument = ofFault f := by
  simp only [parse, hline.line?_eq, h]

theorem parse_of_descriptor {d : Descriptor} (h : Line.parse line = .ok d) :
    parse argument = ofDescriptor d := by
  simp only [parse, hline.line?_eq, h]

theorem build_of_fault {f : Line.Fault} (h : Line.parse line = .error f) :
    build argument = ofFault f := by
  simp only [build, hline.line?_eq, h]

theorem build_of_failure {d : Descriptor} {failure : Failure} (h : Line.parse line = .ok d)
    (hprepare : d.prepare = .error failure) : build argument = ofFailure failure := by
  simp only [build, hline.line?_eq, h, hprepare]

theorem build_of_prepared {d : Descriptor} {p : Prepared} (h : Line.parse line = .ok d)
    (hprepare : d.prepare = .ok p) : build argument = ofRequest p.wire := by
  simp only [build, hline.line?_eq, h, hprepare]

end Holds

/-- The argument that hands in a line. -/
def argument (line : String) : Option (List UInt8) := some (Text.utf8 line.toList ++ [0])

/-- The envelope of a reading, with all texts as they are. -/
def verbatim : Except Line.Fault Descriptor → Envelope
  | .error f => { status := .faulty, faultCode? := some f.code, message? := some f.message }
  | .ok d => {
    status := .ok
    payload := .descriptor ⟨d.method, d.url, d.headers.render, d.query.render, d.body.render⟩ }

section

variable {line : String} (hline : '\x00' ∉ line.toList)

include hline

theorem holds_argument : Holds (argument line) line :=
  ⟨_, rfl, Text.takeWhile_utf8 hline⟩

theorem ofFault_eq {f : Line.Fault} (h : Line.parse line = .error f) :
    ofFault f = verbatim (.error f) := by
  rw [ofFault, withoutZeros_code, withoutZeros_message hline h]
  rfl

/-- Nothing is lost of a line that is handed in as a text without zeros. -/
theorem parse_argument : parse (argument line) = verbatim (Line.parse line) := by
  have hholds := holds_argument hline
  cases h : Line.parse line with
  | error f => rw [hholds.parse_of_fault h, ofFault_eq hline h]
  | ok d =>
    rw [hholds.parse_of_descriptor h, ofDescriptor, withoutZeros_url hline h, withoutZeros_render,
      withoutZeros_render, withoutZeros_render]
    rfl

end

end RequestLine.Envelope
