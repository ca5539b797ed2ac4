import RequestLine.Text.Utf8
import Mathlib.Data.List.TakeWhile

/-!
# Texts as bytes

The bytes of a text give the text back (`ofUtf8?_utf8`), and no other bytes do
(`ofUtf8?_eq_some_iff`). There are at least as many of them as characters, and a zero byte stands
for a zero character only (`zero_not_mem_utf8`), so a text without zero characters can be ended by a
zero byte (`takeWhile_utf8`).
-/

namespace RequestLine.Text

theorem toByteArray_utf8 (text : List Char) :
    (⟨(utf8 text).toArray⟩ : ByteArray) = (String.ofList text).toByteArray := by
  rw [String.toByteArray_ofList, List.utf8Encode, utf8]
  apply ByteArray.ext
  simp

/-- Every text is read back from its bytes. -/
theorem ofUtf8?_utf8 (text : List Char) : ofUtf8? (utf8 text) = some (String.ofList text) := by
  have hvalid := (String.ofList text).isValidUTF8
  rw [ofUtf8?, toByteArray_utf8, String.fromUTF8?, dif_pos hvalid]
  rfl

/-- Bytes that can be read as a text are the bytes of that text. -/
theorem ofUtf8?_eq_some_iff {bytes : List UInt8} {text : String} :
    ofUtf8? bytes = some text ↔ bytes = utf8 text.toList := by
  constructor
  · intro h
    unfold ofUtf8? String.fromUTF8? at h
    split at h
    · next hvalid =>
      have hbytes : (⟨bytes.toArray⟩ : ByteArray) = text.toByteArray := by
        rw [← Option.some.inj h]
        rfl
      rw [← String.ofList_toList (s := text), ← toByteArray_utf8] at hbytes
      simpa using hbytes
    · cases h
  · rintro rfl
    rw [ofUtf8?_utf8, String.ofList_toList]

theorem length_le_length_utf8 (text : List Char) : text.length ≤ (utf8 text).length := by
  induction text with
  | nil => exact Nat.le_refl _
  | cons c text ih =>
    have hpos := List.length_pos_iff.2 (String.utf8EncodeChar_ne_nil (c := c))
    simp only [utf8, List.flatMap_cons, List.length_append, List.length_cons] at ih ⊢
    omega

/-- Only the zero character is written with a zero byte. -/
theorem zero_not_mem_utf8EncodeChar {c : Char} (h : c ≠ '\x00') :
    (0 : UInt8) ∉ String.utf8EncodeChar c := by
  -- in a form of several bytes each of them has its highest bit set
  have hhigh : ∀ a b : UInt8, b ≠ 0 → 0 ≠ a ||| b := by
    intro a b hb hzero
    exact hb (UInt8.or_eq_zero_iff.1 hzero.symm).2
  match hsize : c.utf8Size, c.utf8Size_pos, c.utf8Size_le_four with
  | 1, _, _ =>
    have hsmall : c.toNat ≤ 127 := by
      simpa [Char.utf8Size_eq_one_iff, UInt32.le_iff_toNat_le] using hsize
    have hne : c.toNat ≠ 0 := fun hzero => h (Char.toNat_inj.1 hzero)
    rw [String.utf8EncodeChar_eq_singleton hsize, List.mem_singleton]
    intro hzero
    have hmod : c.toNat % 256 = 0 := (congrArg UInt8.toNat hzero).symm
    omega
  | 2, _, _ =>
    rw [String.utf8EncodeChar_eq_cons_cons hsize]
    simp [hhigh]
  | 3, _, _ =>
    rw [String.utf8EncodeChar_eq_cons_cons_cons hsize]
    simp [hhigh]
  | 4, _, _ =>
    rw [String.utf8EncodeChar_eq_cons_cons_cons_cons hsize]
    simp [hhigh]

theorem zero_not_mem_utf8 {text : List Char} (h : '\x00' ∉ text) : (0 : UInt8) ∉ utf8 text := by
  rw [utf8, List.mem_flatMap]
  rintro ⟨c, hc, hzero⟩
  exact zero_not_mem_utf8EncodeChar (fun heq => h (heq ▸ hc)) hzero

theorem takeWhile_utf8 {text : List Char} (h : '\x00' ∉ text) :
    (utf8 text ++ [0]).takeWhile (· != 0) = utf8 text := by
  have hbytes : ∀ b ∈ utf8 text, (b != 0) = true := by
    intro b hb
    rw [bne_iff_ne]
    rintro rfl
    exact zero_not_mem_utf8 h hb
  rw [List.takeWhile_append_of_pos hbytes]
  simp

end RequestLine.Text
