import RequestLine.Json.Printer
import RequestLine.Proofs.Json.Values
import RequestLine.Text.Blank
import Mathlib.Data.List.Nodup
import Mathlib.Data.List.TakeWhile
import Mathlib.Tactic.IntervalCases

/-!
# Reading back what is written

A value is written with some way to write the characters of its strings (`textWith`); the compact
text is one case of it (`chars_eq_textWith`), and other ways escape more than they must. Reading
such a text gives the value back and leaves what follows (`value_textWith`), provided that

* each character is written in a way that reads back (`Escaping`);
* all numbers are integers, the names of each object are distinct, and no object begins with the
  name that marks an embedded text (`Plain`);
* the value nests no deeper than the reader allows, and the reader has a step for each character;
* what follows does not go on with a number (`Closed`).

An object in which a name is written more than once is read with the last value
(`value_object_textWith`).

Arrays and objects are read by loops over their parts. What the loops need of a part is only that
its own text reads back, so they are treated for any kind of part (`items_intercalate`,
`members_intercalate`).
-/

namespace RequestLine.Json

/-! ## Written values -/

/-- A string in quotes, given how each character is written. -/
def quoteWith (esc : Char → List Char) (text : String) : List Char :=
  '"' :: (text.toList.flatMap esc ++ ['"'])

/-- The text of a value, given how the characters of strings are written. -/
def textWith (esc : Char → List Char) : Json → List Char
  | .null => ['n', 'u', 'l', 'l']
  | .bool true => ['t', 'r', 'u', 'e']
  | .bool false => ['f', 'a', 'l', 's', 'e']
  | .number value => value.text
  | .string text => quoteWith esc text
  | .array items => '[' :: (List.intercalate [','] (items.map (textWith esc)) ++ [']'])
  | .object members =>
    '\x7b' :: (List.intercalate [','] (members.map fun m =>
      quoteWith esc m.1 ++ ':' :: textWith esc m.2) ++ ['\x7d'])
termination_by v => sizeOf v
decreasing_by
  · exact sizeOf_item_lt ‹_›
  · exact sizeOf_member_lt ‹_›

/-- The text of a member of an object. -/
def memberWith (esc : Char → List Char) (m : String × Json) : List Char :=
  quoteWith esc m.1 ++ ':' :: textWith esc m.2

theorem textWith_object (esc : Char → List Char) (members : List (String × Json)) :
    textWith esc (.object members) =
      '\x7b' :: (List.intercalate [','] (members.map (memberWith esc)) ++ ['\x7d']) := by
  rw [textWith]
  rfl

theorem itemChars_eq_intercalate (items : List Json) :
    itemChars items = List.intercalate [','] (items.map chars) := by
  induction items with
  | nil => simp [itemChars]
  | cons v rest ih =>
    cases rest with
    | nil => simp [itemChars]
    | cons w rest => simp [itemChars, ih, List.intercalate_cons_cons]

theorem memberChars_eq_intercalate (members : List (String × Json)) :
    memberChars members =
      List.intercalate [','] (members.map fun m => quote m.1 ++ ':' :: m.2.chars) := by
  induction members with
  | nil => simp [memberChars]
  | cons m rest ih =>
    cases rest with
    | nil => simp [memberChars]
    | cons n rest => simp [memberChars, ih, List.intercalate_cons_cons]

/-- The compact text escapes as little as it can. -/
theorem chars_eq_textWith (v : Json) : v.chars = textWith escape v := by
  induction v using Json.induction with
  | null => simp [chars, textWith]
  | bool b => cases b <;> simp [chars, textWith]
  | number n => simp [chars, textWith]
  | string text => simp [chars, textWith, quote, quoteWith]
  | array items ih =>
    rw [chars, textWith, itemChars_eq_intercalate, List.map_congr_left ih]
    simp
  | object members ih =>
    have hmap : (members.map fun m => quote m.1 ++ ':' :: m.2.chars) =
        members.map (memberWith escape) := by
      apply List.map_congr_left
      intro m hm
      rw [ih m hm]
      simp [memberWith, quote, quoteWith]
    rw [chars, textWith_object, memberChars_eq_intercalate, hmap]
    simp

/-- What a value needs to be read back as it is. -/
structure Plain (v : Json) : Prop where
  integral : Integral v
  distinct : Distinct v
  unmarked : Unmarked v

@[simp] theorem plain_bool (b : Bool) : Plain (.bool b) := ⟨trivial, trivial, trivial⟩

@[simp] theorem plain_string (text : String) : Plain (.string text) := ⟨trivial, trivial, trivial⟩

theorem plain_object_iff {members : List (String × Json)} :
    Plain (.object members) ↔ (members.map Prod.fst).Nodup ∧
      ∀ m ∈ members.head?, m.1 ≠ Reader.embeddingName :=
  ⟨fun h => ⟨h.distinct, h.unmarked⟩, fun h => ⟨trivial, h.1, h.2⟩⟩

namespace Reader

/-! ## Spaces -/

theorem skipSpaces_cons {c : Char} (h : isSpace c = false) (text : List Char) :
    skipSpaces (c :: text) = c :: text := by
  rw [skipSpaces, List.dropWhile_cons_of_neg (by simp [h])]

/-! ## Strings -/

/-- A way to write characters that reads back: each takes one step and is followed by what is left
to read. -/
structure Escaping (esc : Char → List Char) : Prop where
  ne_nil : ∀ c, esc c ≠ []
  read : ∀ c steps rest, stringWith escaped (steps + 1) (esc c ++ rest) =
    (stringWith escaped steps rest).map fun found => (c :: found.1, found.2)

theorem length_le_length_flatMap {α β : Type} {f : α → List β} (hf : ∀ a, f a ≠ [])
    (l : List α) : l.length ≤ (l.flatMap f).length := by
  induction l with
  | nil => simp
  | cons a l ih =>
    have := List.length_pos_iff.2 (hf a)
    simp only [List.flatMap_cons, List.length_append, List.length_cons]
    omega

section Strings

variable {esc : Char → List Char} (hesc : Escaping esc)

include hesc

/-- A text whose characters are escaped is read back up to the closing quote. -/
theorem stringWith_flatMap (cs rest : List Char) {steps : Nat} (hsteps : cs.length < steps) :
    stringWith escaped steps (cs.flatMap esc ++ '"' :: rest) = some (cs, rest) := by
  induction cs generalizing steps with
  | nil =>
    obtain ⟨steps, rfl⟩ := Nat.exists_eq_succ_of_ne_zero (Nat.ne_zero_of_lt hsteps)
    rfl
  | cons c cs ih =>
    obtain ⟨steps, rfl⟩ := Nat.exists_eq_succ_of_ne_zero (Nat.ne_zero_of_lt hsteps)
    have hsteps' : cs.length < steps := by simpa using hsteps
    rw [List.flatMap_cons, List.append_assoc, Nat.succ_eq_add_one, hesc.read, ih hsteps']
    rfl

theorem stringRest_flatMap (text : String) (rest : List Char) {steps : Nat}
    (hsteps : (quoteWith esc text).length ≤ steps) :
    stringRest steps (text.toList.flatMap esc ++ '"' :: rest) = some (text, rest) := by
  have hlength := length_le_length_flatMap hesc.ne_nil text.toList
  have hsteps' : text.toList.length < steps := by
    simp only [quoteWith, List.length_cons, List.length_append] at hsteps
    omega
  rw [stringRest, stringWith_flatMap hesc _ _ hsteps']
  simp

theorem string_quoteWith (text : String) (rest : List Char) {steps : Nat}
    (hsteps : (quoteWith esc text).length ≤ steps) :
    string steps (quoteWith esc text ++ rest) = some (text, rest) := by
  have htext : quoteWith esc text ++ rest = '"' :: (text.toList.flatMap esc ++ '"' :: rest) := by
    simp [quoteWith]
  rw [htext, string, skipSpaces_cons (by decide)]
  exact stringRest_flatMap hesc text rest hsteps

end Strings

/-! ## Integers -/

/-- What follows a number and does not go on with it. -/
def Closed (rest : List Char) : Prop :=
  ∀ c ∈ rest.head?, c.isDigit = false ∧ c ≠ '.' ∧ c ≠ 'e' ∧ c ≠ 'E'

theorem closed_nil : Closed [] := by simp [Closed]

theorem closed_cons {c : Char} (h : c.isDigit = false ∧ c ≠ '.' ∧ c ≠ 'e' ∧ c ≠ 'E')
    (rest : List Char) : Closed (c :: rest) := by
  simpa [Closed] using h

/-- Only zero is written with a zero in front. -/
theorem eq_zero_of_head?_toDigits {n : Nat} (h : (Nat.toDigits 10 n).head? = some '0') :
    n = 0 := by
  induction n using Nat.strongRecOn with
  | _ n ih =>
    by_cases hn : n < 10
    · rw [Nat.toDigits_of_lt_base hn] at h
      interval_cases n <;> simp_all [Nat.digitChar]
    · have hlt : n / 10 < n := by omega
      have hhead : (Nat.toDigits 10 (n / 10)).head? = some '0' := by
        rw [Nat.toDigits_of_base_le (by omega) (by omega)] at h
        rwa [List.head?_append_of_ne_nil _ Nat.toDigits_ne_nil] at h
      have := ih (n / 10) hlt hhead
      omega

theorem exists_toDigits_eq_cons (n : Nat) :
    ∃ c ds, Nat.toDigits 10 n = c :: ds ∧ c.isDigit = true := by
  obtain ⟨c, ds, h⟩ := List.exists_cons_of_ne_nil (Nat.toDigits_ne_nil : Nat.toDigits 10 n ≠ [])
  exact ⟨c, ds, h, Nat.isDigit_of_mem_toDigits (by omega) (by omega) (h ▸ List.mem_cons_self)⟩

/-- A closed rest is not taken for more digits. -/
theorem digits_append {ds rest : List Char} (hds : ∀ c ∈ ds, c.isDigit = true)
    (hrest : Closed rest) : digits (ds ++ rest) = (ds, rest) := by
  have htake : rest.takeWhile Char.isDigit = [] := by
    cases rest with
    | nil => rfl
    | cons c rest => exact List.takeWhile_cons_of_neg (by simp [(hrest c rfl).1])
  have hdrop : rest.dropWhile Char.isDigit = rest := by
    cases rest with
    | nil => rfl
    | cons c rest => exact List.dropWhile_cons_of_neg (by simp [(hrest c rfl).1])
  simp [digits, List.takeWhile_append_of_pos hds, List.dropWhile_append_of_pos hds, htake, hdrop]

theorem wholePart_toDigits (n : Nat) {rest : List Char} (hrest : Closed rest) :
    wholePart (Nat.toDigits 10 n ++ rest) = some (Nat.toDigits 10 n, rest) := by
  have hdigits : ∀ c ∈ Nat.toDigits 10 n, c.isDigit = true :=
    fun c hc => Nat.isDigit_of_mem_toDigits (by omega) (by omega) hc
  have hsome : someDigits (Nat.toDigits 10 n ++ rest) = some (Nat.toDigits 10 n, rest) := by
    rw [someDigits, digits_append hdigits hrest]
    split
    · next hnil => simp [Nat.toDigits_ne_nil] at hnil
    · rfl
  rw [wholePart, hsome]
  simp only [Option.bind_eq_bind, Option.bind_some]
  split
  · next hzero =>
    -- a zero in front of other digits
    have hn : n = 0 := eq_zero_of_head?_toDigits (by rw [hzero]; rfl)
    rw [hn, Nat.toDigits_zero] at hzero
    cases hzero
  · rfl

/-- An integer starts with its sign or a digit. -/
theorem exists_integerText_eq_cons (i : Int) :
    ∃ c rest, Number.integerText i = c :: rest ∧ (c = '-' ∨ c.isDigit = true) := by
  unfold Number.integerText
  split
  · exact ⟨'-', _, rfl, .inl rfl⟩
  · obtain ⟨c, ds, hc, hdigit⟩ := exists_toDigits_eq_cons i.natAbs
    exact ⟨c, ds, hc, .inr hdigit⟩

/-- The text of an integer is read as a literal without fraction and exponent. -/
theorem literal_integerText (i : Int) {rest : List Char} (hrest : Closed rest) :
    literal (Number.integerText i ++ rest) =
      some (⟨i < 0, Nat.toDigits 10 i.natAbs, [], none⟩, rest) := by
  have hfraction : fractionPart rest = some ([], rest) := by
    unfold fractionPart
    split
    · next rest => exact absurd rfl (hrest '.' rfl).2.1
    · rfl
  have hexponent : exponentPart rest = some (none, rest) := by
    unfold exponentPart
    split
    · next rest => exact absurd rfl (hrest 'e' rfl).2.2.1
    · next rest => exact absurd rfl (hrest 'E' rfl).2.2.2
    · rfl
  unfold literal Number.integerText
  by_cases hi : i < 0
  · simp [hi, wholePart_toDigits _ hrest, hfraction, hexponent]
  · obtain ⟨c, ds, hc, hdigit⟩ := exists_toDigits_eq_cons i.natAbs
    have hsign : c ≠ '-' := by
      rintro rfl
      cases hdigit
    have hwhole := wholePart_toDigits i.natAbs hrest
    rw [hc, List.cons_append] at hwhole
    simp [hi, hc, hsign, hwhole, hfraction, hexponent]

/-- Such a literal is the integer that it was written from. -/
theorem number?_integer (i : Int)
    (range : -0x8000000000000000 ≤ i ∧ i < 0x10000000000000000) :
    (⟨i < 0, Nat.toDigits 10 i.natAbs, [], none⟩ : Literal).number? =
      some (.integer i range) := by
  have hvalue : (if (decide (i < 0)) = true then -(i.natAbs : Int) else (i.natAbs : Int)) = i := by
    by_cases hi : i < 0
    · simp only [hi, decide_true, if_true]
      omega
    · simp only [hi, decide_false, Bool.false_eq_true, if_false]
      omega
  unfold Literal.number?
  rw [if_pos (by simp)]
  simp only [Nat.ofDigitChars_ten_toDigits]
  have hsigned : ¬(decide (i < 0) = true ∧ i.natAbs = 0) := by
    rintro ⟨hneg, hzero⟩
    simp only [decide_eq_true_eq] at hneg
    omega
  rw [dif_pos (by rwa [hvalue]), if_neg hsigned]
  simp only [hvalue]

/-! ## The ends of a written value -/

theorem isBlank_of_isDigit {c : Char} (h : c.isDigit = true) : Text.isBlank c = false := by
  have hrange : 48 ≤ c.toNat ∧ c.toNat ≤ 57 := Char.isDigit_iff_toNat.1 h
  simp only [Text.isBlank, Bool.or_eq_false_iff, Bool.and_eq_false_iff, decide_eq_false_iff_not,
    beq_eq_false_iff_ne]
  omega

theorem isSpace_eq_false {c : Char} (h : Text.isBlank c = false) : isSpace c = false := by
  cases hc : isSpace c with
  | false => rfl
  | true =>
    simp only [isSpace, Bool.or_eq_true, beq_iff_eq] at hc
    rcases hc with ((rfl | rfl) | rfl) | rfl <;> cases h

/-- A written value starts neither with a blank nor with a closing bracket. -/
theorem exists_textWith_eq_cons (esc : Char → List Char) {v : Json} (hv : Integral v) :
    ∃ c rest, textWith esc v = c :: rest ∧ Text.isBlank c = false ∧ c ≠ ']' := by
  cases v with
  | null => exact ⟨'n', _, by rw [textWith], by decide, by decide⟩
  | bool b =>
    cases b with
    | false => exact ⟨'f', _, by rw [textWith], by decide, by decide⟩
    | true => exact ⟨'t', _, by rw [textWith], by decide, by decide⟩
  | number n =>
    cases n with
    | double value => exact hv.elim
    | integer i range =>
      obtain ⟨c, rest, hc, hstart⟩ := exists_integerText_eq_cons i
      rw [textWith, Number.text]
      refine ⟨c, rest, hc, ?_, ?_⟩
      · rcases hstart with rfl | hdigit
        · decide
        · exact isBlank_of_isDigit hdigit
      · rintro rfl
        rcases hstart with hsign | hdigit
        · cases hsign
        · cases hdigit
  | string text => exact ⟨'"', _, by rw [textWith, quoteWith], by decide, by decide⟩
  | array items => exact ⟨'[', _, by rw [textWith], by decide, by decide⟩
  | object members => exact ⟨'\x7b', _, by rw [textWith], by decide, by decide⟩

/-- A written value does not end with a blank. -/
theorem exists_textWith_eq_append (esc : Char → List Char) {v : Json} (hv : Integral v) :
    ∃ init c, textWith esc v = init ++ [c] ∧ Text.isBlank c = false := by
  cases v with
  | null => exact ⟨['n', 'u', 'l'], 'l', by rw [textWith]; rfl, by decide⟩
  | bool b =>
    cases b with
    | false => exact ⟨['f', 'a', 'l', 's'], 'e', by rw [textWith]; rfl, by decide⟩
    | true => exact ⟨['t', 'r', 'u'], 'e', by rw [textWith]; rfl, by decide⟩
  | number n =>
    cases n with
    | double value => exact hv.elim
    | integer i range =>
      have hne : Nat.toDigits 10 i.natAbs ≠ [] := Nat.toDigits_ne_nil
      have hlast : Nat.toDigits 10 i.natAbs = _ := (List.dropLast_append_getLast hne).symm
      have hdigit : ((Nat.toDigits 10 i.natAbs).getLast hne).isDigit = true :=
        Nat.isDigit_of_mem_toDigits (by omega) (by omega) (List.getLast_mem hne)
      rw [textWith, Number.text, Number.integerText]
      split
      · exact ⟨'-' :: _, _, congrArg _ hlast, isBlank_of_isDigit hdigit⟩
      · exact ⟨_, _, hlast, isBlank_of_isDigit hdigit⟩
  | string text => exact ⟨'"' :: _, '"', by rw [textWith, quoteWith]; rfl, by decide⟩
  | array items => exact ⟨'[' :: _, ']', by rw [textWith]; rfl, by decide⟩
  | object members => exact ⟨'\x7b' :: _, '\x7d', by rw [textWith]; rfl, by decide⟩

/-! ## Loops over parts -/

theorem isSpace_comma : isSpace ',' = false := by decide

theorem intercalate_comma {α : Type} (text : α → List Char) (x y : α) (xs : List α) :
    List.intercalate [','] ((x :: y :: xs).map text) =
      text x ++ ',' :: List.intercalate [','] ((y :: xs).map text) := by
  simp [List.intercalate_cons_cons]

/-- The items of an array are read if each of them is, before what can follow it. -/
theorem items_intercalate {α : Type} {item : Scan α} {text : α → List Char} {xs : List α}
    (hne : xs ≠ []) (hread : ∀ x ∈ xs, ∀ rest, Closed rest → item (text x ++ rest) = some (x, rest))
    {steps : Nat} (hsteps : xs.length ≤ steps) (rest : List Char) :
    items item steps (List.intercalate [','] (xs.map text) ++ ']' :: rest) = some (xs, rest) := by
  induction xs generalizing steps with
  | nil => exact absurd rfl hne
  | cons x xs ih =>
    obtain ⟨steps, rfl⟩ := Nat.exists_eq_succ_of_ne_zero (Nat.ne_zero_of_lt hsteps)
    have hx := hread x List.mem_cons_self
    cases xs with
    | nil =>
      have hclosed : Closed (']' :: rest) := closed_cons (by decide) rest
      simp [items, hx _ hclosed, skipSpaces_cons (show isSpace ']' = false by decide)]
    | cons y xs =>
      have hrest := ih (by simp) (fun z hz => hread z (List.mem_cons_of_mem _ hz))
        (Nat.le_of_succ_le_succ hsteps)
      have hclosed : ∀ t, Closed (',' :: t) := fun t => closed_cons (by decide) t
      rw [intercalate_comma, List.append_assoc, List.cons_append, items, hx _ (hclosed _)]
      simp only [Option.bind_eq_bind, Option.bind_some, skipSpaces_cons isSpace_comma, hrest]
      rfl

/-- The members of an object are read if the name and the value of each of them are. -/
theorem members_intercalate {ν α : Type} {name : Scan ν} {value : ν → Scan α}
    {nameText : ν → List Char} {valueText : ν × α → List Char} {pairs : List (ν × α)}
    (hne : pairs ≠ [])
    (hname : ∀ p ∈ pairs, ∀ rest, name (nameText p.1 ++ rest) = some (p.1, rest))
    (hvalue : ∀ p ∈ pairs, ∀ rest, Closed rest → value p.1 (valueText p ++ rest) = some (p.2, rest))
    {steps : Nat} (hsteps : pairs.length ≤ steps) (rest : List Char) :
    members name value steps
      (List.intercalate [','] (pairs.map fun p => nameText p.1 ++ ':' :: valueText p) ++
        '\x7d' :: rest) = some (pairs, rest) := by
  induction pairs generalizing steps with
  | nil => exact absurd rfl hne
  | cons p pairs ih =>
    obtain ⟨steps, rfl⟩ := Nat.exists_eq_succ_of_ne_zero (Nat.ne_zero_of_lt hsteps)
    have hn := hname p List.mem_cons_self
    have hv := hvalue p List.mem_cons_self
    have hcolon : isSpace ':' = false := by decide
    cases pairs with
    | nil =>
      have hclosed : Closed ('\x7d' :: rest) := closed_cons (by decide) rest
      simp [members, hn, skipSpaces_cons hcolon, hv _ hclosed,
        skipSpaces_cons (show isSpace '\x7d' = false by decide)]
    | cons q pairs =>
      have hrest := ih (by simp) (fun r hr => hname r (List.mem_cons_of_mem _ hr))
        (fun r hr => hvalue r (List.mem_cons_of_mem _ hr)) (Nat.le_of_succ_le_succ hsteps)
      have hclosed : ∀ t, Closed (',' :: t) := fun t => closed_cons (by decide) t
      rw [intercalate_comma, List.append_assoc, List.append_assoc, members, hn]
      simp only [Option.bind_eq_bind, Option.bind_some, List.cons_append, skipSpaces_cons hcolon,
        hv _ (hclosed _), skipSpaces_cons isSpace_comma, hrest]
      rfl

/-- A joined text starts as its first part does. -/
theorem exists_intercalate_eq_cons {α : Type} {text : α → List Char} {x : α} {c : Char}
    {t : List Char} (h : text x = c :: t) (xs : List α) :
    ∃ t', List.intercalate [','] ((x :: xs).map text) = c :: t' := by
  cases xs with
  | nil => exact ⟨t, by simp [h]⟩
  | cons y xs => exact ⟨_, by rw [intercalate_comma, h]; rfl⟩

/-- An array with items is not closed at once. -/
theorem arrayRest_intercalate {α : Type} {item : Scan α} {text : α → List Char} {xs : List α}
    (hne : xs ≠ [])
    (hstart : ∀ x ∈ xs, ∃ c t, text x = c :: t ∧ isSpace c = false ∧ c ≠ ']') (steps : Nat)
    (rest : List Char) :
    arrayRest item steps (List.intercalate [','] (xs.map text) ++ rest) =
      items item steps (List.intercalate [','] (xs.map text) ++ rest) := by
  obtain ⟨x, xs, rfl⟩ := List.exists_cons_of_ne_nil hne
  obtain ⟨c, t, ht, hspace, hbracket⟩ := hstart x List.mem_cons_self
  obtain ⟨t', ht'⟩ := exists_intercalate_eq_cons ht xs
  rw [ht', List.cons_append, arrayRest, skipSpaces_cons hspace]
  split
  · next heq => exact absurd (List.cons.inj heq).1 hbracket
  · rfl

/-- An object with members is not closed at once. -/
theorem objectRest_intercalate {ν α : Type} {name : Scan ν} {value : ν → Scan α}
    {text : ν × α → List Char} {pairs : List (ν × α)} (hne : pairs ≠ [])
    (hstart : ∀ p ∈ pairs, ∃ t, text p = '"' :: t) (steps : Nat) (rest : List Char) :
    objectRest name value steps (List.intercalate [','] (pairs.map text) ++ rest) =
      members name value steps (List.intercalate [','] (pairs.map text) ++ rest) := by
  obtain ⟨p, pairs, rfl⟩ := List.exists_cons_of_ne_nil hne
  obtain ⟨t, ht⟩ := hstart p List.mem_cons_self
  obtain ⟨t', ht'⟩ := exists_intercalate_eq_cons ht pairs
  rw [ht', List.cons_append, objectRest, skipSpaces_cons (by decide)]
  rfl

theorem length_le_length_intercalate (texts : List (List Char)) :
    texts.length ≤ (List.intercalate [','] texts).length + 1 := by
  induction texts with
  | nil => simp
  | cons t texts ih =>
    cases texts with
    | nil => simp
    | cons u texts =>
      rw [List.intercalate_cons_cons]
      simp only [List.length_cons, List.length_append, List.length_nil] at ih ⊢
      omega

theorem length_le_of_mem_intercalate {texts : List (List Char)} {t : List Char} (h : t ∈ texts) :
    t.length ≤ (List.intercalate [','] texts).length := by
  induction texts with
  | nil => cases h
  | cons u texts ih =>
    cases texts with
    | nil =>
      obtain rfl : t = u := by simpa using h
      simp
    | cons w texts =>
      rw [List.intercalate_cons_cons]
      simp only [List.length_append, List.length_cons, List.length_nil]
      rcases List.mem_cons.1 h with rfl | h
      · omega
      · have := ih h
        omega

/-! ## Values -/

section Values

variable {embedded : List Char → Option Json} {steps depth : Nat}

/-- What begins neither an array nor an object is read as a scalar, at any depth. -/
theorem value_eq_scalar {c : Char} (hspace : isSpace c = false) (harray : c ≠ '[')
    (hobject : c ≠ '\x7b') (text : List Char) :
    value embedded steps depth (c :: text) = scalar steps (c :: text) := by
  cases depth with
  | zero => rw [value, skipSpaces_cons hspace]
  | succ depth =>
    rw [value, skipSpaces_cons hspace]
    split
    · next heq => exact absurd (List.cons.inj heq).1 harray
    · next heq => exact absurd (List.cons.inj heq).1 hobject
    · rfl

theorem scalar_integerText (i : Int) (range : -0x8000000000000000 ≤ i ∧ i < 0x10000000000000000)
    {rest : List Char} (hrest : Closed rest) :
    scalar steps (Number.integerText i ++ rest) = some (.number (.integer i range), rest) := by
  have hstart : ∀ c t, c.isDigit = false → c ≠ '-' → Number.integerText i ++ rest ≠ c :: t := by
    intro c t hdigit hsign heq
    obtain ⟨d, ds, hd, hdstart⟩ := exists_integerText_eq_cons i
    rw [hd] at heq
    obtain rfl : d = c := (List.cons.inj heq).1
    rcases hdstart with rfl | hddigit
    · exact hsign rfl
    · rw [hddigit] at hdigit
      cases hdigit
  unfold scalar
  split
  · next heq => exact absurd heq (hstart 'n' _ (by decide) (by decide))
  · next heq => exact absurd heq (hstart 't' _ (by decide) (by decide))
  · next heq => exact absurd heq (hstart 'f' _ (by decide) (by decide))
  · next heq => exact absurd heq (hstart '"' _ (by decide) (by decide))
  · rw [literal_integerText i hrest]
    simp only [Option.bind_eq_bind, Option.bind_some, number?_integer i range]
    rfl

variable {esc : Char → List Char} (hesc : Escaping esc)

/-- The items of an array are read back if each of them is. -/
theorem arrayRest_textWith {item : Scan Json} {items : List Json}
    (hintegral : ∀ v ∈ items, Integral v)
    (hread : ∀ v ∈ items, ∀ rest, Closed rest → item (textWith esc v ++ rest) = some (v, rest))
    (hsteps : (textWith esc (.array items)).length ≤ steps) (rest : List Char) :
    arrayRest item steps (List.intercalate [','] (items.map (textWith esc)) ++ ']' :: rest) =
      some (items, rest) := by
  cases items with
  | nil => rfl
  | cons v items =>
    have hcount := length_le_length_intercalate ((v :: items).map (textWith esc))
    rw [textWith] at hsteps
    simp only [List.length_map, List.length_cons, List.length_append, List.length_nil]
      at hsteps hcount
    have hitems : Reader.items item steps _ = _ :=
      items_intercalate (List.cons_ne_nil v items) hread (by simp; omega) rest
    have hstart : ∀ w ∈ v :: items,
        ∃ c t, textWith esc w = c :: t ∧ isSpace c = false ∧ c ≠ ']' := by
      intro w hw
      obtain ⟨c, t, ht, hblank, hbracket⟩ := exists_textWith_eq_cons esc (hintegral w hw)
      exact ⟨c, t, ht, isSpace_eq_false hblank, hbracket⟩
    rw [arrayRest_intercalate (List.cons_ne_nil v items) hstart, hitems]

include hesc

/-- A member starts with its name in quotes. -/
theorem string_memberWith {m : String × Json} (hsteps : (memberWith esc m).length ≤ steps)
    (rest : List Char) :
    string steps (memberWith esc m ++ rest) = some (m.1, ':' :: (textWith esc m.2 ++ rest)) := by
  simp only [memberWith, List.length_append] at hsteps
  rw [memberWith, List.append_assoc]
  exact string_quoteWith hesc m.1 _ (by omega)

/-- The members of an object are read back if each value is. -/
theorem objectRest_textWith {value : String → Scan Json} {members : List (String × Json)}
    (hread : ∀ m ∈ members, ∀ rest, Closed rest →
      value m.1 (textWith esc m.2 ++ rest) = some (m.2, rest))
    (hsteps : (textWith esc (.object members)).length ≤ steps) (rest : List Char) :
    objectRest (string steps) value steps
      (List.intercalate [','] (members.map (memberWith esc)) ++ '\x7d' :: rest) =
        some (members, rest) := by
  cases members with
  | nil => rfl
  | cons m members =>
    have hcount := length_le_length_intercalate ((m :: members).map (memberWith esc))
    rw [textWith_object] at hsteps
    simp only [List.length_map, List.length_cons, List.length_append, List.length_nil]
      at hsteps hcount
    have hname : ∀ p ∈ m :: members, ∀ rest,
        string steps (quoteWith esc p.1 ++ rest) = some (p.1, rest) := by
      intro p hp rest
      have hlength := length_le_of_mem_intercalate (List.mem_map_of_mem (f := memberWith esc) hp)
      rw [memberWith, List.length_append] at hlength
      exact string_quoteWith hesc p.1 rest (by omega)
    have hmembers : Reader.members (string steps) value steps
        (List.intercalate [','] ((m :: members).map (memberWith esc)) ++ '\x7d' :: rest) =
          some (m :: members, rest) :=
      members_intercalate (List.cons_ne_nil m members) hname hread (by simp; omega) rest
    have hstart : ∀ p ∈ m :: members, ∃ t, memberWith esc p = '"' :: t := fun p _ => ⟨_, rfl⟩
    rw [objectRest_intercalate (List.cons_ne_nil m members) hstart, hmembers]

/-- An object whose first name is not the mark of an embedded text has none. -/
theorem embedding?_textWith {members : List (String × Json)} (hmark : Unmarked (.object members))
    (hsteps : (textWith esc (.object members)).length ≤ steps) (rest : List Char) :
    embedding? steps (List.intercalate [','] (members.map (memberWith esc)) ++ '\x7d' :: rest) =
      none := by
  cases members with
  | nil => rfl
  | cons m members =>
    have hlength := length_le_of_mem_intercalate
      (List.mem_map_of_mem (f := memberWith esc) (List.mem_cons_self : m ∈ m :: members))
    rw [textWith_object] at hsteps
    simp only [List.length_cons, List.length_append, List.length_nil] at hsteps
    have hstring : ∃ t,
        string steps (List.intercalate [','] ((m :: members).map (memberWith esc)) ++
          '\x7d' :: rest) = some (m.1, t) := by
      cases members with
      | nil =>
        rw [List.map_singleton, List.intercalate_singleton]
        exact ⟨_, string_memberWith hesc (by omega) _⟩
      | cons n members =>
        rw [intercalate_comma, List.append_assoc]
        exact ⟨_, string_memberWith hesc (by omega) _⟩
    obtain ⟨t, ht⟩ := hstring
    rw [embedding?, ht]
    exact if_neg (hmark m rfl)

/-- Of names that are written more than once, the last value is read. -/
theorem value_object_textWith {pairs : List (String × Json)} (hmark : Unmarked (.object pairs))
    (hread : ∀ p ∈ pairs, (textWith esc p.2).length ≤ steps → ∀ rest, Closed rest →
      value embedded steps depth (textWith esc p.2 ++ rest) = some (p.2, rest))
    (hsteps : (textWith esc (.object pairs)).length ≤ steps) (rest : List Char) :
    value embedded steps (depth + 1) (textWith esc (.object pairs) ++ rest) =
      some (.object (membersOf pairs), rest) := by
  have hlength : ∀ p ∈ pairs, (textWith esc p.2).length ≤ steps := by
    intro p hp
    have := length_le_of_mem_intercalate (List.mem_map_of_mem (f := memberWith esc) hp)
    rw [textWith_object] at hsteps
    simp only [memberWith, List.length_cons, List.length_append] at hsteps this
    omega
  have hmembers : objectRest _ (fun _ => value embedded steps depth) steps _ = _ :=
    objectRest_textWith hesc (fun p hp => hread p hp (hlength p hp)) hsteps rest
  rw [textWith_object, List.cons_append, value, skipSpaces_cons (by decide), List.append_assoc]
  simp only [List.cons_append, List.nil_append, hmembers,
    embedding?_textWith hesc hmark hsteps rest]
  rfl

/-- Reading gives a written value back. -/
theorem value_textWith {v : Json} (hv : Everywhere Plain v) (hdepth : v.depth ≤ depth)
    (hsteps : (textWith esc v).length ≤ steps) {rest : List Char} (hrest : Closed rest) :
    value embedded steps depth (textWith esc v ++ rest) = some (v, rest) := by
  induction v using Json.induction generalizing depth rest with
  | null =>
    rw [textWith]
    exact value_eq_scalar (by decide) (by decide) (by decide) _
  | bool b =>
    cases b with
    | false =>
      rw [textWith]
      exact value_eq_scalar (by decide) (by decide) (by decide) _
    | true =>
      rw [textWith]
      exact value_eq_scalar (by decide) (by decide) (by decide) _
  | number n =>
    cases n with
    | double value => exact hv.self.integral.elim
    | integer i range =>
      obtain ⟨c, t, hc, hstart⟩ := exists_integerText_eq_cons i
      have hspace : isSpace c = false := by
        rcases hstart with rfl | hdigit
        · decide
        · exact isSpace_eq_false (isBlank_of_isDigit hdigit)
      have hbracket : c ≠ '[' ∧ c ≠ '\x7b' := by
        rcases hstart with rfl | hdigit
        · decide
        · constructor <;> (rintro rfl; cases hdigit)
      have hscalar : value embedded steps depth (c :: (t ++ rest)) = _ :=
        value_eq_scalar hspace hbracket.1 hbracket.2 (t ++ rest)
      rw [← List.cons_append, ← hc] at hscalar
      rw [textWith, Number.text, hscalar, scalar_integerText i range hrest]
  | string text =>
    have htext : textWith esc (.string text) ++ rest =
        '"' :: (text.toList.flatMap esc ++ '"' :: rest) := by
      simp [textWith, quoteWith]
    rw [textWith] at hsteps
    rw [htext, value_eq_scalar (by decide) (by decide) (by decide), scalar,
      stringRest_flatMap hesc text rest hsteps]
    rfl
  | array items ih =>
    obtain ⟨depth, rfl⟩ : ∃ n, depth = n + 1 := by
      rw [Json.depth] at hdepth
      exact ⟨depth - 1, by omega⟩
    rw [everywhere_array] at hv
    have hread : ∀ v ∈ items, ∀ rest, Closed rest →
        value embedded steps depth (textWith esc v ++ rest) = some (v, rest) := by
      intro v hmem rest hrest
      have hlength := length_le_of_mem_intercalate (List.mem_map_of_mem (f := textWith esc) hmem)
      refine ih v hmem (hv.2 v hmem) (depth_array_le_iff.1 hdepth v hmem) ?_ hrest
      rw [textWith] at hsteps
      simp only [List.length_cons, List.length_append] at hsteps
      omega
    have hitems := arrayRest_textWith (fun v hmem => (hv.2 v hmem).self.integral) hread hsteps rest
    rw [textWith, List.cons_append, value, skipSpaces_cons (by decide), List.append_assoc]
    simp only [List.cons_append, List.nil_append, hitems]
    rfl
  | object members ih =>
    obtain ⟨depth, rfl⟩ : ∃ n, depth = n + 1 := by
      rw [Json.depth] at hdepth
      exact ⟨depth - 1, by omega⟩
    rw [everywhere_object] at hv
    have hread : ∀ m ∈ members, (textWith esc m.2).length ≤ steps → ∀ rest, Closed rest →
        value embedded steps depth (textWith esc m.2 ++ rest) = some (m.2, rest) :=
      fun m hmem hlength rest hrest =>
        ih m hmem (hv.2 m hmem) (depth_object_le_iff.1 hdepth m hmem) hlength hrest
    rw [value_object_textWith hesc hv.1.unmarked hread hsteps rest,
      membersOf_eq_self hv.1.distinct]

end Values

/-! ## Escapes -/

theorem hexFour?_hexFour {n : Nat} (h : n < 0x20) (rest : List Char) :
    hexFour? (hexFour n ++ rest) = some (n, rest) := by
  interval_cases n <;> rfl

theorem unicodeEscape_hexFour {n : Nat} (h : n < 0x20) (rest : List Char) :
    unicodeEscape (hexFour n ++ rest) = some (Char.ofNat n, rest) := by
  rw [unicodeEscape, hexFour?_hexFour h]
  simp only [Option.bind_eq_bind, Option.bind_some]
  rw [if_neg (by omega), if_neg (by omega)]

theorem stringWith_escape {d : Char} {text rest : List Char} {steps : Nat}
    (h : escaped text = some (d, rest)) :
    stringWith escaped (steps + 1) ('\\' :: text) =
      (stringWith escaped steps rest).map fun found => (d :: found.1, found.2) := by
  rw [stringWith, h, Option.bind_eq_bind, Option.bind_some]
  cases hrest : stringWith escaped steps rest <;> simp [hrest]

theorem stringWith_raw {c : Char} (hquote : c ≠ '"') (hslash : c ≠ '\\')
    (hcontrol : ¬c.toNat < 0x20) {rest : List Char} {steps : Nat} :
    stringWith escaped (steps + 1) (c :: rest) =
      (stringWith escaped steps rest).map fun found => (c :: found.1, found.2) := by
  rw [stringWith.eq_5 _ _ _ _ hquote hslash, if_neg hcontrol]
  cases hrest : stringWith escaped steps rest <;> simp

/-- The escapes of the printer are read back. -/
theorem escaping_escape : Escaping escape where
  ne_nil c := by
    unfold escape
    split <;> simp
    split <;> simp
  read c steps rest := by
    unfold escape
    split
    · exact stringWith_escape rfl
    · exact stringWith_escape rfl
    · exact stringWith_escape rfl
    · exact stringWith_escape rfl
    · exact stringWith_escape rfl
    · exact stringWith_escape rfl
    · exact stringWith_escape rfl
    · next hquote hslash _ _ _ _ _ =>
      split
      · next hcontrol =>
        have hread : escaped ('u' :: (hexFour c.toNat ++ rest)) = some (c, rest) := by
          rw [escaped, unicodeEscape_hexFour hcontrol, Char.ofNat_toNat]
        exact stringWith_escape hread
      · next hcontrol => exact stringWith_raw hquote hslash hcontrol

end Reader

/-! ## Whole texts -/

/-- No texts are embedded in a written value. -/
theorem parseWithin_textWith {esc : Char → List Char} (hesc : Reader.Escaping esc) {v : Json}
    (hv : Everywhere Plain v) (hdepth : v.depth ≤ Reader.maxDepth) (levels : Nat) :
    parseWithin (levels + 1) (textWith esc v) = some v := by
  have hvalue : Reader.value (parseWithin levels) (textWith esc v).length
      Reader.maxDepth (textWith esc v ++ []) = some (v, []) :=
    Reader.value_textWith hesc hv hdepth (Nat.le_refl _) Reader.closed_nil
  rw [List.append_nil] at hvalue
  rw [parseWithin, Reader.whole, hvalue]
  rfl

/-- A written value is the one that its text writes. -/
theorem parse?_textWith {esc : Char → List Char} (hesc : Reader.Escaping esc) {v : Json}
    (hv : Everywhere Plain v) (hdepth : v.depth ≤ Reader.maxDepth) :
    parse? (textWith esc v) = some v :=
  parseWithin_textWith hesc hv hdepth _

/-- A plain value that is not too deep is read back from its text. -/
theorem parse?_chars {v : Json} (hv : Everywhere Plain v) (hdepth : v.depth ≤ Reader.maxDepth) :
    parse? v.chars = some v := by
  rw [chars_eq_textWith]
  exact parse?_textWith Reader.escaping_escape hv hdepth

end RequestLine.Json
