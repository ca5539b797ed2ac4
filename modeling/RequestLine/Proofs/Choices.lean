import RequestLine.Proofs.Results
import RequestLine.Settings

/-!
# What texts mean as settings

The text of a flag, of a variable and of a default are all read in the same way. What a text means
is said for each setting without regard to how it is read (`Flag.Means`): a number is decimal digits,
perhaps after a plus sign (`Text.Writes`), a port may also be a zero with a minus sign
(`Text.WritesInteger`), and a form of the log is written by its name. A text is accepted exactly if it means a value, and then it is that value which is chosen and nothing else
(`Choice.set_eq_ok_iff`).

The texts that stand for what is not given are written down apart from the usual settings. They mean
the same (`means_defaultText`).
-/

namespace RequestLine

/-! ## Numerals -/

namespace Text

/-- A text writes a number in decimal digits, perhaps after a plus sign. -/
def Writes (text : List Char) (n : Nat) : Prop :=
  ∃ digits, digits ≠ [] ∧ (∀ c ∈ digits, c.isDigit) ∧ (text = digits ∨ text = '+' :: digits) ∧
    n = Nat.ofDigitChars 10 digits 0

theorem isDigit_iff (c : Char) : c.isDigit ↔ 48 ≤ c.toNat ∧ c.toNat ≤ 57 := by
  simp [Char.isDigit, UInt32.le_iff_toNat_le]

theorem digit?_ten (c : Char) : digit? 10 c = if c.isDigit then some (c.toNat - 48) else none := by
  have hle : ∀ a b : Char, a ≤ b ↔ a.toNat ≤ b.toNat := fun _ _ => Iff.rfl
  unfold digit? hexDigit?
  simp only [hle, isDigit_iff]
  change Option.filter _ (if 48 ≤ c.toNat ∧ c.toNat ≤ 57 then _ else
    if 97 ≤ c.toNat ∧ c.toNat ≤ 102 then _ else if 65 ≤ c.toNat ∧ c.toNat ≤ 70 then _ else _) = _
  split
  · rw [Option.filter_some, if_pos (by simp; omega)]
  · split
    · rw [Option.filter_some, if_neg (by simp; omega)]
    · split
      · rw [Option.filter_some, if_neg (by simp; omega)]
      · rfl

/-- Reading digit by digit gives the number that the digits write. By induction on the digits, with
the number read so far as the state. -/
theorem foldlM_digit?_eq_some_iff {digits : List Char} {m n : Nat} :
    digits.foldlM (fun n c => (digit? 10 c).map (10 * n + ·)) m = some n ↔
      (∀ c ∈ digits, c.isDigit) ∧ n = Nat.ofDigitChars 10 digits m := by
  induction digits generalizing m with
  | nil =>
    constructor
    · intro h
      cases h
      exact ⟨nofun, rfl⟩
    · rintro ⟨-, rfl⟩
      rfl
  | cons c digits ih =>
    rw [List.foldlM_cons, digit?_ten]
    have hcons : Nat.ofDigitChars 10 (c :: digits) m =
        Nat.ofDigitChars 10 digits (10 * m + (c.toNat - 48)) := rfl
    rw [List.forall_mem_cons, hcons]
    by_cases hc : c.isDigit
    · rw [if_pos hc, Option.map_some, Option.bind_eq_bind, Option.bind_some, ih, and_assoc]
      exact (and_iff_right hc).symm
    · rw [if_neg hc]
      refine iff_of_false nofun ?_
      rintro ⟨⟨hdigit, -⟩, -⟩
      exact hc hdigit

/-- A numeral is at least one digit and nothing else. -/
theorem numeral?_eq_some_iff {digits : List Char} {n : Nat} :
    (if digits.isEmpty then none else numeral? 10 digits) = some n ↔
      digits ≠ [] ∧ (∀ c ∈ digits, c.isDigit) ∧ n = Nat.ofDigitChars 10 digits 0 := by
  by_cases hempty : digits = []
  · simp [hempty]
  · rw [if_neg (by simpa using hempty), numeral?, foldlM_digit?_eq_some_iff]
    simp [hempty]

/-- The reader of numerals without a minus sign accepts what writes a number and nothing else. -/
theorem signedNumeral?_eq_some_iff {text : List Char} {n : Nat} :
    signedNumeral? text = some n ↔ Writes text n := by
  by_cases hplus : ∃ rest, text = '+' :: rest
  · obtain ⟨rest, rfl⟩ := hplus
    change (if rest.isEmpty then none else numeral? 10 rest) = some n ↔ _
    rw [numeral?_eq_some_iff]
    constructor
    · rintro ⟨hne, hdigits, hn⟩
      exact ⟨rest, hne, hdigits, .inr rfl, hn⟩
    · rintro ⟨digits, hne, hdigits, rfl | h, hn⟩
      · cases hdigits '+' List.mem_cons_self
      · cases h
        exact ⟨hne, hdigits, hn⟩
  · have hunsigned : signedNumeral? text =
        if text.isEmpty then none else numeral? 10 text := by
      unfold signedNumeral?
      split
      · exact absurd ⟨_, rfl⟩ hplus
      · rfl
    rw [hunsigned, numeral?_eq_some_iff]
    constructor
    · rintro ⟨hne, hdigits, hn⟩
      exact ⟨text, hne, hdigits, .inl rfl, hn⟩
    · rintro ⟨digits, hne, hdigits, rfl | h, hn⟩
      · exact ⟨hne, hdigits, hn⟩
      · exact absurd ⟨digits, h⟩ hplus

/-- Digits write zero only if all of them are zeros. -/
theorem ofDigitChars_eq_zero_iff {digits : List Char} {m : Nat} :
    (∀ c ∈ digits, c.isDigit) ∧ Nat.ofDigitChars 10 digits m = 0 ↔
      m = 0 ∧ ∀ c ∈ digits, c = '0' := by
  induction digits generalizing m with
  | nil => simp [Nat.ofDigitChars]
  | cons c digits ih =>
    have hcons : Nat.ofDigitChars 10 (c :: digits) m =
        Nat.ofDigitChars 10 digits (10 * m + (c.toNat - 48)) := rfl
    have hzero : c.isDigit ∧ c.toNat - 48 = 0 ↔ c = '0' := by
      constructor
      · rintro ⟨hdigit, hc⟩
        have hrange := (isDigit_iff c).1 hdigit
        exact Char.toNat_inj.1 (show c.toNat = 48 by omega)
      · rintro rfl
        decide
    rw [List.forall_mem_cons, List.forall_mem_cons, hcons, and_assoc, ih, ← hzero]
    constructor
    · rintro ⟨hdigit, hm, hdigits⟩
      exact ⟨by omega, ⟨hdigit, by omega⟩, hdigits⟩
    · rintro ⟨hm, ⟨hdigit, hc⟩, hdigits⟩
      exact ⟨hdigit, by omega, hdigits⟩

/-- A text writes a number as an integer: zero may also stand behind a minus sign. -/
def WritesInteger (text : List Char) (n : Nat) : Prop :=
  Writes text n ∨ n = 0 ∧ ∃ zeros, zeros ≠ [] ∧ (∀ c ∈ zeros, c = '0') ∧ text = '-' :: zeros

/-- Without a minus sign of its own no numeral begins with one. -/
theorem not_writes_minus {digits : List Char} {n : Nat} : ¬Writes ('-' :: digits) n := by
  rintro ⟨found, -, hdigits, rfl | h, -⟩
  · cases hdigits '-' List.mem_cons_self
  · cases h

/-- The reader of integers accepts what writes a number as an integer and nothing else. -/
theorem integerNumeral?_eq_some_iff {text : List Char} {n : Nat} :
    integerNumeral? text = some n ↔ WritesInteger text n := by
  by_cases hminus : ∃ digits, text = '-' :: digits
  · obtain ⟨digits, rfl⟩ := hminus
    have hread : integerNumeral? ('-' :: digits) =
        (if digits.isEmpty then none else numeral? 10 digits).filter (· = 0) := by
      rw [integerNumeral?]
      split <;> rfl
    rw [hread, Option.filter_eq_some_iff, numeral?_eq_some_iff, WritesInteger,
      or_iff_right not_writes_minus, decide_eq_true_eq]
    constructor
    · rintro ⟨⟨hne, hdigits, hn⟩, rfl⟩
      exact ⟨rfl, digits, hne, (ofDigitChars_eq_zero_iff.1 ⟨hdigits, hn.symm⟩).2, rfl⟩
    · rintro ⟨rfl, zeros, hne, hzeros, h⟩
      cases h
      obtain ⟨hdigits, hn⟩ := ofDigitChars_eq_zero_iff.2 ⟨rfl, hzeros⟩
      exact ⟨⟨hne, hdigits, hn.symm⟩, rfl⟩
  · have hread : integerNumeral? text = signedNumeral? text := by
      unfold integerNumeral?
      split
      · exact absurd ⟨_, rfl⟩ hminus
      · rfl
    rw [hread, signedNumeral?_eq_some_iff, WritesInteger, or_iff_left]
    rintro ⟨-, zeros, -, -, h⟩
    exact hminus ⟨zeros, h⟩

end Text

/-- A form of the log is read from its name and from no other text. -/
theorem Log.Format.ofName?_eq_some_iff {text : String} {format : Log.Format} :
    Log.Format.ofName? text = some format ↔ text = format.name := by
  constructor
  · intro h
    unfold Log.Format.ofName? at h
    split at h
    · next htext =>
      cases h
      exact htext
    · split at h
      · next htext =>
        cases h
        exact htext
      · cases h
  · rintro rfl
    exact Log.Format.ofName?_name format

namespace Settings

/-! ## Values -/

/-- The type of the values of a setting. -/
abbrev Flag.Value : Flag → Type
  | .host => String
  | .port => UInt16
  | .timeout => UInt64
  | .logFilter => String
  | .logFormat => Log.Format

/-- What a text means as the value of a flag. -/
def Flag.Means : (flag : Flag) → String → flag.Value → Prop
  | .host, text, v => v = text
  | .port, text, v => Text.WritesInteger text.toList (UInt16.toNat v)
  | .timeout, text, v => Text.Writes text.toList (UInt64.toNat v)
  | .logFilter, text, v => v = text
  | .logFormat, text, v => text = Log.Format.name v

/-- The value of a setting. -/
def get (s : Settings) : (flag : Flag) → flag.Value
  | .host => s.host
  | .port => s.port
  | .timeout => s.timeout
  | .logFilter => s.logFilter
  | .logFormat => s.logFormat

/-- Settings are the same if the values of all flags are. -/
theorem ext_get {s t : Settings} (h : ∀ flag, s.get flag = t.get flag) : s = t := by
  have hhost : s.host = t.host := h .host
  have hport : s.port = t.port := h .port
  have htimeout : s.timeout = t.timeout := h .timeout
  have hfilter : s.logFilter = t.logFilter := h .logFilter
  have hformat : s.logFormat = t.logFormat := h .logFormat
  cases s
  cases t
  simp_all

/-- A text means at most one value. -/
theorem Flag.Means.unique {flag : Flag} {text : String} {v w : flag.Value}
    (hv : flag.Means text v) (hw : flag.Means text w) : v = w := by
  cases flag with
  | host => exact hv.trans hw.symm
  | port =>
    rw [Flag.Means, ← Text.integerNumeral?_eq_some_iff] at hv hw
    exact UInt16.toNat_inj.1 (Option.some.inj (hv.symm.trans hw))
  | timeout =>
    rw [Flag.Means, ← Text.signedNumeral?_eq_some_iff] at hv hw
    exact UInt64.toNat_inj.1 (Option.some.inj (hv.symm.trans hw))
  | logFilter => exact hv.trans hw.symm
  | logFormat =>
    rw [Flag.Means, ← Log.Format.ofName?_eq_some_iff] at hv hw
    exact Option.some.inj (hv.symm.trans hw)

/-- The text that stands for what is not given means the usual value. -/
theorem means_defaultText (flag : Flag) :
    flag.Means flag.defaultText (({} : Settings).get flag) := by
  cases flag with
  | host => rfl
  | port => exact Text.integerNumeral?_eq_some_iff.1 (by decide)
  | timeout => exact Text.signedNumeral?_eq_some_iff.1 (by decide)
  | logFilter => rfl
  | logFormat => rfl

/-! ## Choices -/

namespace Choice

/-- The value that has been chosen for a setting. -/
def get? (c : Choice) : (flag : Flag) → Option flag.Value
  | .host => c.host?
  | .port => c.port?
  | .timeout => c.timeout?
  | .logFilter => c.logFilter?
  | .logFormat => c.logFormat?

/-- Chooses a value. -/
def put (c : Choice) : (flag : Flag) → flag.Value → Choice
  | .host, v => { c with host? := some v }
  | .port, v => { c with port? := some v }
  | .timeout, v => { c with timeout? := some v }
  | .logFilter, v => { c with logFilter? := some v }
  | .logFormat, v => { c with logFormat? := some v }

theorem has_eq (c : Choice) (flag : Flag) : c.has flag = (c.get? flag).isSome := by
  cases flag <;> rfl

theorem get?_empty (flag : Flag) : ({} : Choice).get? flag = none := by
  cases flag <;> rfl

@[simp] theorem get?_put_self (c : Choice) (flag : Flag) (v : flag.Value) :
    (c.put flag v).get? flag = some v := by
  cases flag <;> rfl

theorem get?_put_of_ne (c : Choice) {flag other : Flag} (v : flag.Value) (h : other ≠ flag) :
    (c.put flag v).get? other = c.get? other := by
  cases flag <;> cases other <;> first | rfl | exact absurd rfl h

theorem get_settings {c : Choice} {flag : Flag} {v : flag.Value} (h : c.get? flag = some v) :
    c.settings.get flag = v := by
  cases flag <;> exact congrArg (Option.getD · _) h

theorem number_eq_ok_iff {read : List Char → Option Nat} {bound : Nat} {text : String} {n : Nat} :
    number read bound text = .ok n ↔ read text.toList = some n ∧ n < bound := by
  unfold number
  cases read text.toList with
  | none => simp
  | some m =>
    by_cases hlt : m < bound
    · simp only [if_pos hlt, Except.ok.injEq, Option.some.injEq]
      constructor
      · rintro rfl
        exact ⟨rfl, hlt⟩
      · exact And.left
    · simp only [if_neg hlt, reduceCtorEq, Option.some.injEq, false_iff]
      rintro ⟨rfl, hn⟩
      exact hlt hn

/-- Numbers of a size are read alike: the text has to write the number of a value. -/
theorem number_bind_eq_ok_iff {V : Type} {read : List Char → Option Nat}
    {writes : List Char → Nat → Prop} (hread : ∀ {text n}, read text = some n ↔ writes text n)
    {size : Nat} {toNat : V → Nat} {ofNat : Nat → V}
    (hlt : ∀ v, toNat v < size) (hof : ∀ v, ofNat (toNat v) = v)
    (hto : ∀ n < size, toNat (ofNat n) = n) {text : String} {f : V → Choice} {c : Choice} :
    (number read size text >>= fun n => .ok (f (ofNat n))) = .ok c ↔
      ∃ v, writes text.toList (toNat v) ∧ c = f v := by
  rw [bind_eq_ok]
  constructor
  · rintro ⟨n, hn, h⟩
    cases h
    obtain ⟨hwrites, hsize⟩ := number_eq_ok_iff.1 hn
    exact ⟨ofNat n, by rwa [hto n hsize, ← hread], rfl⟩
  · rintro ⟨v, hwrites, rfl⟩
    exact ⟨toNat v, number_eq_ok_iff.2 ⟨hread.2 hwrites, hlt v⟩, by rw [hof]⟩

/-- A text is accepted for a flag exactly if it means a value, and that value is chosen. -/
theorem set_eq_ok_iff {c c' : Choice} {flag : Flag} {text : String} :
    c.set flag text = .ok c' ↔ ∃ v, flag.Means text v ∧ c' = c.put flag v := by
  have htext : ∀ f : String → Choice,
      (.ok (f text) : Except Stop Choice) = .ok c' ↔ ∃ v, v = text ∧ c' = f v := by
    intro f
    simp [eq_comm]
  cases flag with
  | host => exact htext fun v => { c with host? := some v }
  | port =>
    exact number_bind_eq_ok_iff (f := fun v => { c with port? := some v })
      Text.integerNumeral?_eq_some_iff UInt16.toNat_lt (fun v => UInt16.ofNat_toNat)
      fun n hn => Nat.mod_eq_of_lt hn
  | timeout =>
    exact number_bind_eq_ok_iff (f := fun v => { c with timeout? := some v })
      Text.signedNumeral?_eq_some_iff UInt64.toNat_lt (fun v => UInt64.ofNat_toNat)
      fun n hn => Nat.mod_eq_of_lt hn
  | logFilter => exact htext fun v => { c with logFilter? := some v }
  | logFormat =>
    simp only [set, Flag.Means, ← Log.Format.ofName?_eq_some_iff]
    split
    · next format hformat => simp [hformat, put, eq_comm]
    · next hnone => simp [hnone]

/-- A flag is accepted exactly if it has not been chosen yet and its text means a value. -/
theorem give_eq_ok_iff {c c' : Choice} {flag : Flag} {text : String} :
    c.give flag text = .ok c' ↔
      c.get? flag = none ∧ ∃ v, flag.Means text v ∧ c' = c.put flag v := by
  unfold give
  rw [has_eq, ← set_eq_ok_iff]
  cases c.get? flag <;> simp

end Choice

end Settings

end RequestLine
