import RequestLine.Proofs.Choices
import Mathlib.Data.List.Nodup

/-!
# Where settings come from

Settings are resolved from flags that are given in any order and in two spellings, from variables of
the environment and from texts that stand for what is not given. Each setting has the value that its
flag gives, else that of its variable, else its usual value, and nothing else has a say
(`resolve_givens`).

Flags that are read one after the other amount to a fold over what is given: although the value of a
flag that stands alone only counts when the next argument has been looked at, this makes no
difference for arguments that are flags and values (`all_flatMap_arguments`). The fold chooses what
is given (`Chosen`), and a second fold chooses the rest from the environment (`Filled`).
-/

namespace RequestLine.Settings

/-! ## What is given -/

/-- A flag with a value as it stands in the arguments: in one argument, or as an argument of its own
that does not look like a flag. -/
inductive Given where
  | attached (flag : Flag) (text : String)
  | apart (flag : Flag) (text : String) (unhyphened : text.toList.head? ≠ some '-')

namespace Given

def flag : Given → Flag
  | .attached flag _ | .apart flag _ _ => flag

def text : Given → String
  | .attached _ text | .apart _ text _ => text

/-- The arguments that give a flag. -/
def arguments : Given → List String
  | .attached flag text => ["--" ++ flag.name ++ "=" ++ text]
  | .apart flag text _ => ["--" ++ flag.name, text]

end Given

theorem Flag.ofName?_name (flag : Flag) : Flag.ofName? flag.name = some flag := by
  cases flag <;> decide

theorem Argument.ofText_attached (flag : Flag) (text : String) :
    Argument.ofText ("--" ++ flag.name ++ "=" ++ text) = .long flag.name (some text) := by
  have hname : ∃ c name, flag.name.toList = c :: name := by cases flag <;> exact ⟨_, _, rfl⟩
  have hspan : (flag.name.toList ++ '=' :: text.toList).span (· != '=') =
      (flag.name.toList, '=' :: text.toList) := by
    cases flag <;> rfl
  have htext : ("--" ++ flag.name ++ "=" ++ text).toList =
      '-' :: '-' :: (flag.name.toList ++ '=' :: text.toList) := by
    simp [String.toList_append]
  obtain ⟨c, name, hc⟩ := hname
  unfold Argument.ofText
  rw [htext, hc, List.cons_append]
  simp only
  rw [← List.cons_append, ← hc, hspan]
  simp

theorem Argument.ofText_name (flag : Flag) :
    Argument.ofText ("--" ++ flag.name) = .long flag.name none := by
  cases flag <;> decide

theorem Argument.ofText_plain {text : String} (h : text.toList.head? ≠ some '-') :
    Argument.ofText text = .plain text := by
  unfold Argument.ofText
  split
  all_goals first | rfl | simp_all

/-! ## Reading -/

/-- Chooses what is given. -/
def choose (c : Choice) (g : Given) : Except Stop Choice := c.give g.flag g.text

namespace Reading

theorem all_attached (r : Reading) (flag : Flag) (text : String) (rest : List String) :
    r.all (("--" ++ flag.name ++ "=" ++ text) :: rest) =
      r.settle >>= fun c => c.give flag text >>= fun c' => ({ chosen := c' } : Reading).all rest := by
  rw [all, Argument.ofText_attached]
  simp only [long, Flag.ofName?_name]
  cases r.settle with
  | error stop => rfl
  | ok c => cases h : c.give flag text <;> simp [bind, Except.bind, h, pure, Except.pure]

theorem all_apart (r : Reading) (flag : Flag) {text : String}
    (h : text.toList.head? ≠ some '-') (rest : List String) :
    r.all (("--" ++ flag.name) :: text :: rest) =
      r.settle >>= fun c =>
        ({ chosen := c, open? := some (flag, some text) } : Reading).all rest := by
  rw [all, Argument.ofText_name]
  simp only [long, Flag.ofName?_name]
  cases r.settle with
  | error stop => rfl
  | ok c =>
    change Reading.all { chosen := c, open? := some (flag, none) } (text :: rest) = _
    rw [all, Argument.ofText_plain h]
    rfl

/-- Reading what is given is choosing it, one after the other. -/
theorem all_flatMap_arguments (r : Reading) (givens : List Given) :
    r.all (givens.flatMap Given.arguments) = r.settle >>= givens.foldlM choose := by
  induction givens generalizing r with
  | nil =>
    change r.settle = r.settle >>= pure
    cases r.settle <;> rfl
  | cons g givens ih =>
    rw [List.flatMap_cons]
    cases g with
    | attached flag text =>
      rw [Given.arguments, List.singleton_append, all_attached]
      simp only [ih]
      rfl
    | apart flag text h =>
      rw [Given.arguments, List.cons_append, List.singleton_append, all_apart r flag h]
      simp only [ih]
      rfl

end Reading

/-! ## Choosing what is given -/

/-- What choosing does: the values are those that the texts mean, and all else is as it was. -/
structure Chosen (c : Choice) (givens : List Given) (c' : Choice) : Prop where
  distinct : (givens.map Given.flag).Nodup
  fresh : ∀ g ∈ givens, c.get? g.flag = none
  read : ∀ g ∈ givens, ∃ v, g.flag.Means g.text v ∧ c'.get? g.flag = some v
  kept : ∀ flag ∉ givens.map Given.flag, c'.get? flag = c.get? flag

theorem chosen_nil (c : Choice) : Chosen c [] c := by
  refine ⟨?_, ?_, ?_, ?_⟩ <;> simp

/-- A flag that has just been chosen is not given again. -/
theorem Chosen.cons {c c' : Choice} {g : Given} {givens : List Given} {v : g.flag.Value}
    (hfree : c.get? g.flag = none) (hv : g.flag.Means g.text v)
    (h : Chosen (c.put g.flag v) givens c') : Chosen c (g :: givens) c' := by
  have hne : ∀ g' ∈ givens, g'.flag ≠ g.flag := by
    intro g' hg' heq
    have hnone := h.fresh g' hg'
    rw [heq, Choice.get?_put_self] at hnone
    cases hnone
  have hnot : g.flag ∉ givens.map Given.flag := by
    intro hmem
    obtain ⟨g', hg', heq⟩ := List.mem_map.1 hmem
    exact hne g' hg' heq
  refine ⟨List.nodup_cons.2 ⟨hnot, h.distinct⟩, ?_, ?_, ?_⟩
  · intro g' hg'
    rcases List.mem_cons.1 hg' with rfl | hg'
    · exact hfree
    · rw [← h.fresh g' hg', Choice.get?_put_of_ne _ _ (hne g' hg')]
  · intro g' hg'
    rcases List.mem_cons.1 hg' with rfl | hg'
    · exact ⟨v, hv, by rw [h.kept _ hnot, Choice.get?_put_self]⟩
    · exact h.read g' hg'
  · intro flag hflag
    rw [List.map_cons, List.mem_cons, not_or] at hflag
    rw [h.kept flag hflag.2, Choice.get?_put_of_ne _ _ hflag.1]

/-- Whatever has been chosen was given once and with a text that means its value. -/
theorem chosen_of_foldlM {givens : List Given} {c c' : Choice}
    (h : givens.foldlM choose c = .ok c') : Chosen c givens c' := by
  induction givens generalizing c with
  | nil =>
    cases h
    exact chosen_nil _
  | cons g givens ih =>
    rw [List.foldlM_cons, bind_eq_ok] at h
    obtain ⟨c₁, hg, hrest⟩ := h
    obtain ⟨hfree, v, hv, rfl⟩ := Choice.give_eq_ok_iff.1 hg
    exact Chosen.cons hfree hv (ih hrest)

/-- Distinct flags with valid texts are all accepted. -/
theorem exists_foldlM_choose {givens : List Given} {c : Choice}
    (hdistinct : (givens.map Given.flag).Nodup) (hfresh : ∀ g ∈ givens, c.get? g.flag = none)
    (hvalid : ∀ g ∈ givens, ∃ v, g.flag.Means g.text v) :
    ∃ c', givens.foldlM choose c = .ok c' := by
  induction givens generalizing c with
  | nil => exact ⟨c, rfl⟩
  | cons g givens ih =>
    rw [List.map_cons, List.nodup_cons] at hdistinct
    obtain ⟨v, hv⟩ := hvalid g List.mem_cons_self
    have hgive : choose c g = .ok (c.put g.flag v) :=
      Choice.give_eq_ok_iff.2 ⟨hfresh g List.mem_cons_self, v, hv, rfl⟩
    have hfresh' : ∀ g' ∈ givens, (c.put g.flag v).get? g'.flag = none := by
      intro g' hg'
      have hne : g'.flag ≠ g.flag := by
        intro heq
        exact hdistinct.1 (List.mem_map.2 ⟨g', hg', heq⟩)
      rw [Choice.get?_put_of_ne _ _ hne]
      exact hfresh g' (List.mem_cons_of_mem _ hg')
    obtain ⟨c', hc'⟩ := ih hdistinct.2 hfresh' fun g' hg' => hvalid g' (List.mem_cons_of_mem _ hg')
    refine ⟨c', ?_⟩
    rw [List.foldlM_cons, bind_eq_ok]
    exact ⟨_, hgive, hc'⟩

/-! ## Choosing the rest -/

/-- What the environment and the defaults do: what has been chosen stays, and all else gets the
value of its variable or its default. -/
structure Filled (environment : List (String × String)) (flags : List Flag) (c c' : Choice) :
    Prop where
  kept : ∀ flag v, c.get? flag = some v → c'.get? flag = some v
  filled : ∀ flag ∈ flags, c.get? flag = none → ∃ v, c'.get? flag = some v ∧
    flag.Means ((environment.lookup flag.variableName).getD flag.defaultText) v

/-- The rest is filled if the text that stands for each missing flag is valid. By induction on the
flags, with what has been chosen as the state. -/
theorem exists_foldlM_fill {environment : List (String × String)} {flags : List Flag} {c : Choice}
    (hvalid : ∀ flag, c.get? flag = none → ∃ v,
      flag.Means ((environment.lookup flag.variableName).getD flag.defaultText) v) :
    ∃ c', flags.foldlM (fill environment) c = .ok c' ∧ Filled environment flags c c' := by
  induction flags generalizing c with
  | nil => exact ⟨c, rfl, fun _ _ h => h, by simp⟩
  | cons first flags ih =>
    rw [List.foldlM_cons]
    cases hfirst : c.get? first with
    | some v =>
      have hfill : fill environment c first = .ok c := by
        rw [fill, Choice.has_eq, hfirst]
        rfl
      obtain ⟨c', hc', hfilled⟩ := ih hvalid
      refine ⟨c', by rw [hfill]; exact hc', hfilled.kept, ?_⟩
      intro flag hflag hnone
      rcases List.mem_cons.1 hflag with rfl | hflag
      · rw [hfirst] at hnone
        cases hnone
      · exact hfilled.filled flag hflag hnone
    | none =>
      obtain ⟨v, hv⟩ := hvalid first hfirst
      have hfill : fill environment c first = .ok (c.put first v) := by
        rw [fill, Choice.has_eq, hfirst]
        exact Choice.set_eq_ok_iff.2 ⟨v, hv, rfl⟩
      have hput : ∀ flag, flag ≠ first → (c.put first v).get? flag = c.get? flag :=
        fun flag hne => Choice.get?_put_of_ne c v hne
      have hvalid' : ∀ flag, (c.put first v).get? flag = none → ∃ v,
          flag.Means ((environment.lookup flag.variableName).getD flag.defaultText) v := by
        intro flag hnone
        by_cases hflag : flag = first
        · subst hflag
          exact ⟨v, hv⟩
        · rw [hput flag hflag] at hnone
          exact hvalid flag hnone
      obtain ⟨c', hc', hfilled⟩ := ih hvalid'
      refine ⟨c', by rw [hfill]; exact hc', ?_, ?_⟩
      · intro flag w hw
        by_cases hflag : flag = first
        · subst hflag
          rw [hfirst] at hw
          cases hw
        · exact hfilled.kept flag w ((hput flag hflag).trans hw)
      · intro flag hmem hnone
        by_cases hflag : flag = first
        · subst hflag
          exact ⟨v, hfilled.kept flag v (Choice.get?_put_self c flag v), hv⟩
        · have hrest : flag ∈ flags := (List.mem_cons.1 hmem).resolve_left hflag
          exact hfilled.filled flag hrest ((hput flag hflag).trans hnone)

/-! ## Resolution -/

/-- The value of a setting is that of its flag, else that of its variable, else the usual one. -/
inductive Source (givens : List Given) (environment : List (String × String)) (s : Settings)
    (flag : Flag) : Prop
  | given (g : Given) (hmem : g ∈ givens) (hflag : g.flag = flag)
    (hmeans : flag.Means g.text (s.get flag))
  | environment (text : String) (hnot : flag ∉ givens.map Given.flag)
    (hlookup : environment.lookup flag.variableName = some text)
    (hmeans : flag.Means text (s.get flag))
  | usual (hnot : flag ∉ givens.map Given.flag)
    (hlookup : environment.lookup flag.variableName = none)
    (heq : s.get flag = ({} : Settings).get flag)

/-- A setting has one source, and so one value. -/
theorem Source.unique {givens : List Given} {environment : List (String × String)}
    {s t : Settings} {flag : Flag} (hdistinct : (givens.map Given.flag).Nodup)
    (hs : Source givens environment s flag) (ht : Source givens environment t flag) :
    s.get flag = t.get flag := by
  cases hs with
  | given g hmem hflag hmeans =>
    cases ht with
    | given g' hmem' hflag' hmeans' =>
      obtain rfl := List.inj_on_of_nodup_map hdistinct hmem hmem' (hflag.trans hflag'.symm)
      exact hmeans.unique hmeans'
    | environment text hnot => exact absurd (List.mem_map.2 ⟨g, hmem, hflag⟩) hnot
    | usual hnot => exact absurd (List.mem_map.2 ⟨g, hmem, hflag⟩) hnot
  | environment text hnot hlookup hmeans =>
    cases ht with
    | given g hmem hflag => exact absurd (List.mem_map.2 ⟨g, hmem, hflag⟩) hnot
    | environment text' _ hlookup' hmeans' =>
      rw [hlookup] at hlookup'
      cases hlookup'
      exact hmeans.unique hmeans'
    | usual _ hlookup' =>
      rw [hlookup] at hlookup'
      cases hlookup'
  | usual hnot hlookup heq =>
    cases ht with
    | given g hmem hflag => exact absurd (List.mem_map.2 ⟨g, hmem, hflag⟩) hnot
    | environment text' _ hlookup' =>
      rw [hlookup] at hlookup'
      cases hlookup'
    | usual _ _ heq' => rw [heq, heq']

/-- Where a value comes from does not depend on the order in which flags are given. -/
theorem Source.perm {givens givens' : List Given} {environment : List (String × String)}
    {s : Settings} {flag : Flag} (hperm : givens.Perm givens')
    (h : Source givens environment s flag) : Source givens' environment s flag := by
  have hflags : flag ∈ givens'.map Given.flag ↔ flag ∈ givens.map Given.flag :=
    (hperm.map Given.flag).symm.mem_iff
  cases h with
  | given g hmem hflag hmeans => exact .given g (hperm.mem_iff.1 hmem) hflag hmeans
  | environment text hnot hlookup hmeans =>
    exact .environment text (mt hflags.1 hnot) hlookup hmeans
  | usual hnot hlookup heq => exact .usual (mt hflags.1 hnot) hlookup heq

theorem resolve_flatMap_arguments (givens : List Given) (environment : List (String × String)) :
    resolve (givens.flatMap Given.arguments) environment =
      givens.foldlM choose {} >>= fun c =>
        Flag.all.foldlM (fill environment) c >>= fun c' => .ok c'.settings := by
  rw [resolve, Reading.all_flatMap_arguments]
  rfl

section

variable {givens : List Given} {environment : List (String × String)}

/-- Distinct flags with valid texts resolve, and every setting has its source. -/
theorem exists_resolve (hdistinct : (givens.map Given.flag).Nodup)
    (hgivens : ∀ g ∈ givens, ∃ v, g.flag.Means g.text v)
    (henvironment : ∀ flag ∉ givens.map Given.flag, ∀ text,
      environment.lookup flag.variableName = some text → ∃ v, flag.Means text v) :
    ∃ s, resolve (givens.flatMap Given.arguments) environment = .ok s ∧
      ∀ flag, Source givens environment s flag := by
  have hfresh : ∀ g ∈ givens, ({} : Choice).get? g.flag = none := fun g _ => Choice.get?_empty _
  obtain ⟨c, hc⟩ := exists_foldlM_choose hdistinct hfresh hgivens
  have hchosen := chosen_of_foldlM hc
  have hnot : ∀ flag, c.get? flag = none → flag ∉ givens.map Given.flag := by
    intro flag hnone hmem
    obtain ⟨g, hg, rfl⟩ := List.mem_map.1 hmem
    obtain ⟨v, -, hv⟩ := hchosen.read g hg
    rw [hnone] at hv
    cases hv
  have hvalid : ∀ flag, c.get? flag = none → ∃ v,
      flag.Means ((environment.lookup flag.variableName).getD flag.defaultText) v := by
    intro flag hnone
    cases hlookup : environment.lookup flag.variableName with
    | none => exact ⟨_, means_defaultText flag⟩
    | some text => exact henvironment flag (hnot flag hnone) text hlookup
  obtain ⟨c', hc', hfilled⟩ : ∃ c', Flag.all.foldlM (fill environment) c = .ok c' ∧
      Filled environment Flag.all c c' := exists_foldlM_fill hvalid
  refine ⟨c'.settings, ?_, ?_⟩
  · rw [resolve_flatMap_arguments, bind_eq_ok]
    refine ⟨c, hc, ?_⟩
    rw [bind_eq_ok]
    exact ⟨c', hc', rfl⟩
  · intro flag
    by_cases hflag : flag ∈ givens.map Given.flag
    · obtain ⟨g, hg, rfl⟩ := List.mem_map.1 hflag
      obtain ⟨v, hv, hget⟩ := hchosen.read g hg
      have hvalue := Choice.get_settings (hfilled.kept g.flag v hget)
      exact .given g hg rfl (hvalue.symm ▸ hv)
    · have hnone : c.get? flag = none := (hchosen.kept flag hflag).trans (Choice.get?_empty flag)
      have hall : flag ∈ Flag.all := by cases flag <;> decide
      obtain ⟨v, hget, hv⟩ := hfilled.filled flag hall hnone
      have hvalue := Choice.get_settings hget
      cases hlookup : environment.lookup flag.variableName with
      | some text =>
        rw [hlookup] at hv
        exact .environment text hflag hlookup (hvalue.symm ▸ hv)
      | none =>
        rw [hlookup] at hv
        exact .usual hflag hlookup (hvalue.trans (hv.unique (means_defaultText flag)))

/-- A flag that is given twice stops the reading. -/
theorem nodup_of_resolve {s : Settings}
    (h : resolve (givens.flatMap Given.arguments) environment = .ok s) :
    (givens.map Given.flag).Nodup := by
  rw [resolve_flatMap_arguments, bind_eq_ok] at h
  obtain ⟨c, hc, -⟩ := h
  exact (chosen_of_foldlM hc).distinct

end

/-- Flags that are given once each, in any order and spelling and with valid values, always resolve,
and to the same settings: each is what its flag gives, else what its variable gives, else the usual
one. Variables of flags that are given may hold anything. Flags that are given more than once never
resolve. -/
theorem resolve_givens :
    (∀ (givens : List Given) (environment : List (String × String)),
      (givens.map Given.flag).Nodup → (∀ g ∈ givens, ∃ v, g.flag.Means g.text v) →
      (∀ flag ∉ givens.map Given.flag, ∀ text,
        environment.lookup flag.variableName = some text → ∃ v, flag.Means text v) →
      ∃ s, (∀ givens', givens.Perm givens' →
          resolve (givens'.flatMap Given.arguments) environment = .ok s) ∧
        ∀ flag, Source givens environment s flag) ∧
    ∀ (givens : List Given) (environment : List (String × String)) (s : Settings),
      ¬(givens.map Given.flag).Nodup →
        resolve (givens.flatMap Given.arguments) environment ≠ .ok s := by
  constructor
  · intro givens environment hdistinct hgivens henvironment
    obtain ⟨s, -, hsource⟩ := exists_resolve hdistinct hgivens henvironment
    refine ⟨s, ?_, hsource⟩
    intro givens' hperm
    have hflags := hperm.map Given.flag
    obtain ⟨t, ht, hsource'⟩ := exists_resolve (hflags.nodup_iff.1 hdistinct)
      (fun g hg => hgivens g (hperm.mem_iff.2 hg))
      (fun flag hflag => henvironment flag (mt hflags.mem_iff.1 hflag))
    have hsame : s = t := ext_get fun flag =>
      (hsource flag).unique hdistinct ((hsource' flag).perm hperm.symm)
    rw [ht, hsame]
  · intro givens environment s hrepeated h
    exact hrepeated (nodup_of_resolve h)

/-- The value of a flag goes before its variable, here one that holds no number, and a variable goes
before the usual value. A flag that is given in both spellings is given twice. -/
theorem resolve_givens_bad_variable :
    let environment := [("PORT", "none"), ("REQLINE_TIMEOUT_MS", "5")]
    let settings : Settings := { host := "h", port := 80, timeout := 5 }
    resolve ["--host", "h", "--port=+80"] environment = .ok settings ∧
      resolve ["--port=+80", "--host", "h"] environment = .ok settings ∧
      resolve ["--host", "h", "--host=h"] environment ≠ .ok settings := by
  intro environment settings
  let host : Given := .apart .host "h" (by decide)
  let port : Given := .attached .port "+80"
  have hport : Flag.Means .port "+80" (80 : UInt16) :=
    Text.integerNumeral?_eq_some_iff.1 (by decide)
  have hgivens : ∀ g ∈ [host, port], ∃ v, g.flag.Means g.text v := by
    intro g hg
    rcases List.mem_pair.1 hg with rfl | rfl
    · exact ⟨"h", rfl⟩
    · exact ⟨_, hport⟩
  have henvironment : ∀ flag ∉ [host, port].map Given.flag, ∀ text,
      environment.lookup flag.variableName = some text → ∃ v, flag.Means text v := by
    intro flag hflag text htext
    cases flag with
    | host => exact absurd List.mem_cons_self hflag
    | port => exact absurd (List.mem_cons_of_mem _ List.mem_cons_self) hflag
    | timeout =>
      cases htext
      exact ⟨(5 : UInt64), Text.signedNumeral?_eq_some_iff.1 (by decide)⟩
    | logFilter => exact ⟨text, rfl⟩
    | logFormat => cases htext
  obtain ⟨s, hs, -⟩ := resolve_givens.1 [host, port] environment (by decide) hgivens henvironment
  have hfirst := hs [host, port] (List.Perm.refl _)
  have hresolve : resolve ([host, port].flatMap Given.arguments) environment = .ok settings := by
    decide +kernel
  obtain rfl : s = settings := Except.ok.inj (hfirst.symm.trans hresolve)
  refine ⟨hfirst, hs [port, host] (List.Perm.swap _ _ _), ?_⟩
  exact resolve_givens.2 [host, .attached .host "h"] environment _ (by decide)

end RequestLine.Settings
