import RequestLine.Event
import RequestLine.Text.Alphanumeric
import RequestLine.Text.Blank
import RequestLine.Text.Numeral
import RequestLine.Text.Pieces

/-!
# Filters

Which events a log shows. A filter is a list of directives divided by commas, each of one of the
forms

    level
    target
    target=level
    target[span]=level
    target[span{field}]=level

where every part but one may be left out. A directive with a span is about what happens inside that
span; there are no spans here, so it admits nothing. Of those that are about an event the most
specific one decides: the longest target, then the most fields.
-/

namespace RequestLine.Log

/-! ## Thresholds -/

/-- How much detail is shown: nothing, or all events up to a level. -/
inductive Threshold where
  | off
  | upTo (level : Level)
  deriving DecidableEq, Repr

namespace Threshold

/-- Whether events of a level are shown. -/
def admits : Threshold → Level → Bool
  | .off, _ => false
  | .upTo most, level => level.rank ≤ most.rank

/-- All thresholds with their names, in the order of their numbers. -/
def all : List (String × Threshold) :=
  [("off", .off), ("error", .upTo .error), ("warn", .upTo .warn), ("info", .upTo .info),
    ("debug", .upTo .debug), ("trace", .upTo .trace)]

/-- The threshold with a number or a name, in which case does not matter. -/
def ofText? (text : List Char) : Option Threshold :=
  let numbered := (Text.signedNumeral? text).bind fun n => all[n]?
  match numbered with
  | some (_, threshold) => some threshold
  | none => all.lookup (String.ofList (text.map Char.toLower))

end Threshold

/-! ## Directives -/

/-- Why a text is no filter. -/
inductive FilterError where
  | badDirective
  | badLevel
  deriving DecidableEq, Repr

/-- The text of such a cause. -/
def FilterError.message : FilterError → String
  | .badDirective => "invalid filter directive"
  | .badLevel => "error parsing level filter: expected one of \"off\", \"error\", \"warn\", " ++
      "\"info\", \"debug\", \"trace\", or a number 0-5"

/-- A field that a directive asks for: its name, and its value if that matters too. -/
structure FieldMatch where
  name : List Char
  value? : Option (List Char)
  deriving DecidableEq, Repr

/-- One directive of a filter. -/
structure Directive where
  target? : Option (List Char) := none
  span? : Option (List Char) := none
  field? : Option FieldMatch := none
  threshold : Threshold := .upTo .trace
  deriving DecidableEq, Repr

namespace Directive

/-- The place of the first character of a class in a text, from a place on, and that character. -/
def find? (inClass : Char → Bool) (text : List Char) (start : Nat) : Option (Nat × Char) :=
  match (text.drop start).span (! inClass ·) with
  | (before, c :: _) => some (start + before.length, c)
  | (_, []) => none

/-- The part of a text from one place up to another. -/
def cut (text : List Char) (start stop : Nat) : List Char :=
  (text.take stop).drop start

/-- A text that has no leading or trailing blanks, in which marks are looked for, and the text as it
was given, from which the parts are cut at the places of the marks. -/
structure Source where
  trimmed : List Char
  given : List Char

/-- The threshold that stands from a place on. None at all shows everything. -/
def thresholdAt (s : Source) (start : Nat) : Except FilterError Threshold :=
  let text := s.given.drop start
  if text.isEmpty then .ok (.upTo .trace)
  else match Threshold.ofText? text with
    | some threshold => .ok threshold
    | none => .error .badLevel

/-- What follows a closed span at a place: nothing, or a threshold behind an equals sign. -/
def closed (s : Source) (d : Directive) (start : Nat) : Except FilterError Directive :=
  match s.trimmed.drop start with
  | [] => .ok d
  | '=' :: _ => do return { d with threshold := ← thresholdAt s (start + 1) }
  | _ => .error .badDirective

/-- The field that a text asks for. -/
def fieldOf (text : List Char) : FieldMatch :=
  match Text.pieces (· == '=') text with
  | name :: value :: _ => ⟨name, some value⟩
  | _ => ⟨text, none⟩

/-- The span that starts at a place behind its bracket. -/
def spanAt (s : Source) (d : Directive) (start : Nat) : Except FilterError Directive :=
  match find? (fun c => c == ']' || c == '\x7b') s.trimmed start with
  | none => .error .badDirective
  | some (stop, mark) =>
    let name := cut s.given start stop
    if mark = ']' then closed s { d with span? := some name } (stop + 1)
    else
      let d := { d with span? := if name.isEmpty then none else some name }
      match find? (· == '\x7d') s.trimmed (stop + 1) with
      | none => .error .badDirective
      | some (fieldStop, _) =>
        let field := cut s.given (stop + 1) fieldStop
        if field.isEmpty ∨ (s.trimmed.drop (fieldStop + 1)).head? ≠ some ']' then
          .error .badDirective
        else closed s { d with field? := some (fieldOf field) } (fieldStop + 2)

/-- What a directive without marks means: a threshold, or a target of which everything is shown. -/
def bare (text : List Char) : Directive :=
  match Threshold.ofText? text with
  | some threshold => { threshold }
  | none => { target? := some text }

/-- Whether a target may start with a character. -/
def startsTarget (c : Char) : Bool :=
  ['-', ':', '_'].contains c || Text.isAlphanumeric c

/-- Reads a directive. -/
def parse (given : List Char) : Except FilterError Directive :=
  let s : Source := ⟨Text.trim given, given⟩
  match s.trimmed with
  | [] => .error .badDirective
  | '[' :: _ => spanAt s {} 1
  | c :: _ =>
    if ¬startsTarget c then .error .badDirective
    else match find? (fun c => c == '=' || c == '[') s.trimmed 0 with
      | none => .ok (bare given)
      | some (stop, mark) =>
        let d : Directive := { target? := some (cut given 0 stop) }
        if mark = '=' then do return { d with threshold := ← thresholdAt s (stop + 1) }
        else spanAt s d (stop + 1)

/-- Whether a directive can be about events that are in no span. -/
def isPlain (d : Directive) : Bool :=
  d.span?.isNone && d.field?.all (·.value?.isNone)

/-- Whether a directive is about spans or fields at all. -/
def isNarrow (d : Directive) : Bool :=
  d.span?.isSome || d.field?.isSome

end Directive

/-! ## Rules -/

/-- What a filter says about some of the events. -/
structure Rule where
  target? : Option String
  field? : Option String
  threshold : Threshold
  deriving DecidableEq, Repr

namespace Rule

/-- The rule of a directive that can be about events in no span. -/
def ofDirective? (d : Directive) : Option Rule :=
  if d.isPlain then
    some ⟨d.target?.map String.ofList, d.field?.map (String.ofList ·.name), d.threshold⟩
  else none

/-- Whether a rule is about an event. -/
def isAbout (r : Rule) (e : Event) : Bool :=
  r.target?.all (fun target => target.toList.isPrefixOf e.target.toList) &&
    r.field?.all fun field => e.fields.any (·.1 == field)

/-- How specific a rule is: whether it has a target and how long that is, and its fields. -/
def weight (r : Rule) : Nat × Nat :=
  (match r.target? with
    | some target => target.utf8ByteSize + 1
    | none => 0,
   r.field?.toList.length)

/-- Whether a rule comes before another: the more specific one, and of two equally specific ones
that with the later target, then that with the later field. -/
def isBefore (a b : Rule) : Bool :=
  let key (r : Rule) := (r.target?.getD "", r.field?.getD "")
  if a.weight.1 ≠ b.weight.1 then b.weight.1 < a.weight.1
  else if a.weight.2 ≠ b.weight.2 then b.weight.2 < a.weight.2
  else if (key a).1 ≠ (key b).1 then (key b).1 < (key a).1
  else (key b).2 < (key a).2

/-- Whether two rules are about the same events. -/
def isAlike (a b : Rule) : Bool :=
  a.target? == b.target? && a.field? == b.field?

/-- Puts a rule in its place; it replaces one about the same events. -/
def insert (r : Rule) : List Rule → List Rule
  | [] => [r]
  | other :: rest =>
    if r.isAlike other then r :: rest
    else if r.isBefore other then r :: other :: rest
    else other :: insert r rest

end Rule

/-! ## Filters -/

/-- A filter: its rules, those that come first decide. -/
structure Filter where
  rules : List Rule
  deriving DecidableEq, Repr

namespace Filter

/-- The filter of directives. Without any only errors are shown. -/
def ofDirectives (directives : List Directive) : Filter :=
  if directives.isEmpty then ⟨[⟨none, none, .upTo .error⟩]⟩
  else
    let broad := directives.filter (! ·.isNarrow)
    let narrow := directives.filter (·.isNarrow)
    ⟨((broad ++ narrow).filterMap Rule.ofDirective?).foldl (fun rules r => r.insert rules) []⟩

/-- Reads a filter. -/
def parse (text : String) : Except FilterError Filter := do
  let given := (Text.pieces (· == ',') text.toList).filter (! ·.isEmpty)
  return ofDirectives (← given.mapM Directive.parse)

/-- Whether a filter shows an event. -/
def admits (f : Filter) (e : Event) : Bool :=
  match f.rules.find? (·.isAbout e) with
  | some r => r.threshold.admits e.level
  | none => false

end Filter

end RequestLine.Log
