import RequestLine.Text.Numeral
import RequestLine.Text.Pieces

/-!
# Tables over code points

Properties of characters are data of the Unicode standard. A table is kept as text: entries divided
by blanks, each a code point or a run of them in hexadecimal, followed by a note.

* `41` is one code point, `41-5A` a run of neighbours, `100/12E` every second code point of a run;
* the note is all that follows, and each table says what it means.

Entries are in ascending order and do not overlap, so a look-up halves the table at each step.
-/

namespace RequestLine.Text

/-- A run of code points that share one datum. -/
structure CodeRun (α : Type) where
  first : Nat
  last : Nat
  /-- The distance between members of the run. -/
  step : Nat
  datum : α

/-- Runs of code points in ascending order. -/
structure CodeTable (α : Type) where
  runs : Array (CodeRun α)

/-- The number that a list of hexadecimal digits writes; other characters count as zero. -/
def hexValue (digits : List Char) : Nat :=
  digits.foldl (fun n c => 16 * n + (hexDigit? c).getD 0) 0

/-- The pieces of a text between blanks and line ends. -/
def words (text : List Char) : List (List Char) :=
  let (done, word) := text.foldl
    (fun (done, word) c =>
      if c = ' ' ∨ c = '\n' then (word.reverse :: done, []) else (done, c :: word)) ([], [])
  (word.reverse :: done).reverse.filter (! ·.isEmpty)

/-- The pieces of a text between dots. -/
def dotted (text : List Char) : List (List Char) :=
  pieces (· == '.') text

namespace CodeRun

variable {α : Type}

/-- Reads one entry of a table. -/
def ofWord (datum : List Char → α) (word : List Char) : CodeRun α :=
  let isHex := fun c => (hexDigit? c).isSome
  let (low, rest) := word.span isHex
  match rest with
  | '-' :: rest =>
    let (high, note) := rest.span isHex
    ⟨hexValue low, hexValue high, 1, datum note⟩
  | '/' :: rest =>
    let (high, note) := rest.span isHex
    ⟨hexValue low, hexValue high, 2, datum note⟩
  | note => ⟨hexValue low, hexValue low, 1, datum note⟩

end CodeRun

namespace CodeTable

variable {α : Type}

/-- Reads a table, with the meaning of its notes. -/
def ofText (datum : List Char → α) (text : String) : CodeTable α :=
  ⟨((words text.toList).map (CodeRun.ofWord datum)).toArray⟩

/-- The run that holds `code`, among those at places `lo` up to but not including `hi`. -/
def search (table : CodeTable α) (code lo hi : Nat) : Option (CodeRun α) :=
  if lo < hi then
    let mid := (lo + hi) / 2
    match table.runs[mid]? with
    | none => none
    | some run =>
      if code < run.first then search table code lo mid
      else if run.last < code then search table code (mid + 1) hi
      else if (code - run.first) % run.step = 0 then some run
      else none
  else none
termination_by hi - lo

/-- The run that holds a character. -/
def find? (table : CodeTable α) (c : Char) : Option (CodeRun α) :=
  table.search c.toNat 0 table.runs.size

/-- Whether a character is listed. -/
def contains (table : CodeTable α) (c : Char) : Bool :=
  (table.find? c).isSome

end CodeTable

end RequestLine.Text
