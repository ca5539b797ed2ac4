/-!
# Sections of a line

A line is cut at its delimiters, a pipe with one space on each side. Delimiters are found from left
to right and do not overlap.
-/

namespace RequestLine.Line

/-- What stands between two sections. -/
def delimiter : List Char := [' ', '|', ' ']

/-- The number of pipes in a line. -/
def pipes (line : List Char) : Nat :=
  line.count '|'

/-- The number of delimiters in a line. -/
def delimiters : List Char → Nat
  | ' ' :: '|' :: ' ' :: rest => delimiters rest + 1
  | _ :: rest => delimiters rest
  | [] => 0

/-- Puts a character at the start of the first section. -/
def consFirst (c : Char) : List (List Char) → List (List Char)
  | [] => [[c]]
  | first :: rest => (c :: first) :: rest

/-- The sections of a line. -/
def split : List Char → List (List Char)
  | ' ' :: '|' :: ' ' :: rest => [] :: split rest
  | c :: rest => consFirst c (split rest)
  | [] => [[]]

/-- The line that sections make up. -/
def join (sections : List (List Char)) : List Char :=
  List.intercalate delimiter sections

/-- Whether a line has two spaces in a row. -/
def hasDoubleSpace : List Char → Bool
  | ' ' :: ' ' :: _ => true
  | _ :: rest => hasDoubleSpace rest
  | [] => false

end RequestLine.Line
