import RequestLine.Text.Pieces
import RequestLine.Url.Percent
import RequestLine.Url.Scheme

/-!
# Paths

A path is a list of segments, or a text in which slashes have no meaning. While segments are read,
those of one dot are left out and those of two dots take away the one before. A segment that names a
drive, a letter and a colon, is never taken away.
-/

namespace RequestLine.Url

/-- A path. -/
inductive Path where
  | segments (parts : List (List Char))
  | free (text : List Char)
  deriving DecidableEq, Repr

namespace Path

/-- The text of a path. -/
def render : Path → List Char
  | .segments parts => parts.flatMap ('/' :: ·)
  | .free text => text

/-- A segment in which an escaped dot is a dot. -/
def withDots : List Char → List Char
  | '%' :: '2' :: 'e' :: rest | '%' :: '2' :: 'E' :: rest => '.' :: withDots rest
  | c :: rest => c :: withDots rest
  | [] => []

/-- Whether a segment means the path itself. -/
def isHere (segment : List Char) : Bool :=
  withDots segment == ['.']

/-- Whether a segment means the path without its last segment. -/
def isParent (segment : List Char) : Bool :=
  withDots segment == ['.', '.']

/-- Whether a segment names a drive. A bar may stand for the colon. -/
def isDrive : List Char → Bool
  | [letter, mark] => letter.isAlpha && (mark == ':' || mark == '|')
  | _ => false

/-- Whether a segment cannot be taken away: it names a drive, or does up to a backslash. -/
def isFixed (segment : List Char) : Bool :=
  isDrive (segment.takeWhile (· != '\\'))

/-- The path without its last segment, the last segments first. -/
def up : List (List Char) → List (List Char)
  | [] => []
  | last :: before => if isFixed last then last :: before else before

/-- Adds a segment that is no dot segment. The first segment of a file's path that names a drive
does so with a colon. -/
def push (family : Family) (path : List (List Char)) (segment : List Char) : List (List Char) :=
  match path, segment with
  | [], [letter, mark] =>
    if family = .file ∧ isDrive [letter, mark] then [[letter, ':']] else [segment]
  | _, _ => segment :: path

/-- Goes through a segment with a slash behind it. -/
def enter (family : Family) (path : List (List Char)) (segment : List Char) : List (List Char) :=
  if isParent segment then up path
  else if isHere segment then path
  else push family path segment

/-- Ends in a segment. -/
def settle (family : Family) (path : List (List Char)) (segment : List Char) : List (List Char) :=
  if isParent segment then [] :: up path
  else if isHere segment then [] :: path
  else push family path segment

/-- Goes through all segments but the last and ends in that. -/
def walk (family : Family) : List (List Char) → List (List Char) → List (List Char)
  | path, [] => path
  | path, [last] => settle family path last
  | path, segment :: rest => walk family (enter family path segment) rest

/-- The segments of a text that stands after a slash. -/
def segmentsOf (family : Family) (text : List Char) : List (List Char) :=
  (walk family [] ((Text.pieces family.isSlash text).map (escape inPath))).reverse

/-- The segments without empty ones at their start, of which one is left if there are no others. -/
def withoutEmptyStart (parts : List (List Char)) : List (List Char) :=
  match parts.dropWhile List.isEmpty with
  | [] => [[]]
  | rest => rest

end Path

end RequestLine.Url
