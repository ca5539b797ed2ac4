import RequestLine.Json.Reader

/-!
# Misfits

A text can follow the grammar of JSON and still write no value: what is marked as an embedded text
has to be a text, and that text has to write a value. Such a misfit is told apart from the faults of
the grammar. Texts are read from left to right, so only the first fault of a text counts, and what
stands behind it is not looked at.
-/

namespace RequestLine.Json.Reader

/-- Whether the first fault after the mark of an embedded text is a misfit. -/
def embeddingMisfit (embedded : List Char → Option Json) (steps : Nat) (text : List Char) : Bool :=
  match skipSpaces text with
  | ':' :: rest =>
    match skipSpaces rest with
    | '"' :: rest =>
      match stringRest steps rest with
      | some (found, _) => (embedded found.toList).isNone
      | none => false
    -- arrays and objects are refused at their first character, other values once they are read
    | '[' :: _ | '\x7b' :: _ => true
    | rest => (scalar steps rest).isSome
  | _ => false

/-- Whether the first fault in the items of an array is a misfit, given how an item is read and
whether the first fault of one that is not read is a misfit. -/
def itemsMisfit {α : Type} (item : Scan α) (misfit : List Char → Bool) : Nat → List Char → Bool
  | 0, _ => false
  | steps + 1, text =>
    match item text with
    | none => misfit text
    | some (_, rest) =>
      match skipSpaces rest with
      | ',' :: rest => itemsMisfit item misfit steps rest
      | _ => false

/-- Whether the first fault in the members of an object is a misfit, given how a name and a value are
read and whether the first fault of a value that is not read is a misfit. -/
def membersMisfit {ν α : Type} (name : Scan ν) (value : Scan α) (misfit : List Char → Bool) :
    Nat → List Char → Bool
  | 0, _ => false
  | steps + 1, text =>
    match name text with
    | none => false
    | some (_, rest) =>
      match skipSpaces rest with
      | ':' :: rest =>
        match value rest with
        | none => misfit rest
        | some (_, rest) =>
          match skipSpaces rest with
          | ',' :: rest => membersMisfit name value misfit steps rest
          | _ => false
      | _ => false

/-- Whether the first fault of a value is a misfit. -/
def valueMisfit (embedded : List Char → Option Json) (steps : Nat) :
    (depth : Nat) → List Char → Bool
  | 0, _ => false
  | depth + 1, text =>
    match skipSpaces text with
    | '[' :: rest =>
      match skipSpaces rest with
      | ']' :: _ => false
      | _ => itemsMisfit (value embedded steps depth) (valueMisfit embedded steps depth) steps rest
    | '\x7b' :: rest =>
      match embedding? steps rest with
      | some rest => embeddingMisfit embedded steps rest
      | none =>
        match skipSpaces rest with
        | '\x7d' :: _ => false
        | _ =>
          membersMisfit (string steps) (value embedded steps depth)
            (valueMisfit embedded steps depth) steps rest
    | _ => false

end RequestLine.Json.Reader

namespace RequestLine.Json

/-- Whether the first fault of a text that writes no value is a misfit. -/
def misfit (text : List Char) : Bool :=
  Reader.valueMisfit (parseWithin text.length) text.length Reader.maxDepth text

end RequestLine.Json
