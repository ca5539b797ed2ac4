import RequestLine.Url.Basic

/-!
# Form pairs

Pairs of texts in the query of an address: `name=value`, with `&` between the pairs, a space as `+`
and all bytes but those of letters, digits and four marks as escapes.
-/

namespace RequestLine.Url

/-- Whether a character stands for itself in a form. -/
def isPlainInForm (c : Char) : Bool :=
  c.isAlphanum || ['*', '-', '.', '_'].contains c

/-- A text in a form. -/
def formText (text : List Char) : List Char :=
  text.flatMap fun c =>
    if c = ' ' then ['+'] else if isPlainInForm c then [c] else (Text.utf8 [c]).flatMap escapedByte

/-- A pair in a form. -/
def formPair (name value : String) : List Char :=
  formText name.toList ++ ['='] ++ formText value.toList

/-- The bytes that a text in a form stands for. -/
def formBytes (text : List Char) : List UInt8 :=
  unescape (text.map fun c => if c = '+' then ' ' else c)

/-- The pairs of a form, each part as bytes. Empty pieces are no pairs, and a piece without `=` has
an empty value. -/
def formPairs (form : List Char) : List (List UInt8 × List UInt8) :=
  ((Text.pieces (· == '&') form).filter (! ·.isEmpty)).map fun piece =>
    let (name, rest) := piece.span (· != '=')
    (formBytes name, formBytes (rest.drop 1))

/-- The query with pairs added at its end. -/
def extendedQuery (query? : Option (List Char)) (pairs : List (String × String)) : List Char :=
  let given := (query?.toList).filter (! ·.isEmpty)
  List.intercalate ['&'] (given ++ pairs.map fun (name, value) => formPair name value)

/-- The address with pairs added at the end of its query. No pairs leave it as it is. -/
def withPairs (url : Url) (pairs : List (String × String)) : Url :=
  if pairs.isEmpty then url else { url with query? := some (extendedQuery url.query? pairs) }

end RequestLine.Url
