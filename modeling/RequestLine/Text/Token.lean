/-!
# Tokens

The characters of names in headers and media types.
-/

namespace RequestLine.Text

/-- Whether a character may stand in a token: an ASCII letter or digit, or one of 15 marks. -/
def isTokenChar (c : Char) : Bool :=
  c.isAlphanum ||
    ['!', '#', '$', '%', '&', '\'', '*', '+', '-', '.', '^', '_', '\x60', '|', '~'].contains c

/-- Whether a text is a token. -/
def isToken (text : List Char) : Bool :=
  !text.isEmpty && text.all isTokenChar

end RequestLine.Text
