import RequestLine.Request.Keyword

/-!
# Faults

The ways in which a request line can break the rules. A line that breaks several has the fault that
is looked for first.
-/

namespace RequestLine.Line

/-- What is wrong with a request line. -/
inductive Fault where
  | missingLine
  | notText
  | missingDelimiter
  | badPipeSpacing
  | methodNotUppercase
  | missingHttpKeyword
  | missingUrlKeyword
  | unsupportedMethod
  | doubleSpace
  | missingKeywordSpace
  | duplicateKeyword (name : String)
  | keywordNotUppercase
  | unknownKeyword (name : String)
  | invalidLiteral (keyword : Keyword)
  deriving DecidableEq, Repr

namespace Fault

/-- The identifier of a fault. -/
def code : Fault → String
  | .missingLine => "MISSING_REQLINE"
  | .notText => "NOT_A_STRING"
  | .missingDelimiter => "MISSING_DELIMITER"
  | .badPipeSpacing => "BAD_PIPE_SPACING"
  | .methodNotUppercase => "METHOD_NOT_UPPERCASE"
  | .missingHttpKeyword => "MISSING_HTTP_KEYWORD"
  | .missingUrlKeyword => "MISSING_URL_KEYWORD"
  | .unsupportedMethod => "UNSUPPORTED_METHOD"
  | .doubleSpace => "DOUBLE_SPACE"
  | .missingKeywordSpace => "MISSING_KEYWORD_SPACE"
  | .duplicateKeyword _ => "DUPLICATE_KEYWORD"
  | .keywordNotUppercase => "KEYWORD_NOT_UPPERCASE"
  | .unknownKeyword _ => "UNKNOWN_KEYWORD"
  | .invalidLiteral _ => "INVALID_SECTION_LITERAL"

/-- What the author of the line is told. -/
def message : Fault → String
  | .missingLine => "Missing 'reqline' in request body"
  | .notText => "Reqline must be a string"
  | .missingDelimiter => "Missing Delimiter"
  | .badPipeSpacing => "Invalid spacing around pipe delimiter"
  | .methodNotUppercase => "HTTP method must be uppercase"
  | .missingHttpKeyword => "Missing required HTTP keyword"
  | .missingUrlKeyword => "Missing required URL keyword"
  | .unsupportedMethod => "Invalid HTTP method. Only GET and POST are supported"
  | .doubleSpace => "Multiple spaces found where single space expected"
  | .missingKeywordSpace => "Missing space after keyword"
  | .duplicateKeyword name => "Duplicate keyword found: " ++ name
  | .keywordNotUppercase => "Keywords must be uppercase"
  | .unknownKeyword name =>
    "Invalid keyword: " ++ name ++ ". Only HEADERS, QUERY, BODY are allowed"
  | .invalidLiteral keyword => "Invalid JSON format in " ++ keyword.name ++ " section"

end Fault

end RequestLine.Line
