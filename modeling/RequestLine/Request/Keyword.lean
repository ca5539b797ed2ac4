/-!
# Keywords

The names of the sections that may follow the address in a request line.
-/

namespace RequestLine

/-- The sections that a request line may have after its address. -/
inductive Keyword where
  | headers
  | query
  | body
  deriving DecidableEq, Repr

namespace Keyword

/-- The keyword as it is written. -/
def name : Keyword → String
  | .headers => "HEADERS"
  | .query => "QUERY"
  | .body => "BODY"

/-- All keywords, in the order in which they are documented. -/
def all : List Keyword := [.headers, .query, .body]

/-- The keyword that a text writes. -/
def ofName? (text : String) : Option Keyword :=
  all.find? (fun k => k.name == text)

theorem ofName?_name (k : Keyword) : ofName? k.name = some k := by
  cases k <;> decide

end Keyword

end RequestLine
