/-!
# Request methods

The two methods that a request line may name.
-/

namespace RequestLine

/-- A request method. -/
inductive Method where
  | get
  | post
  deriving DecidableEq, Repr

namespace Method

/-- The name of a method, as it stands in a request line and on the wire. -/
def name : Method → String
  | .get => "GET"
  | .post => "POST"

/-- The method with a name. -/
def ofName? (name : String) : Option Method :=
  if name = "GET" then some .get
  else if name = "POST" then some .post
  else none

theorem ofName?_name (m : Method) : ofName? m.name = some m := by
  cases m <;> decide

end Method

end RequestLine
