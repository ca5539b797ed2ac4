import RequestLine.Json.Value
import RequestLine.Request.Keyword
import RequestLine.Text.Numeral
import RequestLine.Text.Quoted
import RequestLine.Url.Error

/-!
# Failures

What can go wrong once a line has been accepted: no request can be built from its descriptor, the
request cannot be carried out, or the answer to it is no success. Writing a value as text is not
among the causes, since every value has a text (`Json.render`).
-/

namespace RequestLine

/-- Why there is no answer to a request. -/
inductive Undelivered where
  /-- The request could not be sent, or its answer not be received. -/
  | broken (reason : String)
  /-- Whatever was to send the request broke down itself, with what is told about that. -/
  | crashed (reason : String)
  deriving DecidableEq, Repr

/-- The text of such a cause. -/
def Undelivered.message : Undelivered → String
  | .broken reason => "request failed: " ++ reason
  | .crashed reason => reason

/-- Why a descriptor could not be carried out. -/
inductive Failure where
  /-- The address is not an absolute one. -/
  | badUrl (url : String) (cause : Url.Error)
  /-- A section that has to be an object is something else. -/
  | notObject (part : Keyword) (found : Json.Kind)
  /-- The answer has a status outside 200 to 299. -/
  | badStatus (status : UInt16) (body : String)
  /-- There is no answer. -/
  | undelivered (cause : Undelivered)
  deriving DecidableEq, Repr

/-- The text of a failure. -/
def Failure.message : Failure → String
  | .badUrl url cause => "invalid url " ++ Text.quoted url ++ ": " ++ cause.message
  | .notObject part found => part.name ++ " must be a JSON object, found " ++ found.name
  | .badStatus status body =>
    "upstream returned HTTP " ++ String.ofList (Text.decimal status.toNat) ++ ": " ++ body
  | .undelivered cause => "transport failed: " ++ cause.message

end RequestLine
