import BlockQuery.Json.Fault
import BlockQuery.Json.Value

/-!
# Failures of the services

Why a request was not answered. A failure has three faces: its message, for logs; its public
message, which says no more than a caller may know; and a body to send back. The body tells the
detail of a failure only in development, and never for a request that was wrong in the first place.
-/

namespace BlockQuery

/-- Why a request was not answered. -/
inductive Failure where
  /-- The query is missing, not a text, or blank. -/
  | invalidQuery
  /-- The search mode is unknown. -/
  | invalidMode (given : String)
  /-- Tweets could not be had. -/
  | fetch (detail : String)
  /-- Blocks could not be had. -/
  | interpretation (detail : String)
  /-- An analysis could not be had. -/
  | analysis (detail : String)
  /-- A service gave an answer of another shape. -/
  | malformed (detail : String)
  /-- A service was not reached or refused. -/
  | transport (detail : String)
  deriving DecidableEq, Repr

/-- What a caller is sent in place of an answer. -/
structure FailureBody where
  error : String
  detail : Option String
  query : Option String
  deriving DecidableEq, Repr

namespace Failure

/-- The message of a failure. -/
def message : Failure → String
  | invalidQuery => "Invalid query parameter"
  | invalidMode given => s!"Invalid section parameter: {given}"
  | fetch detail => s!"Failed to fetch results from search API: {detail}"
  | interpretation detail => s!"Failed to process natural language query: {detail}"
  | analysis detail => s!"Analysis failed: {detail}"
  | malformed detail => s!"Malformed upstream response: {detail}"
  | transport detail => s!"HTTP error: {detail}"

/-- Whether the request was wrong in the first place. -/
def isValidation : Failure → Bool
  | invalidQuery => true
  | invalidMode _ => true
  | _ => false

/-- The status to answer with. -/
def status (f : Failure) : Nat :=
  if f.isValidation then 400 else 500

/-- What any caller may know. -/
def publicMessage : Failure → String
  | invalidQuery => "Invalid query parameter"
  | invalidMode _ => "Invalid section parameter"
  | fetch _ => "Failed to fetch results from Twitter API"
  | interpretation _ => "Failed to process natural language query"
  | malformed _ => "Failed to process natural language query"
  | analysis _ => "Analysis service temporarily unavailable"
  | transport _ => "Upstream service unavailable"

/-- The detail of a failure, unless the request was wrong. -/
def detail? : Failure → Option String
  | invalidQuery => none
  | invalidMode _ => none
  | fetch detail => some detail
  | interpretation detail => some detail
  | analysis detail => some detail
  | malformed detail => some detail
  | transport detail => some detail

/-- The body to send, in development or not. -/
def body (f : Failure) (development : Bool) : FailureBody where
  error := f.publicMessage
  detail := if development then f.detail? else none
  query := none

/-- The failure of an answer that is not what it should be, with the place of the fault. -/
def ofFault (f : Json.Fault) (place : Json.Place := .unknown) : Failure :=
  .malformed (f.messageAt place)

end Failure

namespace FailureBody

/-- The body with the query that the request asked for. -/
def withQuery (b : FailureBody) (query : String) : FailureBody :=
  { b with query := some query }

/-- The members of a body. -/
def toJson (b : FailureBody) : Json :=
  .object <|
    [("error", .text b.error)] ++ Json.optionalMember "errorDetail" (b.detail.map .text) ++
    Json.optionalMember "originalQuery" (b.query.map .text)

end FailureBody

end BlockQuery
