import Wiring.Datum.Json.Writer
import Wiring.Http.Uri
import Wiring.Serve.Error

/-!
# Requests and responses
-/

namespace Wiring

/-- A request: its method, which may be any token, and its target. -/
structure Request where
  method : String
  uri : Uri := Uri.root
  deriving DecidableEq, Repr, Inhabited

/-- A response. -/
structure Response where
  status : Nat := 200
  contentType : String
  body : String
  deriving DecidableEq, Repr, Inhabited

namespace Request

/-- A request for a target given as text. A text that is no target leaves the root. -/
def ofText (method target : String) : Request :=
  { method, uri := (Uri.ofText? target).getD Uri.root }

end Request

namespace Response

/-- A response with plain text. -/
def text (body : String) : Response :=
  { contentType := "text/plain", body }

/-- A response with a data tree. -/
def json (body : Datum) : Response :=
  { contentType := "application/json", body := Json.compact body }

/-- A response that reports an error. A status of other than three digits becomes 500. -/
def error (status : Nat) (message : String) : Response :=
  { json (.record [("message", .text message)]) with
    status := if 100 ≤ status && status ≤ 999 then status else 500 }

/-- The response to a request that no route takes. -/
def notFound : Response :=
  error 404 "Not Found"

/-- The response that an error becomes. -/
def ofError (e : ServeError) : Response :=
  error e.status e.message

end Response

end Wiring
