import QueryCompiler.Json.Write
import QueryCompiler.Url.Error

/-!
# Plan errors

Why a request could not be turned into a query plan, and how each reason is reported.

* The request is at fault (status 400): its URL does not resolve, or it names a filter or a
  sort that the allow-list does not admit.
* The server is at fault (status 500): an allow-list or adapter is misconfigured, or an
  operation failed while it was applied.

Each failure also has a stable code, the one a command line prints in front of the message.
-/

namespace QueryCompiler

/-- The stable codes that classify failures. -/
inductive FailureCode where
  | configError
  | ioError
  | invalidUrl
  | rejected
  | planFailed
  deriving DecidableEq, Repr

/-- The text of a failure code. -/
def FailureCode.text : FailureCode → String
  | .configError => "AEROQUERY_CLI_CONFIG_ERROR"
  | .ioError => "AEROQUERY_CLI_IO_ERROR"
  | .invalidUrl => "AEROQUERY_CLI_INVALID_URL"
  | .rejected => "AEROQUERY_CLI_REJECTED"
  | .planFailed => "AEROQUERY_CLI_PLAN_FAILED"

/-- Why a plan could not be made. -/
inductive PlanError where
  /-- The request's URL does not resolve. -/
  | url (e : Url.UrlError)
  /-- A filter key the allow-list does not admit. -/
  | invalidFilter (key : String)
  /-- A sort name the allow-list does not admit. -/
  | invalidSort (name : String)
  /-- An allow-list or adapter is malformed. -/
  | configuration (reason : String)
  /-- An operation failed while it was applied. -/
  | operation (reason : String)
  deriving DecidableEq, Repr

namespace PlanError

/-- The name of the kind of error. -/
def kind : PlanError → String
  | .url _ => "Url"
  | .invalidFilter _ => "InvalidFilter"
  | .invalidSort _ => "InvalidSort"
  | .configuration _ => "Configuration"
  | .operation _ => "Operation"

/-- The display text of the error. -/
def message : PlanError → String
  | .url e => "Invalid URL: " ++ e.message
  | .invalidFilter k => "invalid filter key " ++ k ++ ", filters contains an invalid filter"
  | .invalidSort k => "invalid sort key " ++ k ++ ", sorts contains an invalid sort"
  | .configuration r => "Configuration error: " ++ r
  | .operation r => "Operation failed: " ++ r

/-- The HTTP status that reports the error: 400 when the request is at fault, else 500. -/
def status : PlanError → Nat
  | .url _ | .invalidFilter _ | .invalidSort _ => 400
  | .configuration _ | .operation _ => 500

/-- Whether the request, not the server, is at fault. -/
def isClientError (e : PlanError) : Bool :=
  400 ≤ e.status && e.status < 500

/-- The failure code of the error. -/
def code : PlanError → FailureCode
  | .url _ => .invalidUrl
  | .invalidFilter _ | .invalidSort _ => .rejected
  | .configuration _ => .configError
  | .operation _ => .planFailed

/-- The body of the HTTP response that reports the error: its text, then its status. -/
def responseBody (e : PlanError) : Json :=
  .obj [("error", .str e.message), ("code", .int e.status)]

/-- The response body as sent: compact JSON text. -/
def responseText (e : PlanError) : String :=
  Json.compact e.responseBody

/-- The content type of the response. -/
def responseType : String := "application/json"

/-- The errors that blame the request are exactly those of status 400. -/
theorem isClientError_iff (e : PlanError) : e.isClientError = true ↔ e.status = 400 := by
  cases e <;> simp [isClientError, status]

end PlanError

end QueryCompiler
