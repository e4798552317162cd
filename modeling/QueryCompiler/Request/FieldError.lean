import QueryCompiler.Text.Decimal
import QueryCompiler.Text.Quoted

/-!
# Field errors

A `page` or `size` value that is not an integer does not stop a request from being read: it is
recorded, the field stays unset, and the rest of the request stays usable. The record is shown
as `page parse error: "<value>": <reason>`, with the value quoted for display.
-/

namespace QueryCompiler

/-- The numeric parameters of a request. -/
inductive Param where
  | page
  | size
  deriving DecidableEq, Repr

/-- The parameter's name in a query string. -/
def Param.name : Param → String
  | .page => "page"
  | .size => "size"

/-- A numeric parameter whose value could not be read. -/
structure FieldError where
  param : Param
  value : String
  cause : IntError
  deriving DecidableEq, Repr

/-- The display text of a field error. -/
def FieldError.message (e : FieldError) : String :=
  e.param.name ++ " parse error: " ++ Text.quoted e.value ++ ": " ++ e.cause.message

end QueryCompiler
