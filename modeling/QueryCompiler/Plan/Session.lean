import QueryCompiler.Plan.Adapter

/-!
# Sessions

One adapter used for request after request. Two things outlive a request: the relations
loaded by the last execution, which each execution replaces (a request that fails validation
leaves none), and the pagination defaults, which a paginated execution sets for good when the
adapter had none.

Executing on a URL reads the request first; a URL that does not resolve changes nothing.
-/

namespace QueryCompiler

/-- An adapter and the relations loaded by its last execution. -/
structure Session where
  adapter : Adapter
  relations : List String := []

namespace Session

/-- Execute a request: the session after it, the state reached and the failure, if any. -/
def execute (s : Session) (b : Backend) (q : Select) (r : Request) :
    Session × Run × Option PlanError :=
  let (run, err) := s.adapter.execute b q r
  ({ s with relations := run.relations }, run, err)

/-- Execute a request with pagination on; the adapter keeps the defaults it used. -/
def paginate (s : Session) (b : Backend) (q : Select) (r : Request) :
    Session × Run × Option PlanError :=
  execute { s with adapter := s.adapter.paginating } b q r

/-- Read a request from a URL and execute it; a URL error leaves the session as it was. -/
def executeOnUrl (s : Session) (b : Backend) (q : Select) (url : String) :
    Except PlanError (Session × Run × Option PlanError) :=
  match Request.ofUrl url with
  | .error e => .error (.url e)
  | .ok r => .ok (s.execute b q r)

end Session

end QueryCompiler
