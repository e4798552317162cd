import QueryCompiler.Plan.Stages

/-!
# Adapters

An adapter holds what a service allows and assumes: the filter, sort and include allow-lists,
a default sort key and default page and size. Executing a request on it first validates the
request and then runs the stages.

Validation looks at filters, then sorts. A non-empty allow-list must be well formed, and must
admit every filter key (checked in ascending order) or every sort key the request names (in
request order; the default is not checked). The first failure is reported and nothing is built.
-/

namespace QueryCompiler

/-- What a service allows and assumes. -/
structure Adapter where
  filters : AllowList FilterRule := {}
  sorts : AllowList SortRule := {}
  includes : AllowList String := {}
  defaultSort : Option SortKey := none
  pagination : Option PageDefaults := none

namespace Adapter

/-- Check the filter keys against a filter allow-list. -/
def validateFilters (allow : AllowList FilterRule) (r : Request) : Except PlanError Unit :=
  if allow.isEmpty then .ok ()
  else do
    allow.checkStructure
    match r.filters.keys.find? (fun k => !allow.contains k) with
    | some k => .error (.invalidFilter k)
    | none => .ok ()

/-- Check the requested sort keys against a sort allow-list. -/
def validateSorts (allow : AllowList SortRule) (r : Request) : Except PlanError Unit :=
  if allow.isEmpty then .ok ()
  else do
    allow.checkStructure
    match r.sort.find? (fun x => !allow.contains x.name) with
    | some x => .error (.invalidSort x.name)
    | none => .ok ()

/-- Check a request against every allow-list. -/
def validate (a : Adapter) (r : Request) : Except PlanError Unit := do
  validateFilters a.filters r
  validateSorts a.sorts r

/-- The steps that compile a request. -/
def steps (a : Adapter) (r : Request) : List Step :=
  Stages.filters a.filters r ++ Stages.search a.filters r ++
    Stages.sorts a.sorts a.defaultSort r ++ Stages.includes a.includes r ++
    Stages.window a.pagination r

/-- Validate a request and compile it onto a query through a backend: the state reached (query,
request with its defaults written back, loaded relations) and the failure, if any. -/
def execute (b : Backend) (a : Adapter) (q : Select) (r : Request) : Run × Option PlanError :=
  let start : Run := { query := q, request := r }
  match a.validate r with
  | .error e => (start, some e)
  | .ok () => Run.perform b start (a.steps r)

/-- The adapter that paginates every request: standard defaults unless some are set. -/
def paginating (a : Adapter) : Adapter :=
  match a.pagination with
  | some _ => a
  | none => { a with pagination := some PageDefaults.standard }

/-- A request that fails validation leaves the query, the request and the relations as they
were. -/
theorem execute_of_validate_error (b : Backend) (a : Adapter) (q : Select) (r : Request)
    (e : PlanError) (h : a.validate r = .error e) :
    a.execute b q r = ({ query := q, request := r }, some e) := by
  simp [execute, h]

end Adapter

end QueryCompiler
