import QueryCompiler.Plan.Select
import QueryCompiler.Plan.Error

/-!
# Builder calls

A plan reaches its query only through five calls: add a predicate, add a group of
alternatives, add an ordering, set the row window, and ask for a relation to be loaded. Each
call only adds to the query (the window replaces the one set before), and an empty group of
alternatives adds nothing.

A backend receives the calls. It may refuse some kinds of call: a refused call fails with
`<method> unsupported` and leaves the query as it was.
-/

namespace QueryCompiler

/-- The kinds of builder call. -/
inductive Method where
  | addPredicate
  | addAnyOf
  | orderBy
  | offsetLimit
  | eagerLoad
  deriving DecidableEq, Repr

/-- The name of a kind of call. -/
def Method.name : Method → String
  | .addPredicate => "add_predicate"
  | .addAnyOf => "add_or_predicates"
  | .orderBy => "order_by"
  | .offsetLimit => "offset_limit"
  | .eagerLoad => "eager_load"

/-- The kind of call a name stands for. -/
def Method.ofName? (s : String) : Option Method :=
  [Method.addPredicate, .addAnyOf, .orderBy, .offsetLimit, .eagerLoad].find? (·.name == s)

/-- One call to a query builder. -/
inductive Call where
  | addPredicate (p : Predicate)
  | addAnyOf (ps : List Predicate)
  | orderBy (o : Order)
  | offsetLimit (offset limit : Int)
  | eagerLoad (relation : String)
  deriving DecidableEq, Repr

/-- The kind of a call. -/
def Call.method : Call → Method
  | .addPredicate _ => .addPredicate
  | .addAnyOf _ => .addAnyOf
  | .orderBy _ => .orderBy
  | .offsetLimit _ _ => .offsetLimit
  | .eagerLoad _ => .eagerLoad

/-- The query after a call. -/
def Select.record (q : Select) : Call → Select
  | .addPredicate p => { q with conditions := q.conditions ++ [.all p] }
  | .addAnyOf [] => q
  | .addAnyOf ps => { q with conditions := q.conditions ++ [.any ps] }
  | .orderBy o => { q with orders := q.orders ++ [o] }
  | .offsetLimit o l => { q with offset := some o, limit := some l }
  | .eagerLoad r => { q with preloads := q.preloads ++ [r] }

/-- The query after a sequence of calls. -/
def Select.replay (q : Select) (cs : List Call) : Select :=
  cs.foldl Select.record q

/-- A receiver of builder calls that refuses the kinds of call listed. -/
structure Backend where
  refused : List Method := []
  deriving DecidableEq, Repr

namespace Backend

/-- A backend that takes every call. -/
def accepting : Backend := {}

/-- The error of a refused call. -/
def refusal (m : Method) : PlanError :=
  .operation (m.name ++ " unsupported")

/-- Send a call to the backend: the query after it, or the refusal. -/
def send (b : Backend) (q : Select) (c : Call) : Except PlanError Select :=
  if b.refused.contains c.method then .error (refusal c.method) else .ok (q.record c)

/-- A backend that refuses nothing records every call. -/
theorem send_accepting (q : Select) (c : Call) : accepting.send q c = .ok (q.record c) := by
  simp [send, accepting]

end Backend

end QueryCompiler
