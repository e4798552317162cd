import QueryCompiler.Plan.Call
import QueryCompiler.Plan.AllowList
import QueryCompiler.Request.Basic
import QueryCompiler.Text.Quoted

/-!
# Filter and sort rules

The entries of the filter and sort allow-lists.

* A plain name admits the filter (or sort) of that name and compiles it on the column of the
  same name: a filter as a substring match, a sort as a column of the shared ordering.
* An operation declares the names it handles and compiles them itself, as a list of actions:
  builder calls, or a failure of its own. A filter operation reads the whole request; a sort
  operation reads the direction and the name of one sort key.

The built-in filter operations are the exact match and the substring match on one column;
other operations are supplied by the caller.

An entry is shown as `Name("x")` or `Operation(["k1", "k2"])`, with texts quoted for display.
-/

namespace QueryCompiler

/-- What an operation does: a builder call, or a failure of its own. -/
inductive Action where
  | call (c : Call)
  | fail (e : PlanError)
  deriving DecidableEq, Repr

/-- A filter operation. -/
inductive FilterOp where
  /-- The column equals the filter's value. -/
  | exact (column : String)
  /-- The column holds the filter's value as a substring. -/
  | search (column : String)
  /-- A caller's operation for the filter keys it declares. -/
  | custom (keys : List String) (run : Request → List Action)

namespace FilterOp

/-- The filter keys the operation handles. -/
def keys : FilterOp → List String
  | .exact c => [c]
  | .search c => [c]
  | .custom ks _ => ks

/-- What the operation does for a request. -/
def actions (o : FilterOp) (r : Request) : List Action :=
  match o with
  | .exact c => ((r.filters.get? c).map fun v => [.call (.addPredicate (.eq c v))]).getD []
  | .search c => ((r.filters.get? c).map fun v => [.call (.addPredicate (.contains c v))]).getD []
  | .custom _ run => run r

end FilterOp

/-- A sort operation for the sort names it declares. -/
structure SortOp where
  names : List String
  run : Bool → String → List Action

/-- An entry of a filter allow-list. -/
inductive FilterRule where
  | name (column : String)
  | op (o : FilterOp)

/-- An entry of a sort allow-list. -/
inductive SortRule where
  | name (column : String)
  | op (o : SortOp)

instance : Declares FilterRule where
  declared
    | .name c => [c]
    | .op o => o.keys

instance : Declares SortRule where
  declared
    | .name c => [c]
    | .op o => o.names

/-! ## Display -/

/-- How a filter entry is shown. -/
def FilterRule.debug : FilterRule → String
  | .name c => "Name(" ++ Text.quoted c ++ ")"
  | .op o => "Operation(" ++ Text.quotedList o.keys ++ ")"

/-- How a sort entry is shown. -/
def SortRule.debug : SortRule → String
  | .name c => "Name(" ++ Text.quoted c ++ ")"
  | .op o => "Operation(" ++ Text.quotedList o.names ++ ")"

/-- How a caller's filter operation with these keys is shown. -/
def customFilterDebug (keys : List String) : String :=
  "CustomFilter \x7b keys: " ++ Text.quotedList keys ++ " \x7d"

/-- How a caller's sort operation with these names is shown. -/
def customSortDebug (names : List String) : String :=
  "CustomSort \x7b names: " ++ Text.quotedList names ++ " \x7d"

end QueryCompiler
