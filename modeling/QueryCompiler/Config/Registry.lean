import QueryCompiler.Config.Basic
import QueryCompiler.Plan.Adapter

/-!
# Operation registries and building adapters

A registry holds the operations a caller supplies, under handles that configurations name
with `{"custom": handle}`. The handle is only a name: the operation declares the keys it
handles itself.

Building an adapter from a configuration resolves its entries, filters first and then sorts,
the first failure reported: a handle the registry does not hold, or an exact or substring
entry among the sorts (a sort entry is a column or an operation).
-/

namespace QueryCompiler

/-- Caller-supplied operations by handle; a later registration under a handle replaces an
earlier one. -/
structure Registry where
  filters : NameMap FilterOp := ∅
  sorts : NameMap SortOp := ∅

namespace Registry

/-- Register a filter operation under a handle. -/
def addFilter (r : Registry) (handle : String) (o : FilterOp) : Registry :=
  { r with filters := r.filters.insert handle o }

/-- Register a sort operation under a handle. -/
def addSort (r : Registry) (handle : String) (o : SortOp) : Registry :=
  { r with sorts := r.sorts.insert handle o }

/-- How a registry is shown: its handles in order. -/
def debug (r : Registry) : String :=
  "OperationRegistry \x7b filters: " ++ Text.quotedList r.filters.keys ++
    ", sorts: " ++ Text.quotedList r.sorts.keys ++ " \x7d"

end Registry

namespace Config

/-- Resolve a filter entry. -/
def filterRule (reg : Registry) : Entry → Except PlanError FilterRule
  | .name s => .ok (.name s)
  | .exact s => .ok (.op (.exact s))
  | .search s => .ok (.op (.search s))
  | .custom h =>
    match reg.filters.get? h with
    | some o => .ok (.op o)
    | none => .error (.configuration ("unknown custom filter \x27" ++ h ++ "\x27"))

/-- Resolve a sort entry. -/
def sortRule (reg : Registry) : Entry → Except PlanError SortRule
  | .name s => .ok (.name s)
  | .custom h =>
    match reg.sorts.get? h with
    | some o => .ok (.op o)
    | none => .error (.configuration ("unknown custom sort \x27" ++ h ++ "\x27"))
  | e => .error (.configuration
      ("sort entry \x27" ++ e.text ++ "\x27 must be a column name or a custom operation"))

/-- Build the adapter a configuration describes. -/
def build (c : Config) (reg : Registry) : Except PlanError Adapter := do
  let filters ← c.filters.mapM (filterRule reg)
  let sorts ← c.sorts.mapM (sortRule reg)
  pure { filters := .new filters, sorts := .new sorts, includes := .new c.includes,
         defaultSort := c.defaultSort.map SortKey.ofToken, pagination := c.pagination }

end Config

end QueryCompiler
