import QueryCompiler.Plan.Run
import QueryCompiler.Plan.Relation
import QueryCompiler.Text.Decimal

/-!
# The stages of a plan

A request is compiled in five stages, each a list of steps computed from the request as read
(no stage reads what an earlier stage wrote, so the stages can be computed up front).

1. Filters, keys in ascending order. With no filter allow-list each filter is a substring
   match on its own column. Otherwise every entry is visited in declared order for each key: a
   plain name equal to the key adds the substring match, and an operation declaring the key
   runs (once per key it declares that the request supplies). Entries that match twice compile
   twice.
2. Free text. When `q` is set and the filter allow-list is not empty, one group of
   alternatives: the text as a substring of each plain-name column, in declared order. With no
   plain name there is no group.
3. Sorts. A request without sort keys takes the default key, and the request records it. With
   no sort allow-list the keys make one column ordering. Otherwise, for each key and each entry
   in order, an operation declaring the key's name runs at once, and a plain name equal to it
   adds the key to a shared column list, which is ordered by last, if not empty.
4. Includes. An include not in a non-empty include allow-list (as written) is skipped; the
   rest name relations (`Relation.ofInclude`), the empty ones are skipped, and each is loaded
   and then recorded.
5. Window. The size is the request's, else the default's; with neither there is no window.
   The page is the request's, else the default's, else 1. The offset is `(page - 1) * size` in
   saturating 64-bit arithmetic. The request records the page and size, then the window is set.
-/

namespace QueryCompiler

/-- Page and size used when a request gives none. -/
structure PageDefaults where
  page : Int
  size : Int
  deriving DecidableEq, Repr

/-- The defaults of a paginated listing: page 1 of 30 rows. -/
def PageDefaults.standard : PageDefaults := ⟨1, 30⟩

namespace Stages

/-- The step that adds a predicate. -/
def addPredicate (p : Predicate) : Step := .act (.call (.addPredicate p))

/-- Stage 1: the filters. -/
def filters (allow : AllowList FilterRule) (r : Request) : List Step :=
  r.filters.toList.flatMap fun (k, v) =>
    if allow.isEmpty then [addPredicate (.contains k v)]
    else
      allow.entries.flatMap fun e =>
        match e with
        | .name c => if c = k then [addPredicate (.contains k v)] else []
        | .op o => if o.keys.contains k then (o.actions r).map .act else []

/-- The substring matches of a free text on the plain-name columns, in declared order. -/
def searchGroup (allow : AllowList FilterRule) (text : String) : List Predicate :=
  allow.entries.filterMap fun e =>
    match e with
    | .name c => some (.contains c (.str text))
    | .op _ => none

/-- Stage 2: the free text. -/
def search (allow : AllowList FilterRule) (r : Request) : List Step :=
  match r.query with
  | none => []
  | some text =>
    if allow.isEmpty then []
    else
      let group := searchGroup allow text
      if group.isEmpty then [] else [.act (.call (.addAnyOf group))]

/-- The sort keys in effect: the request's, or else the default. -/
def sortKeys (default? : Option SortKey) (r : Request) : List SortKey :=
  if r.sort.isEmpty then default?.toList else r.sort

/-- The keys that plain-name entries order by, once per matching entry. -/
def sharedColumns (allow : AllowList SortRule) (keys : List SortKey) : List SortKey :=
  keys.flatMap fun x =>
    allow.entries.flatMap fun e =>
      match e with
      | .name c => if c = x.name then [x] else []
      | .op _ => []

/-- What the sort operations do for the keys, in key order, then entry order. -/
def sortActions (allow : AllowList SortRule) (keys : List SortKey) : List Step :=
  keys.flatMap fun x =>
    allow.entries.flatMap fun e =>
      match e with
      | .name _ => []
      | .op o => if o.names.contains x.name then (o.run x.ascending x.name).map .act else []

/-- The step ordering by columns, if there are any. -/
def orderColumns (keys : List SortKey) : List Step :=
  if keys.isEmpty then [] else [.act (.call (.orderBy (.columns keys)))]

/-- Stage 3: the sorts. -/
def sorts (allow : AllowList SortRule) (default? : Option SortKey) (r : Request) : List Step :=
  let keys := sortKeys default? r
  let writeBack : List Step := if r.sort.isEmpty && default?.isSome then [.setSort keys] else []
  writeBack ++
    if allow.isEmpty then orderColumns keys
    else sortActions allow keys ++ orderColumns (sharedColumns allow keys)

/-- Stage 4: the includes. -/
def includes (allow : AllowList String) (r : Request) : List Step :=
  r.includes.flatMap fun raw =>
    if !allow.isEmpty && !allow.contains raw then []
    else
      let relation := Relation.ofInclude raw
      if relation.isEmpty then [] else [.act (.call (.eagerLoad relation)), .relate relation]

/-- The first row of a page: `(page - 1) * size`, each operation saturating at the bounds of
64-bit integers. -/
def offsetOf (page size : Int) : Int :=
  saturate (saturate (page - 1) * size)

/-- Stage 5: the window. -/
def window (defaults? : Option PageDefaults) (r : Request) : List Step :=
  match r.size.or (defaults?.map PageDefaults.size) with
  | none => []
  | some size =>
    let page := (r.page.or (defaults?.map PageDefaults.page)).getD 1
    [.setWindow page size, .act (.call (.offsetLimit (offsetOf page size) size))]

end Stages

end QueryCompiler
