import QueryCompiler.Data.NameMap
import QueryCompiler.Request.Scalar
import QueryCompiler.Request.SortKey
import QueryCompiler.Request.FieldError
import QueryCompiler.Url.Reference
import QueryCompiler.Url.Form

/-!
# Requests

The typed view of one request's query parameters, read from decoded key/value pairs in order
(a key may repeat):

1. `q`, `page`, `size`, `sort` and `include` take their first occurrence only. An empty first
   value leaves the field unset, except for `sort`, which reads it (and finds no key).
2. `page` is at least 1; `size` is taken as read. A value that is not an integer is recorded as
   a field error and leaves the field unset.
3. `filter[<name>]` sets one filter, the last occurrence winning; its value is coerced
   (`Scalar.coerce`). The name is all between the leading `filter[` and the final `]`, and must
   not be empty, so `filter[a][b]` names `a][b`.
4. `fields[<name>]` is split on `,` and added to the list of that name, empty pieces included.
5. `include` is split on `,`, empty pieces included.

A request is read from a URL reference by resolving it against `http://localhost/` and
decoding its query as a form (`Request.ofUrl`). What this takes from a URL library is a
`UrlReader`; `Request.ofUrlWith` reads with any of them, `Request.ofUrl` with the standard's.
-/

namespace QueryCompiler

/-- The parameters of one request. -/
structure Request where
  /-- The free-text query (`q`). -/
  query : Option String := none
  /-- The page asked for, at least 1. -/
  page : Option Int := none
  /-- The page size asked for. -/
  size : Option Int := none
  /-- Each filter's coerced value, by filter name. -/
  filters : NameMap Scalar := ∅
  /-- The sort keys, the first the most significant. -/
  sort : List SortKey := []
  /-- The relation paths to load, as written. -/
  includes : List String := []
  /-- The field selection, by resource type. -/
  fields : NameMap (List String) := ∅
  /-- The numeric parameters that could not be read. -/
  errors : List FieldError := []
  deriving Repr, Inhabited

/-- What reading a request takes from a URL library: resolving a reference against
`http://localhost/` to its query, as the resolved URL keeps it, and reading the name–value pairs
of such a query. -/
structure UrlReader where
  resolveQuery : String → Except Url.UrlError (Option String)
  queryPairs : String → List (String × String)

/-- The URL standard's reader: WHATWG resolution, and the query read as
`application/x-www-form-urlencoded` text. -/
def UrlReader.whatwg : UrlReader where
  resolveQuery := Url.resolveQuery
  queryPairs := Url.formPairs

namespace Request

/-- The value of the first pair named `key`. -/
def firstValue? (pairs : List (String × String)) (key : String) : Option String :=
  (pairs.find? (fun p => p.1 == key)).map Prod.snd

/-- The value of the first pair named `key`, unless that value is empty. -/
def firstFilled? (pairs : List (String × String)) (key : String) : Option String :=
  (firstValue? pairs key).filter (fun v => !v.isEmpty)

/-- What is left of `cs` after the prefix `pre`, if it starts with it. -/
def dropPrefix? : List Char → List Char → Option (List Char)
  | [], cs => some cs
  | p :: ps, c :: cs => if p = c then dropPrefix? ps cs else none
  | _ :: _, [] => none

/-- The `<name>` of a key `prefix[<name>]`, if the name is not empty. -/
def bracketName? (pre : String) (key : String) : Option String :=
  match dropPrefix? (pre.toList ++ ['[']) key.toList with
  | some rest =>
    if rest.getLast? = some ']' ∧ rest.dropLast ≠ [] then some (String.ofList rest.dropLast)
    else none
  | none => none

/-- Read a numeric parameter: its value, or the error to record. -/
def readParam (param : Param) (value : Option String) : Option Int × List FieldError :=
  match value with
  | none => (none, [])
  | some v =>
    match readInt64 v with
    | .ok n => (some n, [])
    | .error e => (none, [⟨param, v, e⟩])

/-- The filters of the pairs, by name, the last occurrence winning. -/
def filtersOf (pairs : List (String × String)) : NameMap Scalar :=
  pairs.foldl
    (fun m p =>
      match bracketName? "filter" p.1 with
      | some name => m.insert name (Scalar.coerce p.2)
      | none => m)
    ∅

/-- The field selections of the pairs, each occurrence's pieces appended. -/
def fieldsOf (pairs : List (String × String)) : NameMap (List String) :=
  pairs.foldl
    (fun m p =>
      match bracketName? "fields" p.1 with
      | some name => m.alter name (fun old => old.getD [] ++ Text.splitText ',' p.2)
      | none => m)
    ∅

/-- Read a request from decoded key/value pairs. -/
def ofPairs (pairs : List (String × String)) : Request :=
  let (page, pageErrors) := readParam .page (firstFilled? pairs "page")
  let (size, sizeErrors) := readParam .size (firstFilled? pairs "size")
  { query := firstFilled? pairs "q"
    page := page.map (fun n => max n 1)
    size := size
    filters := filtersOf pairs
    sort := ((firstValue? pairs "sort").map SortKey.listOf).getD []
    includes := ((firstFilled? pairs "include").map (Text.splitText ',')).getD []
    fields := fieldsOf pairs
    errors := pageErrors ++ sizeErrors }

/-- Read a request from a URL reference with a URL library: resolve the reference, then read
the pairs of its query, if it has one. -/
def ofUrlWith (lib : UrlReader) (input : String) : Except Url.UrlError Request := do
  let query ← lib.resolveQuery input
  pure (ofPairs ((query.map lib.queryPairs).getD []))

/-- Read a request from a URL reference, resolved against `http://localhost/` as the URL
standard says. -/
def ofUrl (input : String) : Except Url.UrlError Request :=
  ofUrlWith .whatwg input

/-- Whether a numeric parameter could not be read. -/
def hasErrors (r : Request) : Bool :=
  !r.errors.isEmpty

/-- The request as a JSON object; unset `query`, `page` and `size` are left out. -/
def toJson (r : Request) : Json :=
  .obj <|
    (r.query.map (fun q => [("query", Json.str q)])).getD [] ++
    (r.page.map (fun n => [("page", Json.int n)])).getD [] ++
    (r.size.map (fun n => [("size", Json.int n)])).getD [] ++
    [("filters", .obj (r.filters.toList.map (fun p => (p.1, p.2.toJson)))),
     ("sort", .arr (r.sort.map SortKey.toJson)),
     ("includes", Json.ofStrings r.includes),
     ("fields", .obj (r.fields.toList.map (fun p => (p.1, Json.ofStrings p.2)))),
     ("errors", Json.ofStrings (r.errors.map FieldError.message))]

/-- A page read from the pairs is at least 1. -/
theorem one_le_page (pairs : List (String × String)) {n : Int} (h : (ofPairs pairs).page = some n) :
    1 ≤ n := by
  simp only [ofPairs] at h
  obtain ⟨m, _, rfl⟩ := Option.map_eq_some_iff.mp h
  omega

end Request

end QueryCompiler
