import QueryCompiler.Plan.Stages

/-!
# Adapter configurations

A configuration describes an adapter in a document:

```
{ "filters": ["status", {"exact": "is_completed"}, {"search": "name"}, {"custom": "age_range"}],
  "sorts": ["created_at", {"custom": "name_length"}],
  "includes": ["wallet", "wallet.bank_account"],
  "default_sort": "-created_at",
  "pagination": {"page": 1, "size": 30} }
```

An entry is a plain name, or an exact or substring filter on a column, or the handle of an
operation supplied by the caller. A configuration is accepted only when it passes these
checks, the first failure reported:

1. no filter entry, then no sort entry, has an empty name;
2. no include is empty;
3. the default sort token names a column (`-` alone does not);
4. the default page, then the default size, is positive.
-/

namespace QueryCompiler

namespace Config

/-- An allow-list entry as written in a configuration. -/
inductive Entry where
  /-- A plain column name. -/
  | name (s : String)
  /-- An exact-match filter on a column. -/
  | exact (s : String)
  /-- A substring filter on a column. -/
  | search (s : String)
  /-- The handle of a caller's operation. -/
  | custom (s : String)
  deriving DecidableEq, Repr

/-- The name an entry refers to. -/
def Entry.text : Entry → String
  | .name s | .exact s | .search s | .custom s => s

/-- An entry as JSON: a plain name is a string, the others an object with one member. -/
def Entry.toJson : Entry → Json
  | .name s => .str s
  | .exact s => .obj [("exact", .str s)]
  | .search s => .obj [("search", .str s)]
  | .custom s => .obj [("custom", .str s)]

end Config

/-- A configuration of an adapter. -/
structure Config where
  filters : List Config.Entry := []
  sorts : List Config.Entry := []
  includes : List String := []
  /-- The sort token used when a request has none, such as `-created_at`. -/
  defaultSort : Option String := none
  pagination : Option PageDefaults := none
  deriving DecidableEq, Repr

/-- Why a configuration could not be loaded. -/
inductive ConfigError where
  /-- The file could not be read. -/
  | read (reason : String)
  /-- The text is not JSON, or not a configuration's shape. -/
  | json (detail : String)
  /-- The configuration breaks a rule. -/
  | invalid (reason : String)
  deriving DecidableEq, Repr

namespace ConfigError

/-- The name of the kind of error. -/
def kind : ConfigError → String
  | .read _ => "Io"
  | .json _ => "Json"
  | .invalid _ => "Invalid"

/-- The display text of the error. -/
def message : ConfigError → String
  | .read r => "Failed to read config: " ++ r
  | .json d => "Invalid config JSON: " ++ d
  | .invalid r => "Invalid config: " ++ r

end ConfigError

namespace Config

/-- The position of the first element meeting `p`. -/
def firstIndex? {α : Type} (p : α → Bool) (xs : List α) : Option Nat :=
  xs.findIdx? p

/-- Check the rules of a configuration, the first failure reported. -/
def validate (c : Config) : Except ConfigError Unit := do
  if let some i := firstIndex? (fun e => e.text.isEmpty) c.filters then
    throw (.invalid ("filters entry #" ++ toString i ++ " has an empty name"))
  if let some i := firstIndex? (fun e => e.text.isEmpty) c.sorts then
    throw (.invalid ("sorts entry #" ++ toString i ++ " has an empty name"))
  if let some i := firstIndex? String.isEmpty c.includes then
    throw (.invalid ("includes entry #" ++ toString i ++ " is empty"))
  if let some token := c.defaultSort then
    if (SortKey.ofToken token).name.isEmpty then
      throw (.invalid ("default_sort \x27" ++ token ++ "\x27 names no column"))
  if let some d := c.pagination then
    if d.page ≤ 0 then throw (.invalid "pagination.page must be > 0")
    if d.size ≤ 0 then throw (.invalid "pagination.size must be > 0")

/-- Default page and size as JSON. -/
def pageJson (d : PageDefaults) : Json :=
  .obj [("page", .int d.page), ("size", .int d.size)]

/-- The configuration as JSON, absent defaults written as `null`. -/
def toJson (c : Config) : Json :=
  .obj [("filters", .arr (c.filters.map Entry.toJson)),
        ("sorts", .arr (c.sorts.map Entry.toJson)),
        ("includes", Json.ofStrings c.includes),
        ("default_sort", (c.defaultSort.map Json.str).getD .null),
        ("pagination", (c.pagination.map pageJson).getD .null)]

/-- The configuration as a JSON array of its fields, in order. -/
def toPositionalJson (c : Config) : Json :=
  .arr [.arr (c.filters.map Entry.toJson), .arr (c.sorts.map Entry.toJson),
        Json.ofStrings c.includes, (c.defaultSort.map Json.str).getD .null,
        (c.pagination.map pageJson).getD .null]

end Config

end QueryCompiler
