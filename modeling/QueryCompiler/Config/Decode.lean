import QueryCompiler.Config.Basic
import QueryCompiler.Json.Read

/-!
# Reading configurations

How a JSON document is read as a configuration.

1. The document is an object of named fields or an array of the fields in order
   (`[filters, sorts, includes, default_sort, pagination]`). Every field may be left out; an
   array may stop early, but may not hold more than five items.
2. In an object, a field named twice is refused, and members with other names are ignored.
3. The lists must be arrays (`null` is refused); `default_sort` and `pagination` may be `null`,
   which is the same as leaving them out.
4. Default page and size are an object with both `page` and `size`, or an array of the two;
   each is an integer literal within the signed 64-bit range.
5. An entry is read by the first of these shapes that fits: a string is a plain name; else
   a record with a string `exact`, then with a string `search`, then with a string `custom`.
   Such a record is an object holding that member once (other members ignored) or an array
   of one string.
-/

namespace QueryCompiler

namespace Config

/-- The members of an object named `name`, by value. -/
def membersNamed (ms : List (String × Json)) (name : String) : List Json :=
  (ms.filter fun m => m.1 == name).map Prod.snd

/-- Read an optional member: the default when absent, refused when named twice. -/
def member {α : Type} (ms : List (String × Json)) (name : String) (read : Json → Option α)
    (dflt : α) : Option α :=
  match membersNamed ms name with
  | [] => some dflt
  | [v] => read v
  | _ => none

/-- Read a required member: refused when absent or named twice. -/
def requiredMember {α : Type} (ms : List (String × Json)) (name : String)
    (read : Json → Option α) : Option α :=
  match membersNamed ms name with
  | [v] => read v
  | _ => none

/-- Read an optional item of an array: the default past its end. -/
def item {α : Type} (xs : List Json) (i : Nat) (read : Json → Option α) (dflt : α) : Option α :=
  match xs[i]? with
  | some v => read v
  | none => some dflt

/-- A string. -/
def readString : Json → Option String
  | .str s => some s
  | _ => none

/-- An integer literal within the signed 64-bit range. -/
def readInt64 : Json → Option Int
  | .int n => if int64Min ≤ n ∧ n ≤ int64Max then some n else none
  | _ => none

/-- An array of items, each read by `read`. -/
def readList {α : Type} (read : Json → Option α) : Json → Option (List α)
  | .arr xs => xs.mapM read
  | _ => none

/-- A value that may be `null`. -/
def readOption {α : Type} (read : Json → Option α) : Json → Option (Option α)
  | .null => some none
  | v => (read v).map some

/-- Default page and size. -/
def readPage : Json → Option PageDefaults
  | .obj ms => do
    let page ← requiredMember ms "page" readInt64
    let size ← requiredMember ms "size" readInt64
    pure ⟨page, size⟩
  | .arr [p, s] => do
    let page ← readInt64 p
    let size ← readInt64 s
    pure ⟨page, size⟩
  | _ => none

/-- A record with a single string field `name`. -/
def readRecord (name : String) : Json → Option String
  | .obj ms => requiredMember ms name readString
  | .arr [v] => readString v
  | _ => none

/-- An entry, by the first shape that fits. -/
def readEntry : Json → Option Entry
  | .str s => some (.name s)
  | v =>
    match readRecord "exact" v with
    | some s => some (.exact s)
    | none =>
      match readRecord "search" v with
      | some s => some (.search s)
      | none => (readRecord "custom" v).map .custom

/-- A configuration from its JSON value, before its rules are checked. -/
def ofJson? : Json → Option Config
  | .obj ms => do
    let filters ← member ms "filters" (readList readEntry) []
    let sorts ← member ms "sorts" (readList readEntry) []
    let includes ← member ms "includes" (readList readString) []
    let defaultSort ← member ms "default_sort" (readOption readString) none
    let pagination ← member ms "pagination" (readOption readPage) none
    pure { filters, sorts, includes, defaultSort, pagination }
  | .arr xs =>
    if 5 < xs.length then none
    else do
      let filters ← item xs 0 (readList readEntry) []
      let sorts ← item xs 1 (readList readEntry) []
      let includes ← item xs 2 (readList readString) []
      let defaultSort ← item xs 3 (readOption readString) none
      let pagination ← item xs 4 (readOption readPage) none
      pure { filters, sorts, includes, defaultSort, pagination }
  | _ => none

/-- Read a configuration from JSON text and check its rules. -/
def ofText (text : String) : Except ConfigError Config := do
  let some v := Json.parse text | throw (.json "the text is not a JSON document")
  let some c := ofJson? v | throw (.json "the document does not describe an adapter configuration")
  validate c
  pure c

end Config

end QueryCompiler
