import QueryCompiler.Json.Basic
import QueryCompiler.Text.Split

/-!
# Sort keys

A `sort` parameter is a comma-separated list of column names, each ascending unless written
with a leading `-`. Only one `-` is taken off: `--a` sorts the column `-a` descending. Empty
tokens are skipped, so `,a,,-b,` names `a` and `b`.
-/

namespace QueryCompiler

/-- One column to order by, and its direction. -/
structure SortKey where
  name : String
  ascending : Bool
  deriving DecidableEq, Repr, Inhabited

namespace SortKey

/-- Read one token: a leading `-` means descending and is not part of the name. -/
def ofToken (token : String) : SortKey :=
  match token.toList with
  | '-' :: rest => ⟨String.ofList rest, false⟩
  | _ => ⟨token, true⟩

/-- Read a whole `sort` value: split on `,`, skip empty tokens, read each token. -/
def listOf (value : String) : List SortKey :=
  ((Text.splitText ',' value).filter (fun t => !t.isEmpty)).map ofToken

/-- `ASC` or `DESC`. -/
def direction (k : SortKey) : String :=
  if k.ascending then "ASC" else "DESC"

/-- The key as a JSON object with its name and direction flag. -/
def toJson (k : SortKey) : Json :=
  .obj [("name", .str k.name), ("ascending", .bool k.ascending)]

/-- A token without a leading `-` sorts its whole text ascending. -/
theorem ofToken_of_head_ne {token : String} (h : token.toList.head? ≠ some '-') :
    ofToken token = ⟨token, true⟩ := by
  unfold ofToken
  split
  · rename_i rest heq
    simp [heq] at h
  · rfl

end SortKey

end QueryCompiler
