import QueryCompiler.Json.Basic
import QueryCompiler.Text.Blank
import QueryCompiler.Text.Case
import QueryCompiler.Text.Decimal

/-!
# Filter values

A query string carries only text; a filter value is read into the narrowest of three kinds so
that `filter[active]=1` compares as a number and `filter[active]=true` as a flag.

1. A text that reads as a signed 64-bit integer is that integer (`+7` is `7`).
2. Otherwise, a text that is `true` or `false` once white space is trimmed and letters are
   lowered is that flag (` TRUE ` is `true`).
3. Anything else is kept as text, untrimmed: ` 5` stays the text ` 5`.

A value is shown as its decimal, `true`/`false`, or its text, and in JSON as a number, a
boolean or a string, without a tag.
-/

namespace QueryCompiler

/-- A filter value: an integer in the signed 64-bit range, a flag, or a text. -/
inductive Scalar where
  | int (n : Int)
  | bool (b : Bool)
  | str (s : String)
  deriving DecidableEq, Repr, Inhabited

namespace Scalar

/-- Read a raw query value as the narrowest kind that fits it. -/
def coerce (raw : String) : Scalar :=
  match readInt64 raw with
  | .ok n => .int n
  | .error _ =>
    let lowered := Text.toLower (Text.trim raw)
    if lowered = "true" then .bool true
    else if lowered = "false" then .bool false
    else .str raw

/-- The integer, if this is one. -/
def asInt? : Scalar → Option Int
  | .int n => some n
  | _ => none

/-- The flag, if this is one. -/
def asBool? : Scalar → Option Bool
  | .bool b => some b
  | _ => none

/-- The text, if this is one. -/
def asStr? : Scalar → Option String
  | .str s => some s
  | _ => none

/-- The name of the kind. -/
def kind : Scalar → String
  | .int _ => "int"
  | .bool _ => "bool"
  | .str _ => "str"

/-- How the value is shown: decimal, `true`/`false`, or the text itself. -/
def display : Scalar → String
  | .int n => toString n
  | .bool true => "true"
  | .bool false => "false"
  | .str s => s

/-- The substring pattern of the value: its display between `%` wildcards, as a text. -/
def pattern (v : Scalar) : Scalar :=
  .str ("%" ++ v.display ++ "%")

/-- The value as untagged JSON. -/
def toJson : Scalar → Json
  | .int n => .int n
  | .bool b => .bool b
  | .str s => .str s

/-- A text that reads as an integer becomes that integer. -/
theorem coerce_of_readInt64 {raw : String} {n : Int} (h : readInt64 raw = .ok n) :
    coerce raw = .int n := by
  simp [coerce, h]

/-- A pattern is always a text. -/
theorem pattern_isStr (v : Scalar) : ∃ s, v.pattern = .str s :=
  ⟨_, rfl⟩

end Scalar

end QueryCompiler
