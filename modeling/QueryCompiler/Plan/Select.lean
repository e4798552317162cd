import QueryCompiler.Request.Scalar
import QueryCompiler.Request.SortKey

/-!
# Select queries

The query a plan builds: a table, the conditions rows must meet, the orderings, a row window
and the relations to load with each row. It is rendered as SQL text by these rules.

1. `SELECT * FROM` and the table name in backticks.
2. If there are conditions, ` WHERE ` and the conditions joined by ` AND `. A predicate is
   the column in backticks, `=` or `LIKE`, and the value; a group of alternatives holding one
   predicate is that predicate, a larger group its predicates joined by ` OR ` in parentheses.
3. If there are orderings, ` ORDER BY ` and the orderings joined by `, `: a column list is each
   column in backticks with `ASC` or `DESC`, joined by `, `; a raw ordering is written as is.
4. ` LIMIT n` and then ` OFFSET n`, each only when set.

A value is written as a decimal, `true`/`false`, or a text in single quotes with each single
quote doubled, which is the one escape of an SQL string literal: the literal then ends at the
first single quote that is not doubled, and that is the closing one (`sqlLiteral`). Names are
written between backticks as they are, with no escape.
-/

namespace QueryCompiler

/-- How a predicate compares a column with its value. -/
inductive Operator where
  | eq
  | like
  deriving DecidableEq, Repr

namespace Operator

/-- The SQL token of the operator. -/
def sql : Operator → String
  | .eq => "="
  | .like => "LIKE"

/-- The name of the operator in JSON. -/
def name : Operator → String
  | .eq => "eq"
  | .like => "like"

end Operator

/-- A comparison of one column with a value. -/
structure Predicate where
  column : String
  operator : Operator
  value : Scalar
  deriving DecidableEq, Repr

/-- How the rows are ordered. -/
inductive Order where
  /-- By these columns, the first the most significant. -/
  | columns (keys : List SortKey)
  /-- By an expression written as is. -/
  | raw (expression : String)
  deriving DecidableEq, Repr

/-- A condition rows must meet. -/
inductive Condition where
  /-- The predicate holds. -/
  | all (p : Predicate)
  /-- One of the predicates holds. -/
  | any (ps : List Predicate)
  deriving DecidableEq, Repr

/-- A query on one table. -/
structure Select where
  table : String
  conditions : List Condition := []
  orders : List Order := []
  offset : Option Int := none
  limit : Option Int := none
  preloads : List String := []
  deriving DecidableEq, Repr

/-! ## Building predicates -/

namespace Predicate

/-- The column equals the value. -/
def eq (column : String) (v : Scalar) : Predicate := ⟨column, .eq, v⟩

/-- The column holds the value's display as a substring. -/
def contains (column : String) (v : Scalar) : Predicate := ⟨column, .like, v.pattern⟩

end Predicate

/-! ## SQL text -/

/-- The characters of a text inside an SQL string literal: each single quote doubled. -/
def sqlEscape (cs : List Char) : List Char :=
  cs.flatMap fun c => if c = '\x27' then ['\x27', '\x27'] else [c]

/-- A text as an SQL string literal. -/
def sqlLiteral (s : String) : String :=
  String.ofList ('\x27' :: sqlEscape s.toList ++ ['\x27'])

/-- A name between backticks, as it is. -/
def sqlName (s : String) : String :=
  String.ofList ('\x60' :: s.toList ++ ['\x60'])

/-- A value as SQL. -/
def Scalar.sql : Scalar → String
  | .int n => toString n
  | .bool true => "true"
  | .bool false => "false"
  | .str s => sqlLiteral s

/-- A predicate as SQL. -/
def Predicate.sql (p : Predicate) : String :=
  sqlName p.column ++ " " ++ p.operator.sql ++ " " ++ p.value.sql

/-- A condition as SQL. -/
def Condition.sql : Condition → String
  | .all p => p.sql
  | .any [p] => p.sql
  | .any ps => "(" ++ " OR ".intercalate (ps.map Predicate.sql) ++ ")"

/-- An ordering as SQL. -/
def Order.sql : Order → String
  | .columns keys => ", ".intercalate (keys.map fun k => sqlName k.name ++ " " ++ k.direction)
  | .raw e => e

namespace Select

/-- The query as SQL text. -/
def sql (q : Select) : String :=
  "SELECT * FROM " ++ sqlName q.table ++
    (if q.conditions.isEmpty then ""
     else " WHERE " ++ " AND ".intercalate (q.conditions.map Condition.sql)) ++
    (if q.orders.isEmpty then "" else " ORDER BY " ++ ", ".intercalate (q.orders.map Order.sql)) ++
    ((q.limit.map fun n => " LIMIT " ++ toString n).getD "") ++
    ((q.offset.map fun n => " OFFSET " ++ toString n).getD "")

end Select

/-! ## JSON -/

/-- A predicate as JSON. -/
def Predicate.toJson (p : Predicate) : Json :=
  .obj [("column", .str p.column), ("operator", .str p.operator.name), ("value", p.value.toJson)]

/-- A condition as JSON, tagged `all` or `any`. -/
def Condition.toJson : Condition → Json
  | .all p => .obj [("all", p.toJson)]
  | .any ps => .obj [("any", .arr (ps.map Predicate.toJson))]

/-- An ordering as JSON, tagged `columns` or `raw`. -/
def Order.toJson : Order → Json
  | .columns keys => .obj [("columns", .arr (keys.map SortKey.toJson))]
  | .raw e => .obj [("raw", .str e)]

/-- The query as JSON; an unset offset or limit is left out. -/
def Select.toJson (q : Select) : Json :=
  .obj <|
    [("table", .str q.table),
     ("conditions", .arr (q.conditions.map Condition.toJson)),
     ("orders", .arr (q.orders.map Order.toJson))] ++
    ((q.offset.map fun n => [("offset", Json.int n)]).getD []) ++
    ((q.limit.map fun n => [("limit", Json.int n)]).getD []) ++
    [("preloads", Json.ofStrings q.preloads)]

end QueryCompiler
