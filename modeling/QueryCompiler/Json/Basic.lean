import QueryCompiler.Data.NameMap
/-!
# JSON values

The JSON documents this library reads (configurations) and writes (plans, specifications).

Numbers keep the distinction a JSON reader makes between an integer literal and any other
number: a configuration asks for 64-bit integers, and a literal written with a fraction or an
exponent is never one, whatever its value. Objects keep their members in the order written,
duplicates included, because a reader of records must be able to refuse a repeated field.
-/

namespace QueryCompiler

/-- A JSON value. -/
inductive Json where
  | null
  | bool (b : Bool)
  /-- An integer literal: digits with an optional minus sign, other than `-0`. -/
  | int (n : Int)
  /-- Any other number, kept as written. -/
  | real (text : String)
  | str (s : String)
  | arr (items : List Json)
  | obj (members : List (String × Json))
  deriving Inhabited, Repr

namespace Json

/-! ## Looking inside a value -/

/-- The value of the first member named `key`, if this is an object holding one. -/
def field? (v : Json) (key : String) : Option Json :=
  match v with
  | .obj ms => ms.lookup key
  | _ => none

/-- The text of a string value. -/
def str? : Json → Option String
  | .str s => some s
  | _ => none

/-- The flag of a boolean value. -/
def bool? : Json → Option Bool
  | .bool b => some b
  | _ => none

/-- The integer of an integer literal. -/
def int? : Json → Option Int
  | .int n => some n
  | _ => none

/-- The items of an array. -/
def arr? : Json → Option (List Json)
  | .arr xs => some xs
  | _ => none

/-- The members of an object. -/
def obj? : Json → Option (List (String × Json))
  | .obj ms => some ms
  | _ => none

/-- Whether the value is `null`. -/
def isNull : Json → Bool
  | .null => true
  | _ => false

/-- A list of strings as a JSON array. -/
def ofStrings (xs : List String) : Json :=
  .arr (xs.map .str)

/-! ## Values held as maps

A reader that keeps objects as maps with ordered keys (as a dictionary of a dynamic value
does) keeps one member per name, the last one written, and lists the names in order. -/

mutual

/-- The value as a map-keeping reader holds it: in every object the last member of each
name is kept, and names come in order. -/
def asMap : Json → Json
  | .arr xs => .arr (asMapItems xs)
  | .obj ms => .obj (asMapMembers ∅ ms)
  | v => v

/-- `asMap` on each item. -/
def asMapItems : List Json → List Json
  | [] => []
  | x :: xs => asMap x :: asMapItems xs

/-- Insert the members, each in its map-kept form, into an ordered list. -/
def asMapMembers (acc : NameMap Json) : List (String × Json) → List (String × Json)
  | [] => acc.toList
  | (k, v) :: rest => asMapMembers (NameMap.insert k (asMap v) acc) rest

end

end Json

end QueryCompiler
