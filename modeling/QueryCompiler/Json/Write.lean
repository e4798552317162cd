import QueryCompiler.Json.Basic

/-!
# Writing JSON text

Two layouts of one value: compact (no blank anywhere) and indented (two spaces a level, a
member written `"name": value`, an empty array or object written `[]` or `{}`).

In a string, `"` and `\` take a backslash, the control characters with a one-letter escape
use it (`\b`, `\t`, `\n`, `\f`, `\r`), the other control characters below U+0020 are written
`\u00XX` with lowercase hex, and every other character is written as itself.
-/

namespace QueryCompiler

namespace Json

/-! ## Strings -/

/-- A lowercase hexadecimal digit. -/
def hexChar (n : Nat) : Char :=
  if n < 10 then Char.ofNat ('0'.toNat + n) else Char.ofNat ('a'.toNat + n - 10)

/-- The characters that stand for one character inside a quoted string. -/
def escapeChar (c : Char) : List Char :=
  if c = '"' then ['\\', '"']
  else if c = '\\' then ['\\', '\\']
  else if c = '\n' then ['\\', 'n']
  else if c = '\r' then ['\\', 'r']
  else if c = '\t' then ['\\', 't']
  else if c = '\x08' then ['\\', 'b']
  else if c = '\x0c' then ['\\', 'f']
  else if c.toNat < 0x20 then ['\\', 'u', '0', '0', hexChar (c.toNat / 16), hexChar (c.toNat % 16)]
  else [c]

/-- A string as a JSON string literal. -/
def quote (s : String) : String :=
  String.ofList ('"' :: s.toList.flatMap escapeChar ++ ['"'])

/-! ## Compact layout -/

mutual

/-- The compact text of a value. -/
def compact : Json → String
  | .null => "null"
  | .bool true => "true"
  | .bool false => "false"
  | .int n => toString n
  | .real t => t
  | .str s => quote s
  | .arr xs => "[" ++ compactItems xs ++ "]"
  | .obj ms => "\x7b" ++ compactMembers ms ++ "\x7d"

/-- Items separated by commas. -/
def compactItems : List Json → String
  | [] => ""
  | [x] => compact x
  | x :: xs => compact x ++ "," ++ compactItems xs

/-- Members separated by commas. -/
def compactMembers : List (String × Json) → String
  | [] => ""
  | [(k, v)] => quote k ++ ":" ++ compact v
  | (k, v) :: ms => quote k ++ ":" ++ compact v ++ "," ++ compactMembers ms

end

/-! ## Indented layout -/

/-- Two spaces for each level. -/
def indent (level : Nat) : String :=
  String.ofList (List.replicate (2 * level) ' ')

mutual

/-- The indented text of a value whose first line stands at `level`. -/
def pretty (level : Nat) : Json → String
  | .arr [] => "[]"
  | .obj [] => "\x7b\x7d"
  | .arr xs => "[\n" ++ prettyItems (level + 1) xs ++ "\n" ++ indent level ++ "]"
  | .obj ms => "\x7b\n" ++ prettyMembers (level + 1) ms ++ "\n" ++ indent level ++ "\x7d"
  | v => compact v

/-- Items one to a line at `level`. -/
def prettyItems (level : Nat) : List Json → String
  | [] => ""
  | [x] => indent level ++ pretty level x
  | x :: xs => indent level ++ pretty level x ++ ",\n" ++ prettyItems level xs

/-- Members one to a line at `level`. -/
def prettyMembers (level : Nat) : List (String × Json) → String
  | [] => ""
  | [(k, v)] => indent level ++ quote k ++ ": " ++ pretty level v
  | (k, v) :: ms => indent level ++ quote k ++ ": " ++ pretty level v ++ ",\n" ++ prettyMembers level ms

end

end Json

end QueryCompiler
