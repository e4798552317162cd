import QueryCompiler.Text.Case
import QueryCompiler.Text.Split

/-!
# Relation names

An include path such as `wallet.bank_account` names the relations `Wallet` and
`Wallet.BankAccount`: its dotted segments in Pascal case.

1. The path is split on `.`, and empty segments are dropped.
2. In a segment, `-` counts as `_`; the segment is split on `_` and its pieces capitalised
   and run together.
3. A piece is capitalised by upper-casing its first character (which may give several:
   `ß` gives `SS`) and lower-casing the rest as one text, so that a final sigma is written
   `ς`. A piece that already has a lowercase letter directly before an uppercase one is
   taken to be in camel case and keeps the rest as written.
4. Segments that come out empty are dropped, and the rest are joined with `.`.
-/

namespace QueryCompiler

namespace Relation

/-- Whether some lowercase letter stands directly before an uppercase one. -/
def isCamelCased : List Char → Bool
  | a :: b :: rest => (Text.isLowercase a && Text.isUppercase b) || isCamelCased (b :: rest)
  | _ => false

/-- A piece with its first character in upper case and, unless it is in camel case, the rest
in lower case. -/
def capitalize (piece : String) : String :=
  match piece.toList with
  | [] => ""
  | c :: rest =>
    let head := String.ofList (Text.upperChars c)
    if isCamelCased piece.toList then head ++ String.ofList rest
    else head ++ Text.toLower (String.ofList rest)

/-- A segment in Pascal case: `-` read as `_`, the pieces between `_` capitalised and joined. -/
def pascalCase (segment : String) : String :=
  let pieces := Text.splitText '_' (String.ofList (segment.toList.map fun c => if c = '-' then '_' else c))
  String.join (pieces.map capitalize)

/-- The relation an include path names. -/
def ofInclude (raw : String) : String :=
  let segments := (Text.splitText '.' raw).filter (fun s => !s.isEmpty)
  ".".intercalate ((segments.map pascalCase).filter (fun s => !s.isEmpty))

end Relation

end QueryCompiler
