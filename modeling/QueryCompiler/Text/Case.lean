import QueryCompiler.Text.CaseTables

/-!
# Case

Case properties and full case conversion, after the Unicode tables.

1. A character converts to one or more characters: `ß` uppercases to `SS`, `ŉ` to `ʼN`, and
   `İ` lowercases to `i` followed by a combining dot.
2. Lowercasing a whole text treats capital sigma by its context: it becomes final `ς` when a
   cased letter precedes it and none follows it, case-ignorable characters being skipped in
   both directions, and `σ` otherwise.
-/

namespace QueryCompiler

namespace Text

/-- Whether a character has the Lowercase property. -/
def isLowercase (c : Char) : Bool := lowercaseSet.contains c

/-- Whether a character has the Uppercase property. -/
def isUppercase (c : Char) : Bool := uppercaseSet.contains c

/-- The uppercase of a character, possibly several characters. -/
def upperChars (c : Char) : List Char := mapChar upperShifts upperExpansions c

/-- The lowercase of a character taken alone, possibly several characters. -/
def lowerChars (c : Char) : List Char := mapChar lowerShifts lowerExpansions c

/-- Whether the first character that is not case-ignorable is cased. -/
def casedPastIgnorable : List Char → Bool
  | [] => false
  | c :: cs => if caseIgnorableSet.contains c then casedPastIgnorable cs else casedSet.contains c

/-- Capital sigma. -/
def capitalSigma : Char := 'Σ'

/-- The lowercase of a capital sigma, given the characters before it (nearest first) and
after it. -/
def lowerSigma (before after : List Char) : Char :=
  if casedPastIgnorable before && !casedPastIgnorable after then 'ς' else 'σ'

/-- Lowercase the characters `cs`, where `before` holds what precedes them, nearest first. -/
def lowerList (before : List Char) : List Char → List Char
  | [] => []
  | c :: cs =>
    (if c = capitalSigma then [lowerSigma before cs] else lowerChars c) ++ lowerList (c :: before) cs

/-- The lowercase of a text. -/
def toLower (s : String) : String := String.ofList (lowerList [] s.toList)

/-- The uppercase of a text, character by character. -/
def toUpper (s : String) : String := String.ofList (s.toList.flatMap upperChars)

end Text

end QueryCompiler
