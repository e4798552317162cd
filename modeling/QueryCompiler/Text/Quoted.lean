import QueryCompiler.Text.DisplayTables

/-!
# Quoted text for display

How a diagnostic shows a piece of text: in double quotes, with these escapes.

1. NUL, tab, carriage return and line feed are written `\0`, `\t`, `\r` and `\n`.
2. A backslash and a double quote take a backslash; a single quote does not.
3. A character with the Grapheme_Extend property, and a character that is not shown as itself
   (a control, format, unassigned or private-use character, or a separator other than the
   space), is written `\u{h}` with its code point in lowercase hex and no leading zeros.
4. Every other character is written as itself.

Escaping combining marks keeps a quoted text from attaching a mark to the opening quote.
-/

namespace QueryCompiler

namespace Text

/-- Lowercase hexadecimal digits of a number, without leading zeros. -/
def hexDigits (n : Nat) : List Char :=
  Nat.toDigits 16 n

/-- How one character is written inside quotes. -/
def displayChar (c : Char) : List Char :=
  if c = '\x00' then ['\\', '0']
  else if c = '\t' then ['\\', 't']
  else if c = '\r' then ['\\', 'r']
  else if c = '\n' then ['\\', 'n']
  else if c = '\\' then ['\\', '\\']
  else if c = '"' then ['\\', '"']
  else if ' ' ≤ c ∧ c ≤ '~' then [c]
  else if graphemeExtendSet.contains c || unprintableSet.contains c then
    ['\\', 'u', '\x7b'] ++ hexDigits c.toNat ++ ['\x7d']
  else [c]

/-- A text in double quotes with its characters escaped for display. -/
def quoted (s : String) : String :=
  String.ofList ('"' :: s.toList.flatMap displayChar ++ ['"'])

/-- A list of texts for display: each quoted, separated by a comma and a space, in brackets. -/
def quotedList (xs : List String) : String :=
  "[" ++ ", ".intercalate (xs.map quoted) ++ "]"

end Text

end QueryCompiler
