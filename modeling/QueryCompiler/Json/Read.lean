import QueryCompiler.Json.Basic

/-!
# Reading JSON text

A strict reader for RFC 8259 JSON, with the limits of a common streaming reader:

1. Blanks between tokens are space, tab, line feed and carriage return, and nothing else.
2. A number is `-`? then `0` or a digit run not starting with `0`, then an optional fraction
   `.digits` and an optional exponent `e`/`E`, sign, digits. A literal with neither fraction nor
   exponent is an integer, except `-0`, which readers hold as a floating-point zero.
3. A string holds no raw control character (below U+0020). Its escapes are the eight
   one-letter ones and `\u` with four hex digits; a `\u` escape of a UTF-16 surrogate must be a
   high surrogate followed at once by an escaped low one, since text holds no lone surrogate.
4. Arrays and objects nest at most 127 deep: the 128th level is refused.
5. After the value only blanks may follow.

The reader works on the list of characters and returns what is left after the value, so that
reading can be related to writing by `read (write v ++ rest) = some (v, rest)`.
-/

namespace QueryCompiler

namespace Json

/-! ## Characters -/

/-- The blanks allowed between tokens. -/
def isBlank (c : Char) : Bool :=
  c = ' ' || c = '\t' || c = '\n' || c = '\r'

/-- Drop leading blanks. -/
def skipBlank (cs : List Char) : List Char :=
  cs.dropWhile isBlank

/-- The value of a hexadecimal digit of either case. -/
def hexDigit? (c : Char) : Option Nat :=
  if '0' ≤ c ∧ c ≤ '9' then some (c.toNat - '0'.toNat)
  else if 'a' ≤ c ∧ c ≤ 'f' then some (c.toNat - 'a'.toNat + 10)
  else if 'A' ≤ c ∧ c ≤ 'F' then some (c.toNat - 'A'.toNat + 10)
  else none

/-- The value of four hexadecimal digits. -/
def hex4? (a b c d : Char) : Option Nat := do
  let a ← hexDigit? a
  let b ← hexDigit? b
  let c ← hexDigit? c
  let d ← hexDigit? d
  pure (((a * 16 + b) * 16 + c) * 16 + d)

/-! ## Strings -/

/-- Put a character in front of the text of a successful read. -/
def prependChar (c : Char) : Option (List Char × List Char) → Option (List Char × List Char)
  | some (s, rest) => some (c :: s, rest)
  | none => none

/-- The character a pair of UTF-16 surrogates stands for. -/
def ofSurrogates (hi lo : Nat) : Char :=
  Char.ofNat ((hi - 0xD800) * 0x400 + (lo - 0xDC00) + 0x10000)

/-- Read the body of a string after its opening quote: the characters it denotes and what
follows the closing quote. -/
def readString : List Char → Option (List Char × List Char)
  | [] => none
  | '"' :: rest => some ([], rest)
  | '\\' :: '"' :: rest => prependChar '"' (readString rest)
  | '\\' :: '\\' :: rest => prependChar '\\' (readString rest)
  | '\\' :: '/' :: rest => prependChar '/' (readString rest)
  | '\\' :: 'b' :: rest => prependChar '\x08' (readString rest)
  | '\\' :: 'f' :: rest => prependChar '\x0c' (readString rest)
  | '\\' :: 'n' :: rest => prependChar '\n' (readString rest)
  | '\\' :: 'r' :: rest => prependChar '\r' (readString rest)
  | '\\' :: 't' :: rest => prependChar '\t' (readString rest)
  | '\\' :: 'u' :: a :: b :: c :: d :: rest =>
    match hex4? a b c d with
    | none => none
    | some n =>
      if n < 0xD800 ∨ 0xDFFF < n then prependChar (Char.ofNat n) (readString rest)
      else if 0xDC00 ≤ n then none
      else
        match rest with
        | '\\' :: 'u' :: e :: f :: g :: h :: rest' =>
          match hex4? e f g h with
          | some m =>
            if 0xDC00 ≤ m ∧ m ≤ 0xDFFF then prependChar (ofSurrogates n m) (readString rest')
            else none
          | none => none
        | _ => none
  | '\\' :: _ => none
  | c :: rest => if c.toNat < 0x20 then none else prependChar c (readString rest)

/-! ## Numbers -/

/-- Split off the leading ASCII digits. -/
def spanDigits (cs : List Char) : List Char × List Char :=
  (cs.takeWhile Char.isDigit, cs.dropWhile Char.isDigit)

/-- The natural number written by a run of ASCII digits. -/
def digitsValue (ds : List Char) : Nat :=
  ds.foldl (fun n d => n * 10 + (d.toNat - '0'.toNat)) 0

/-- Read the integer part of a number: `0`, or a digit run that does not start with `0`. -/
def readIntPart : List Char → Option (List Char × List Char)
  | '0' :: rest =>
    match rest with
    | d :: _ => if d.isDigit then none else some (['0'], rest)
    | [] => some (['0'], rest)
  | cs =>
    let (ds, rest) := spanDigits cs
    if ds.isEmpty then none else some (ds, rest)

/-- Read an optional fraction: `.` followed by at least one digit. -/
def readFraction : List Char → Option (List Char × List Char)
  | '.' :: rest =>
    let (ds, rest') := spanDigits rest
    if ds.isEmpty then none else some ('.' :: ds, rest')
  | cs => some ([], cs)

/-- Read an optional exponent: `e` or `E`, an optional sign, at least one digit. -/
def readExponent : List Char → Option (List Char × List Char)
  | e :: rest =>
    if e = 'e' ∨ e = 'E' then
      let (sign, rest') : List Char × List Char :=
        match rest with
        | '+' :: r => (['+'], r)
        | '-' :: r => (['-'], r)
        | r => ([], r)
      let (ds, rest'') := spanDigits rest'
      if ds.isEmpty then none else some (e :: sign ++ ds, rest'')
    else some ([], e :: rest)
  | [] => some ([], [])

/-- Read a number and classify it: an integer literal other than `-0` is `int`, anything
else is `real`, kept as written. -/
def readNumber (cs : List Char) : Option (Json × List Char) := do
  let (neg, cs) : Bool × List Char :=
    match cs with
    | '-' :: r => (true, r)
    | r => (false, r)
  let (ip, cs) ← readIntPart cs
  let (fp, cs) ← readFraction cs
  let (ep, cs) ← readExponent cs
  let text := String.ofList ((if neg then ['-'] else []) ++ ip ++ fp ++ ep)
  if fp.isEmpty ∧ ep.isEmpty then
    let n := digitsValue ip
    if neg ∧ n = 0 then pure (.real text, cs)
    else pure (.int (if neg then -(n : Int) else n), cs)
  else pure (.real text, cs)

/-! ## Values -/

/-- Strip a literal word from the front of the input. -/
def expectWord : List Char → List Char → Option (List Char)
  | [], cs => some cs
  | w :: ws, c :: cs => if w = c then expectWord ws cs else none
  | _ :: _, [] => none

mutual

/-- Read one value after optional blanks. `depth` is how many more levels of nesting the
reader still accepts, and `fuel` bounds the number of steps. -/
def readValue : Nat → Nat → List Char → Option (Json × List Char)
  | 0, _, _ => none
  | fuel + 1, depth, cs =>
    match skipBlank cs with
    | 'n' :: rest => (expectWord ['u', 'l', 'l'] rest).map fun r => (.null, r)
    | 't' :: rest => (expectWord ['r', 'u', 'e'] rest).map fun r => (.bool true, r)
    | 'f' :: rest => (expectWord ['a', 'l', 's', 'e'] rest).map fun r => (.bool false, r)
    | '"' :: rest => (readString rest).map fun (s, r) => (.str (String.ofList s), r)
    | '[' :: rest =>
      if depth ≤ 1 then none
      else
        match skipBlank rest with
        | ']' :: r => some (.arr [], r)
        | r => (readItems fuel (depth - 1) r).map fun (xs, r') => (.arr xs, r')
    | '{' :: rest =>
      if depth ≤ 1 then none
      else
        match skipBlank rest with
        | '}' :: r => some (.obj [], r)
        | r => (readMembers fuel (depth - 1) r).map fun (ms, r') => (.obj ms, r')
    | c :: rest => if c = '-' ∨ c.isDigit then readNumber (c :: rest) else none
    | [] => none

/-- Read the items of a non-empty array up to and including its closing bracket. -/
def readItems : Nat → Nat → List Char → Option (List Json × List Char)
  | 0, _, _ => none
  | fuel + 1, depth, cs =>
    match readValue fuel depth cs with
    | none => none
    | some (v, rest) =>
      match skipBlank rest with
      | ',' :: r => (readItems fuel depth r).map fun (xs, r') => (v :: xs, r')
      | ']' :: r => some ([v], r)
      | _ => none

/-- Read the members of a non-empty object up to and including its closing brace. -/
def readMembers : Nat → Nat → List Char → Option (List (String × Json) × List Char)
  | 0, _, _ => none
  | fuel + 1, depth, cs =>
    match skipBlank cs with
    | '"' :: rest =>
      match readString rest with
      | none => none
      | some (k, rest) =>
        match skipBlank rest with
        | ':' :: rest =>
          match readValue fuel depth rest with
          | none => none
          | some (v, rest) =>
            match skipBlank rest with
            | ',' :: r =>
              (readMembers fuel depth r).map fun (ms, r') => ((String.ofList k, v) :: ms, r')
            | '}' :: r => some ([(String.ofList k, v)], r)
            | _ => none
        | _ => none
    | _ => none

end

/-- The nesting a reader accepts: levels below this count. -/
def nestingLimit : Nat := 128

/-- Read a whole JSON text: one value, surrounded by blanks only. -/
def parse (text : String) : Option Json :=
  let cs := text.toList
  match readValue (2 * cs.length + 2) nestingLimit cs with
  | some (v, rest) => if skipBlank rest = [] then some v else none
  | none => none

end Json

end QueryCompiler
