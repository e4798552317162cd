import QueryCompiler.Url.Host

/-!
# Resolving URL references

A URL reference (an absolute URL, or a path, query or fragment) is resolved against the base
`http://localhost/` as the WHATWG URL standard says. Of the result only the query matters
here, so resolution checks what can fail and returns the query.

1. Tab, line feed and carriage return are removed everywhere, and leading and trailing C0
   controls and spaces are trimmed.
2. The query is the text after the first `?`, up to the first `#`, unless a `#` comes first.
   The URL keeps it percent-encoded: of its UTF-8 bytes, the C0 controls, space, `"`, `#`,
   `<`, `>` and every byte from 0x7F on (and `'` under a special scheme) are written as `%`
   and two uppercase hex digits.
3. What precedes the first `?` or `#` locates the resource. A scheme is an ASCII letter, then
   letters, digits, `+`, `-` or `.`, then `:`. Without one, the reference is relative to the
   base. The special schemes are `http`, `https`, `ws`, `wss`, `ftp` and `file`; for them a
   backslash acts as a slash.
4. An authority is read after two slashes (for special schemes, after any run of slashes of
   length at least two, or of any length when the scheme differs from the base's and is not
   `file`): user information up to the last `@`, then the host, then an optional port of at
   most five digits' worth, below 65536.
5. Paths, queries and fragments never make resolution fail.
-/

namespace QueryCompiler

namespace Url

/-- Whether a scheme is special. -/
def isSpecialScheme (s : String) : Bool :=
  ["http", "https", "ws", "wss", "ftp", "file"].contains s

/-- Whether a character is a C0 control or a space. -/
def isControlOrSpace (c : Char) : Bool := c.toNat ≤ 0x20

/-- Step 1: remove tabs and newlines, trim controls and spaces at both ends. -/
def cleanReference (s : String) : List Char :=
  let cs := s.toList.filter fun c => c ≠ '\t' && c ≠ '\n' && c ≠ '\r'
  ((cs.dropWhile isControlOrSpace).reverse.dropWhile isControlOrSpace).reverse

/-- Whether a character ends the part that locates the resource. -/
def endsLocator (c : Char) : Bool := c = '?' || c = '#'

/-- Step 2: the query of a cleaned reference. -/
def queryOf (cs : List Char) : Option String :=
  match cs.dropWhile (fun c => !endsLocator c) with
  | '?' :: rest => some (String.ofList (rest.takeWhile (· ≠ '#')))
  | _ => none

/-- An uppercase hex digit, as a byte. -/
def hexDigit (n : Nat) : UInt8 :=
  UInt8.ofNat (if n < 10 then 0x30 + n else 0x41 + n - 10)

/-- Write each byte that `escapes` selects as `%` and its two uppercase hex digits. -/
def percentEncode (escapes : UInt8 → Bool) (bs : List UInt8) : List UInt8 :=
  bs.flatMap fun b =>
    if escapes b then [0x25, hexDigit (b.toNat / 16), hexDigit (b.toNat % 16)] else [b]

/-- The bytes a query escapes: C0 controls, space, `"`, `#`, `<`, `>` and all from 0x7F on,
and with a special scheme also `'`. -/
def queryEscapes (special : Bool) (b : UInt8) : Bool :=
  b ≤ 0x20 || b = 0x22 || b = 0x23 || b = 0x3C || b = 0x3E || 0x7F ≤ b || (special && b = 0x27)

/-- A query as the URL keeps it: its UTF-8 bytes, percent-encoded. -/
def encodeQuery (special : Bool) (q : String) : String :=
  String.ofList ((percentEncode (queryEscapes special) (Text.utf8Bytes q)).map Char.ofUInt8)

/-- Whether a character may follow the first letter of a scheme. -/
def isSchemeChar (c : Char) : Bool :=
  c.isAlphanum || c = '+' || c = '-' || c = '.'

/-- The scheme of a locator, lowercased, and what follows its colon. -/
def schemeOf? (cs : List Char) : Option (String × List Char) :=
  match cs with
  | c :: _ =>
    if c.isAlpha then
      let name := cs.takeWhile isSchemeChar
      match cs.drop name.length with
      | ':' :: rest => some (String.ofList (name.map Char.toLower), rest)
      | _ => none
    else none
  | [] => none

/-- Whether a character is a slash, or a backslash when backslashes count. -/
def isSlash (special : Bool) (c : Char) : Bool := c = '/' || (special && c = '\\')

/-- Check a port: digits up to a slash or backslash, below 65536. -/
def checkPort (cs : List Char) : Except UrlError Unit :=
  go 0 cs
where
  go (port : Nat) : List Char → Except UrlError Unit
    | [] => .ok ()
    | c :: rest =>
      if c.isDigit then
        let port := port * 10 + (c.toNat - '0'.toNat)
        if 65535 < port then .error .invalidPort else go port rest
      else if c = '/' || c = '\\' then .ok ()
      else .error .invalidPort

/-- Split the host from what follows it: the host ends at a `:` outside brackets or at a slash. -/
def splitHost (special : Bool) (cs : List Char) : List Char × List Char :=
  go false [] cs
where
  go (inBrackets : Bool) (acc : List Char) : List Char → List Char × List Char
    | [] => (acc.reverse, [])
    | c :: rest =>
      if (c = ':' && !inBrackets) || isSlash special c then (acc.reverse, c :: rest)
      else go (if c = '[' then true else if c = ']' then false else inBrackets) (c :: acc) rest

/-- The position of the last `@` in a list of characters. -/
def lastAt? (cs : List Char) : Option Nat :=
  (cs.zipIdx.filter (·.1 = '@')).getLast?.map (·.2)

/-- Step 4: check an authority and what follows it. `next` is the character that ended the
locator, if any. -/
def checkAuthority (special : Bool) (next : Option Char) (cs : List Char) :
    Except UrlError Unit := do
  -- user information ends at the last `@` before the first slash
  let authority := cs.takeWhile fun c => !isSlash special c
  let (credentials, hostAndPort) ←
    match lastAt? authority with
    | none => pure (false, cs)
    | some 0 =>
      let after := cs.drop 1
      let follower := match after with
        | c :: _ => some c
        | [] => next
      if follower.any (fun c => c = '?' || c = '#' || isSlash special c) then
        throw UrlError.emptyHost
      pure (false, after)
    | some i => pure (cs.take i != [':'], cs.drop (i + 1))
  let (hostText, rest) := splitHost special hostAndPort
  if special && hostText.isEmpty then throw UrlError.emptyHost
  let host ← if special then specialHost hostText else plainHost hostText
  if host.isEmpty && rest.head? = some ':' then throw UrlError.emptyHost
  match rest with
  | ':' :: port => checkPort port
  | _ => pure ()
  if host.isEmpty && credentials then throw UrlError.emptyHost

/-- Whether two characters make a Windows drive letter, such as `C:`. -/
def isDriveLetter : List Char → Bool
  | [a, b] => a.isAlpha && (b = ':' || b = '|')
  | _ => false

/-- Check the rest of a `file:` locator. -/
def checkFile (cs : List Char) : Except UrlError Unit :=
  match cs with
  | a :: b :: rest =>
    if isSlash true a && isSlash true b then
      let hostText := rest.takeWhile fun c => !isSlash true c
      if hostText.isEmpty || isDriveLetter hostText then .ok ()
      else (specialHost hostText).map fun _ => ()
    else .ok ()
  | _ => .ok ()

/-- Whether the URL a locator leads to has a special scheme: its own, or else the base's. -/
def isSpecialLocator (cs : List Char) : Bool :=
  match schemeOf? cs with
  | some (scheme, _) => isSpecialScheme scheme
  | none => true

/-- Check a locator relative to the base, whose scheme is special. -/
def checkRelative (next : Option Char) (cs : List Char) : Except UrlError Unit :=
  let slashes := (cs.takeWhile (isSlash true)).length
  if 2 ≤ slashes then checkAuthority true next (cs.drop slashes) else .ok ()

/-- Step 3: check the part of a reference that locates the resource. -/
def checkLocator (next : Option Char) (cs : List Char) : Except UrlError Unit :=
  match schemeOf? cs with
  | none => checkRelative next cs
  | some (scheme, rest) =>
    if scheme = "file" then checkFile rest
    else if isSpecialScheme scheme then
      let slashes := (rest.takeWhile (isSlash true)).length
      if scheme = "http" && slashes < 2 then .ok ()
      else checkAuthority true next (rest.drop slashes)
    else
      match rest with
      | '/' :: '/' :: after => checkAuthority false next after
      | _ => .ok ()

/-- Resolve a reference against `http://localhost/` and return its query, percent-encoded, if
it has one. -/
def resolveQuery (input : String) : Except UrlError (Option String) := do
  let cs := cleanReference input
  let locator := cs.takeWhile fun c => !endsLocator c
  checkLocator (cs.drop locator.length).head? locator
  pure ((queryOf cs).map (encodeQuery (isSpecialLocator locator)))

end Url

end QueryCompiler
