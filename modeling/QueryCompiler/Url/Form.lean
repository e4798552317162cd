import QueryCompiler.Text.Utf8

/-!
# Form-encoded pairs

Decoding `application/x-www-form-urlencoded` text into name–value pairs, over its bytes:

1. Split on `&` and drop the empty pieces.
2. Split each piece at its first `=`; a piece without one has the empty value.
3. In name and value, `+` becomes a space; then `%` followed by two hex digits becomes that
   byte, and any other `%` stays as it is.
4. The bytes are read as UTF-8, each ill-formed part becoming U+FFFD.

The `+` is replaced before percent-decoding, so `%2B` yields a plus sign.
-/

namespace QueryCompiler

namespace Url

/-- The value of a hex digit byte of either case. -/
def hexValue? (b : UInt8) : Option Nat :=
  if 0x30 ≤ b ∧ b ≤ 0x39 then some (b.toNat - 0x30)
  else if 0x41 ≤ b ∧ b ≤ 0x46 then some (b.toNat - 0x41 + 10)
  else if 0x61 ≤ b ∧ b ≤ 0x66 then some (b.toNat - 0x61 + 10)
  else none

/-- Replace each `%` and two hex digits by the byte they spell. -/
def percentDecode (bs : List UInt8) : List UInt8 :=
  match bs with
  | b :: h :: l :: rest =>
    if b = 0x25 then
      match hexValue? h, hexValue? l with
      | some x, some y => UInt8.ofNat (x * 16 + y) :: percentDecode rest
      | _, _ => b :: percentDecode (h :: l :: rest)
    else b :: percentDecode (h :: l :: rest)
  | b :: rest => b :: percentDecode rest
  | [] => []
termination_by bs.length

/-- Split bytes at every occurrence of `sep`. -/
def splitBytes (sep : UInt8) : List UInt8 → List (List UInt8)
  | [] => [[]]
  | b :: bs =>
    if b = sep then [] :: splitBytes sep bs
    else
      match splitBytes sep bs with
      | p :: ps => (b :: p) :: ps
      | [] => [[b]]

/-- Decode one name or value: plus signs to spaces, then percent escapes, then UTF-8. -/
def decodeComponent (bs : List UInt8) : String :=
  Text.ofBytesLossy (percentDecode (bs.map fun b => if b = 0x2B then 0x20 else b))

/-- Decode one piece into its name and value. -/
def decodePair (piece : List UInt8) : String × String :=
  (decodeComponent (piece.takeWhile (· ≠ 0x3D)), decodeComponent ((piece.dropWhile (· ≠ 0x3D)).drop 1))

/-- The name–value pairs of form-encoded bytes. -/
def formPairsOfBytes (bs : List UInt8) : List (String × String) :=
  ((splitBytes 0x26 bs).filter (fun p => !p.isEmpty)).map decodePair

/-- The name–value pairs of form-encoded text. -/
def formPairs (s : String) : List (String × String) :=
  formPairsOfBytes (Text.utf8Bytes s)

end Url

end QueryCompiler
