import QueryCompiler.Text.Split
/-!
# IPv4 hosts

The IPv4 reading of a host name, which accepts more than dotted decimal:

1. A host is split on `.`; one empty last part (a trailing dot) is dropped. At most four parts.
2. A part is a number: `0x` or `0X` then hex digits, or `0` then octal digits, or decimal
   digits. A bare prefix (`0x`) is zero.
3. All parts but the last are at most 255; the last fills the remaining bytes, so it is below
   `256 ^ (5 - number of parts)`.

A host is read this way exactly when it ends in a number: its last part (or, after a trailing
dot, the part before) is all decimal digits or reads as a number by rule 2.
-/

namespace QueryCompiler

namespace Url

/-- The value of a digit in the given radix. -/
def radixDigit? (radix : Nat) (c : Char) : Option Nat :=
  let d : Option Nat :=
    if '0' ≤ c ∧ c ≤ '9' then some (c.toNat - '0'.toNat)
    else if 'a' ≤ c ∧ c ≤ 'f' then some (c.toNat - 'a'.toNat + 10)
    else if 'A' ≤ c ∧ c ≤ 'F' then some (c.toNat - 'A'.toNat + 10)
    else none
  match d with
  | some v => if v < radix then some v else none
  | none => none

/-- The value of digits in a radix, if all are digits of it. -/
def radixValue? (radix : Nat) (cs : List Char) : Option Nat :=
  cs.foldlM (fun acc c => (radixDigit? radix c).map (acc * radix + ·)) 0

/-- The number a host part spells, by rule 2. -/
def ipv4Number? : List Char → Option Nat
  | [] => none
  | '0' :: x :: rest =>
    if x = 'x' ∨ x = 'X' then radixValue? 16 rest else radixValue? 8 (x :: rest)
  | cs => radixValue? 10 cs

/-- Whether a host ends in a number, in which case it must be an IPv4 address. -/
def endsInNumber (host : List Char) : Bool :=
  let parts := (Text.splitOn '.' host).reverse
  let last? : Option (List Char) :=
    match parts with
    | [] :: p :: _ => some p
    | [] :: [] => none
    | p :: _ => some p
    | [] => none
  match last? with
  | none => false
  | some last => (!last.isEmpty && last.all Char.isDigit) || (ipv4Number? last).isSome

/-- The address of an IPv4 host, as a 32-bit number. -/
def ipv4Address? (host : List Char) : Option Nat := do
  let parts := Text.splitOn '.' host
  let parts := if parts.getLast? = some [] then parts.dropLast else parts
  if 4 < parts.length then none
  let numbers ← parts.mapM ipv4Number?
  match numbers.reverse with
  | [] => none
  | last :: earlier =>
    if Nat.pow 2 (32 - 8 * earlier.length) ≤ last then none
    else if earlier.any (255 < ·) then none
    else
      let front := earlier.reverse.zipIdx.foldl (fun acc (n, i) => acc + n * Nat.pow 256 (3 - i)) 0
      some (front + last)

end Url

end QueryCompiler
