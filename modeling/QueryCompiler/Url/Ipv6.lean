/-!
# IPv6 hosts

The IPv6 reading of the text between brackets:

1. Up to eight pieces of one to four hex digits, separated by `:`. One `::` may stand for a
   run of zero pieces; a leading `:` must be part of `::`, and a trailing single `:` is refused.
2. The last two pieces may be written as a dotted-decimal IPv4 address: four decimal numbers of
   at most 255 without leading zeros, which needs room for two pieces.
3. Without `::` there must be exactly eight pieces.
-/

namespace QueryCompiler

namespace Url

/-- Read up to four hex digits: their value, how many there were, and the rest. -/
def hexPiece (cs : List Char) : Nat × Nat × List Char :=
  let ds := (cs.take 4).takeWhile fun c => c.isDigit || ('a' ≤ c ∧ c ≤ 'f') || ('A' ≤ c ∧ c ≤ 'F')
  let value := ds.foldl (fun acc c =>
    acc * 16 + (if c.isDigit then c.toNat - '0'.toNat
      else if 'a' ≤ c ∧ c ≤ 'f' then c.toNat - 'a'.toNat + 10 else c.toNat - 'A'.toNat + 10)) 0
  (value, ds.length, cs.drop ds.length)

/-- Read a decimal number of at most 255 without leading zeros, and the rest. -/
def decimalByte? (cs : List Char) : Option (Nat × List Char) :=
  let ds := cs.takeWhile Char.isDigit
  match ds with
  | [] => none
  | ['0'] => some (0, cs.drop 1)
  | '0' :: _ => none
  | _ =>
    let v := ds.foldl (fun acc c => acc * 10 + (c.toNat - '0'.toNat)) 0
    if 255 < v then none else some (v, cs.drop ds.length)

/-- Read a dotted-decimal address filling the two pieces it stands for. -/
def embeddedIpv4? (cs : List Char) : Option (Nat × Nat) := do
  let (a, cs) ← decimalByte? cs
  let cs ← match cs with | '.' :: r => some r | _ => none
  let (b, cs) ← decimalByte? cs
  let cs ← match cs with | '.' :: r => some r | _ => none
  let (c, cs) ← decimalByte? cs
  let cs ← match cs with | '.' :: r => some r | _ => none
  let (d, cs) ← decimalByte? cs
  if cs.isEmpty then some (a * 256 + b, c * 256 + d) else none

/-- The address once the text is read: `pieces` holds every slot used so far, a `::`
counting for one zero slot, and `compress` is the slot after that zero if a `::` was seen. The
zeros it stands for go in at `compress` until there are eight pieces. -/
def expandPieces (pieces : List Nat) (compress : Option Nat) : Option (List Nat) :=
  match compress with
  | some c => some (pieces.take c ++ List.replicate (8 - pieces.length) 0 ++ pieces.drop c)
  | none => if pieces.length = 8 then some pieces else none

/-- What is left of the text after the hex digits `hexPiece` reads. -/
theorem hexPiece_rest (cs : List Char) : ∃ k, (hexPiece cs).2.2 = cs.drop k :=
  ⟨_, rfl⟩

/-- Read the pieces after the start, with the slots used so far and the place of `::`. -/
def ipv6Pieces (pieces : List Nat) (compress : Option Nat) (cs : List Char) :
    Option (List Nat) :=
  match cs with
  | [] => expandPieces pieces compress
  | c :: rest =>
    if pieces.length = 8 then none
    else if c = ':' then
      if compress.isSome then none
      else ipv6Pieces (pieces ++ [0]) (some (pieces.length + 1)) rest
    else
      match _h : hexPiece (c :: rest) with
      | (_, n, '.' :: _) =>
        if n = 0 || 6 < pieces.length then none
        else
          match embeddedIpv4? (c :: rest) with
          | some (hi, lo) => expandPieces (pieces ++ [hi, lo]) compress
          | none => none
      | (value, n, ':' :: after) =>
        if n = 0 || after.isEmpty then none
        else ipv6Pieces (pieces ++ [value]) compress after
      | (value, n, []) => if n = 0 then none else expandPieces (pieces ++ [value]) compress
      | _ => none
termination_by cs.length
decreasing_by
  · simp
  · obtain ⟨k, hk⟩ := hexPiece_rest (c :: rest)
    rw [_h] at hk
    have hl := congrArg List.length hk
    simp only [List.length_cons, List.length_drop] at hl ⊢
    omega

/-- The eight pieces of an IPv6 address written without its brackets. -/
def ipv6Address? (cs : List Char) : Option (List Nat) :=
  match cs with
  | ':' :: ':' :: rest => ipv6Pieces [0] (some 1) rest
  | ':' :: _ => none
  | _ => if cs.length < 2 then none else ipv6Pieces [] none cs

end Url

end QueryCompiler
