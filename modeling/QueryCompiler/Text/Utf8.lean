/-!
# UTF-8

Encoding text as bytes, and decoding bytes that may not be valid UTF-8.

Decoding replaces each maximal ill-formed part with one U+FFFD, as the Unicode standard
recommends: a lead byte with the continuation bytes that may legally follow it so far, or a
single byte that can begin no sequence. The ranges allowed for the second byte exclude overlong
forms, surrogates and code points past U+10FFFF.
-/

namespace QueryCompiler

namespace Text

/-- The replacement character. -/
def replacement : Char := '�'

/-- The bytes of a text. -/
def utf8Bytes (s : String) : List UInt8 := s.toUTF8.toList

/-- Whether a byte is a continuation byte within `lo … hi`. -/
def inRange (lo hi : UInt8) (b : UInt8) : Bool := lo ≤ b && b ≤ hi

/-- The low six bits of a continuation byte. -/
def low6 (b : UInt8) : Nat := (b &&& 0x3F).toNat

/-- Whether the continuation bytes `cs` follow a lead byte: the first must lie within
`lo … hi`, the others within `0x80 … 0xBF`. Returns how many of them do, from the start. -/
def fitting (lo hi : UInt8) : List UInt8 → Nat
  | [] => 0
  | c :: cs =>
    if inRange lo hi c then 1 + (cs.takeWhile (inRange 0x80 0xBF)).length else 0

/-- The character a well-formed sequence of a lead byte and continuation bytes encodes. -/
def sequenceValue (lead : Nat) (conts : List UInt8) : Nat :=
  conts.foldl (fun acc c => acc * 64 + low6 c) lead

/-- The head of a byte list: the character its first sequence encodes, or none when that
sequence is ill-formed, and how many bytes beyond the first the sequence takes. -/
def headSequence : List UInt8 → Option Char × Nat
  | [] => (none, 0)
  | b :: rest =>
    if b < 0x80 then (some (Char.ofNat b.toNat), 0)
    else
      -- the number of continuation bytes, the range of the first one, and the lead's bits
      let shape : Option (Nat × UInt8 × UInt8 × Nat) :=
        if inRange 0xC2 0xDF b then some (1, 0x80, 0xBF, (b &&& 0x1F).toNat)
        else if b = 0xE0 then some (2, 0xA0, 0xBF, 0)
        else if b = 0xED then some (2, 0x80, 0x9F, 0xD)
        else if inRange 0xE1 0xEF b then some (2, 0x80, 0xBF, (b &&& 0x0F).toNat)
        else if b = 0xF0 then some (3, 0x90, 0xBF, 0)
        else if b = 0xF4 then some (3, 0x80, 0x8F, 4)
        else if inRange 0xF1 0xF3 b then some (3, 0x80, 0xBF, (b &&& 0x07).toNat)
        else none
      match shape with
      | none => (none, 0)
      | some (n, lo, hi, lead) =>
        let k := min n (fitting lo hi (rest.take n))
        if k = n then (some (Char.ofNat (sequenceValue lead (rest.take n))), n) else (none, k)

/-- Decode bytes, replacing ill-formed parts with U+FFFD. -/
def decodeLossy (bs : List UInt8) : List Char :=
  if _h : bs = [] then []
  else
    let (c, k) := headSequence bs
    c.getD replacement :: decodeLossy (bs.drop (k + 1))
termination_by bs.length
decreasing_by
  have : bs.length ≠ 0 := by simpa using _h
  simp only [List.length_drop]
  omega

/-- Text from bytes, with ill-formed parts replaced. -/
def ofBytesLossy (bs : List UInt8) : String := String.ofList (decodeLossy bs)

end Text

end QueryCompiler
