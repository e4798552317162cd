/-!
# Punycode decoding

RFC 3492 decoding of the part of a domain label after `xn--`:

1. The code points before the last `-` are basic and copied; they must be ASCII. Without a
   `-` there are none.
2. The rest is a sequence of variable-length integers in base 36 (`a`–`z` and `A`–`Z` are
   0–25, `0`–`9` are 26–35), least significant digit first, with thresholds set by an
   adaptive bias. Each integer says where the next code point goes and how far it is from
   the previous one.
3. Arithmetic is on 32-bit unsigned numbers: a step that would pass `2^32 - 1` makes the
   label undecodable, as does a code point that is a surrogate or past U+10FFFF, or input that
   ends inside an integer.
-/

namespace QueryCompiler

namespace Url

namespace Punycode

/-- The largest 32-bit unsigned number. -/
def wordMax : Nat := 4294967295

/-- The value of a base-36 digit. -/
def digitValue? (c : Char) : Option Nat :=
  if 'a' ≤ c ∧ c ≤ 'z' then some (c.toNat - 'a'.toNat)
  else if 'A' ≤ c ∧ c ≤ 'Z' then some (c.toNat - 'A'.toNat)
  else if '0' ≤ c ∧ c ≤ '9' then some (c.toNat - '0'.toNat + 26)
  else none

/-- The threshold of the digit at position `k`: `k - bias` kept within `1 … 26`. -/
def threshold (k bias : Nat) : Nat :=
  if k ≤ bias then 1 else if bias + 26 ≤ k then 26 else k - bias

/-- Divide by 35 until at most 455, counting 36 for each division. -/
def adaptLoop (delta k : Nat) : Nat × Nat :=
  if 455 < delta then adaptLoop (delta / 35) (k + 36) else (delta, k)
termination_by delta
decreasing_by omega

/-- The new bias after a code point, from the size of its step. -/
def adapt (delta numPoints : Nat) (firstTime : Bool) : Nat :=
  let d := if firstTime then delta / 700 else delta / 2
  let (d, k) := adaptLoop (d + d / numPoints) 0
  k + 36 * d / (d + 38)

/-- Read one variable-length integer onto `i`, with the weight `w` of the digit at position
`k`: the new `i` and the rest of the input. -/
def readDelta (bias : Nat) : List Char → Nat → Nat → Nat → Option (Nat × List Char)
  | [], _, _, _ => none
  | c :: rest, k, w, i =>
    match digitValue? c with
    | none => none
    | some d =>
      let i' := i + d * w
      if wordMax < i' then none
      else
        let t := threshold k bias
        if d < t then some (i', rest)
        else if wordMax < w * (36 - t) then none
        else readDelta bias rest (k + 36) (w * (36 - t)) i'

/-- Reading an integer consumes input. -/
theorem readDelta_shorter (bias : Nat) :
    ∀ (cs : List Char) (k w i : Nat) (r : Nat × List Char),
      readDelta bias cs k w i = some r → r.2.length < cs.length
  | [], _, _, _, _, h => by simp [readDelta] at h
  | c :: rest, k, w, i, r, h => by
    rw [readDelta] at h
    split at h
    · simp at h
    · simp only at h
      split at h
      · simp at h
      · split at h
        · cases h; simp
        · split at h
          · simp at h
          · have := readDelta_shorter bias rest _ _ _ r h
            simp only [List.length_cons]
            omega

/-- Insert the code points one integer at a time: `n` is the last code point, `i` the
position, and `out` the label decoded so far. -/
def decodeLoop (bias n i : Nat) (out : List Char) (cs : List Char) : Option (List Char) :=
  match cs with
  | [] => some out
  | c :: rest =>
    match hd : readDelta bias (c :: rest) 36 1 i with
    | none => none
    | some (i', rem) =>
      let points := out.length + 1
      let n' := n + i' / points
      if wordMax < n' then none
      else if (0xD800 ≤ n' ∧ n' ≤ 0xDFFF) ∨ 0x10FFFF < n' then none
      else
        let pos := i' % points
        decodeLoop (adapt (i' - i) points (i == 0)) n' (pos + 1)
          (out.insertIdx pos (Char.ofNat n')) rem
termination_by cs.length
decreasing_by
  have := readDelta_shorter bias (c :: rest) 36 1 i (i', rem) hd
  simpa using this

/-- Split at the last `-`: the basic code points before it and the digits after it. -/
def splitLastHyphen (cs : List Char) : List Char × List Char :=
  match cs.reverse.span (· ≠ '-') with
  | (revTail, []) => ([], revTail.reverse)
  | (revTail, _ :: revHead) => (revHead.reverse, revTail.reverse)

/-- Decode the text of a label after its `xn--` prefix. -/
def decode (cs : List Char) : Option (List Char) :=
  let (basic, digits) := splitLastHyphen cs
  if basic.any (fun c => 0x80 ≤ c.toNat) then none
  else decodeLoop 72 128 0 basic digits

/-! ## Encoding -/

/-- The base-36 digit for a value below 36. -/
def digitChar (d : Nat) : Char :=
  if d < 26 then Char.ofNat ('a'.toNat + d) else Char.ofNat ('0'.toNat + d - 26)

/-- Thresholds are at least one. -/
theorem one_le_threshold (k bias : Nat) : 1 ≤ threshold k bias := by
  unfold threshold; split <;> (try split) <;> omega

/-- Thresholds are at most twenty-six. -/
theorem threshold_le (k bias : Nat) : threshold k bias ≤ 26 := by
  unfold threshold; split <;> (try split) <;> omega

/-- Write the integer `q` as variable-length digits, starting at position `k`. -/
def encodeDelta (bias k q : Nat) : List Char :=
  if q < threshold k bias then [digitChar q]
  else
    digitChar (threshold k bias + (q - threshold k bias) % (36 - threshold k bias)) ::
      encodeDelta bias (k + 36) ((q - threshold k bias) / (36 - threshold k bias))
termination_by q
decreasing_by
  have h1 := one_le_threshold k bias
  have h2 := threshold_le k bias
  have : (q - threshold k bias) / (36 - threshold k bias) ≤ q - threshold k bias :=
    Nat.div_le_self _ _
  omega

/-- The state of the encoder: digits written, the running delta, the bias, and how many code
points are handled. -/
structure Encoder where
  out : List Char
  delta : Nat
  bias : Nat
  handled : Nat

/-- Visit one input code point while the code point `m` is being placed. -/
def Encoder.visit (basic m : Nat) (e : Encoder) (c : Char) : Encoder :=
  if c.toNat < m then { e with delta := e.delta + 1 }
  else if c.toNat = m then
    { out := e.out ++ encodeDelta e.bias 36 e.delta, delta := 0,
      bias := adapt e.delta (e.handled + 1) (e.handled == basic), handled := e.handled + 1 }
  else e

/-- Place the non-basic code points `ms`, in increasing order; `n` is the previous one plus one. -/
def encodeLoop (input : List Char) (basic : Nat) : List Nat → Nat → Encoder → Encoder
  | [], _, e => e
  | m :: ms, n, e =>
    let e := { e with delta := e.delta + (m - n) * (e.handled + 1) }
    let e := input.foldl (Encoder.visit basic m) e
    encodeLoop input basic ms (m + 1) { e with delta := e.delta + 1 }

/-- The distinct non-ASCII code points of a text, in increasing order. -/
def nonBasicPoints (input : List Char) : List Nat :=
  ((input.filter (fun c => 0x80 ≤ c.toNat)).map Char.toNat).mergeSort.eraseDups

/-- Encode a label: its ASCII characters, a `-` if there were any, then the digits that place
the others. -/
def encode (input : List Char) : List Char :=
  let basic := input.filter (fun c => c.toNat < 0x80)
  let e := encodeLoop input basic.length (nonBasicPoints input) 128
    { out := [], delta := 0, bias := 72, handled := basic.length }
  basic ++ (if basic.isEmpty then [] else ['-']) ++ e.out

end Punycode

end Url

end QueryCompiler
