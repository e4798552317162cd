import QueryCompiler.Request.Basic
import Mathlib

/-!
# The query survives the URL

A resolved URL keeps its query percent-encoded (`Url.encodeQuery`), and a request reads that
text back as a form (`Url.formPairs`). Decoding undoes the encoding for every text, because the
encoding touches nothing that form decoding looks at:

* no byte the query escapes is `%`, `&`, `+`, `=` or a hex digit (`queryEscapes_formSafe`), and
  an escape is `%` and two hex digits, so splitting at `&` and at the first `=` and turning `+`
  into a space all commute with escaping (`splitBytes_percentEncode`, `decodePair_percentEncode`);
* an escape never merges with what stands around it (`percentDecode_of_spells`): a `%` just
  before it meets `%` where it needs a hex digit, just as it meets the escaped byte itself,
  which is no hex digit either.

So a query kept with such escapes reads back as the pairs of the query itself. What reading a
request takes from a URL library is a `UrlReader`, and `UrlReader.Standard` says what the URL
and form standards ask of one: after `?` alone, or after a prefix of scheme http or https that
resolves on its own, a query resolves and is kept with only bytes of the special-query
percent-encode set escaped, and its pairs are read as a form. Every such reader reads the query's
own pairs (`Request.ofUrlWith_eq_ofPairs_formPairs`), and this library's reader is one
(`UrlReader.whatwg_standard`): whatever stands before the `?` is checked alike whether or not a
query follows, for a prefix of special scheme, and the query is kept as `Url.encodeQuery` writes
it. A prefix that ends in a space or a control is left out: the space is trimmed from the prefix
alone but becomes part of it once a query follows (`Request.ofUrl_padded_prefix_refused`).
-/

namespace QueryCompiler

namespace Url

/-! ## Percent-decoding, one step at a time -/

/-- A byte other than `%` is read as itself. -/
theorem percentDecode_cons_of_ne {b : UInt8} (hb : b ≠ 0x25) (t : List UInt8) :
    percentDecode (b :: t) = b :: percentDecode t := by
  match t with
  | [] => simp [percentDecode]
  | [x] => simp [percentDecode]
  | x :: y :: rest => rw [percentDecode, if_neg hb]

/-- `%` and two hex digits are read as the byte they spell. -/
theorem percentDecode_pct_hex {x y : UInt8} {a c : Nat} (hx : hexValue? x = some a)
    (hy : hexValue? y = some c) (t : List UInt8) :
    percentDecode (0x25 :: x :: y :: t) = UInt8.ofNat (a * 16 + c) :: percentDecode t := by
  rw [percentDecode, if_pos rfl, hx, hy]

/-- A `%` not followed by two hex digits is read as itself. -/
theorem percentDecode_pct_of_not_hex {x y : UInt8} (h : hexValue? x = none ∨ hexValue? y = none)
    (t : List UInt8) :
    percentDecode (0x25 :: x :: y :: t) = 0x25 :: percentDecode (x :: y :: t) := by
  rw [percentDecode, if_pos rfl]
  rcases h with h | h <;> simp [h]

/-- A `%` followed by no hex digit is read as itself, however much follows. -/
theorem percentDecode_pct_of_fst {x : UInt8} (hx : hexValue? x = none) (t : List UInt8) :
    percentDecode (0x25 :: x :: t) = 0x25 :: percentDecode (x :: t) := by
  match t with
  | [] => simp [percentDecode]
  | y :: t => exact percentDecode_pct_of_not_hex (.inl hx) t

theorem hexValue?_hexDigit {n : Nat} (hn : n < 16) : hexValue? (hexDigit n) = some n := by
  interval_cases n <;> rfl

/-- A hex digit is none of the bytes form decoding splits at or translates, and is ASCII. -/
theorem hexDigit_plain {n : Nat} (hn : n < 16) :
    hexDigit n ≠ 0x25 ∧ hexDigit n ≠ 0x26 ∧ hexDigit n ≠ 0x2B ∧ hexDigit n ≠ 0x3D ∧
      hexDigit n < 0x80 := by
  interval_cases n <;> decide

theorem hexValue?_eq_none_iff (b : UInt8) : hexValue? b = none ↔
    ¬(0x30 ≤ b.toNat ∧ b.toNat ≤ 0x39) ∧ ¬(0x41 ≤ b.toNat ∧ b.toNat ≤ 0x46) ∧
      ¬(0x61 ≤ b.toNat ∧ b.toNat ≤ 0x66) := by
  unfold hexValue?
  split_ifs <;> simp_all [UInt8.le_iff_toNat_le]

/-- An escape is read as the byte it escapes. -/
theorem percentDecode_escape (b : UInt8) (t : List UInt8) :
    percentDecode (0x25 :: hexDigit (b.toNat / 16) :: hexDigit (b.toNat % 16) :: t) =
      b :: percentDecode t := by
  have hb := b.toNat_lt
  rw [percentDecode_pct_hex (hexValue?_hexDigit (by omega)) (hexValue?_hexDigit (by omega)),
    Nat.div_add_mod', UInt8.ofNat_toNat]

/-! ## Escapes that decoding cannot tell apart -/

/-- `ys` spells the bytes `xs`, some of them escaped as `%` and two hex digits; a byte that is
escaped is neither `%` nor a hex digit. -/
inductive Spells : List UInt8 → List UInt8 → Prop
  | nil : Spells [] []
  | keep (b : UInt8) {xs ys : List UInt8} : Spells xs ys → Spells (b :: xs) (b :: ys)
  | escape {b : UInt8} {xs ys : List UInt8} : b ≠ 0x25 → hexValue? b = none → Spells xs ys →
      Spells (b :: xs) (0x25 :: hexDigit (b.toNat / 16) :: hexDigit (b.toNat % 16) :: ys)

/-- Percent-decoding reads a spelling as it reads the bytes spelled. Decoding looks two bytes
past a `%`, so the recursion is on the length of the bytes spelled, not on the spelling. -/
theorem percentDecode_of_spells {xs ys : List UInt8} (h : Spells xs ys) :
    percentDecode ys = percentDecode xs := by
  match h with
  | .nil => rfl
  | .escape hb _ h' =>
    rw [percentDecode_escape, percentDecode_cons_of_ne hb, percentDecode_of_spells h']
  | .keep b h' =>
    if hb : b = 0x25 then
      subst hb
      match h' with
      | .nil => rfl
      | .escape hc hcx h'' =>
        -- the `%` meets `%` in the spelling and the escaped byte in the bytes: no hex digit
        rw [percentDecode_pct_of_fst rfl, percentDecode_escape, percentDecode_pct_of_fst hcx,
          percentDecode_cons_of_ne hc, percentDecode_of_spells h'']
      | .keep c h'' =>
        match h'' with
        | .nil => rfl
        | .escape hd hdx h3 =>
          rw [percentDecode_pct_of_not_hex (.inr rfl), percentDecode_pct_of_not_hex (.inr hdx),
            percentDecode_of_spells (.keep c (.escape hd hdx h3))]
        | .keep d h3 =>
          -- the same three bytes: both decode them, or both read the `%` alone
          have hrest := percentDecode_of_spells h3
          have hnext := percentDecode_of_spells (.keep c (.keep d h3))
          cases hc : hexValue? c with
          | none =>
            rw [percentDecode_pct_of_not_hex (.inl hc), percentDecode_pct_of_not_hex (.inl hc),
              hnext]
          | some a =>
            cases hd : hexValue? d with
            | none =>
              rw [percentDecode_pct_of_not_hex (.inr hd), percentDecode_pct_of_not_hex (.inr hd),
                hnext]
            | some e => rw [percentDecode_pct_hex hc hd, percentDecode_pct_hex hc hd, hrest]
    else
      rw [percentDecode_cons_of_ne hb, percentDecode_cons_of_ne hb, percentDecode_of_spells h']
termination_by xs.length

/-! ## Escaping commutes with form decoding -/

/-- A choice of bytes to escape that form decoding cannot see: none of `%`, `&`, `+`, `=`, and
no hex digit. -/
def FormSafe (escapes : UInt8 → Bool) : Prop :=
  ∀ b, escapes b = true → b ≠ 0x25 ∧ b ≠ 0x26 ∧ b ≠ 0x2B ∧ b ≠ 0x3D ∧ hexValue? b = none

theorem queryEscapes_formSafe (special : Bool) : FormSafe (queryEscapes special) := by
  intro b h
  simp only [queryEscapes, Bool.or_eq_true, decide_eq_true_eq, Bool.and_eq_true,
    UInt8.le_iff_toNat_le, UInt8.ext_iff] at h
  simp only [ne_eq, UInt8.ext_iff, hexValue?_eq_none_iff]
  simp at h ⊢
  omega

theorem percentEncode_cons (escapes : UInt8 → Bool) (b : UInt8) (bs : List UInt8) :
    percentEncode escapes (b :: bs) =
      (if escapes b then [0x25, hexDigit (b.toNat / 16), hexDigit (b.toNat % 16)] else [b]) ++
        percentEncode escapes bs :=
  List.flatMap_cons

theorem isEmpty_percentEncode (escapes : UInt8 → Bool) (bs : List UInt8) :
    (percentEncode escapes bs).isEmpty = bs.isEmpty := by
  cases bs with
  | nil => rfl
  | cons b bs =>
    rw [percentEncode_cons]
    split <;> rfl

section FormSafe

variable {escapes : UInt8 → Bool}

theorem escapes_eq_false (hsafe : FormSafe escapes) {b : UInt8}
    (h : b = 0x25 ∨ b = 0x26 ∨ b = 0x2B ∨ b = 0x3D) : escapes b = false := by
  cases hb : escapes b with
  | false => rfl
  | true =>
    obtain ⟨h1, h2, h3, h4, -⟩ := hsafe b hb
    rcases h with rfl | rfl | rfl | rfl <;> contradiction

/-- What a byte other than `=` is encoded as holds no `=`. -/
theorem ne_eq_of_mem_encoded {b x : UInt8} (hb : b ≠ 0x3D)
    (hx : x ∈ (if escapes b then [0x25, hexDigit (b.toNat / 16), hexDigit (b.toNat % 16)]
      else [b])) : x ≠ 0x3D := by
  have hlt := b.toNat_lt
  have hhi := hexDigit_plain (n := b.toNat / 16) (by omega)
  have hlo := hexDigit_plain (n := b.toNat % 16) (by omega)
  split at hx <;> simp at hx <;> rcases hx with rfl | rfl | rfl <;> simp_all

/-- With `+` read as a space, the escaped bytes still spell the bytes. -/
theorem spells_percentEncode (hsafe : FormSafe escapes) (bs : List UInt8) :
    Spells (bs.map fun b => if b = 0x2B then 0x20 else b)
      ((percentEncode escapes bs).map fun b => if b = 0x2B then 0x20 else b) := by
  induction bs with
  | nil => exact .nil
  | cons b bs ih =>
    rw [percentEncode_cons]
    cases hb : escapes b with
    | false => exact .keep _ ih
    | true =>
      obtain ⟨hpct, -, hplus, -, hhex⟩ := hsafe b hb
      have hlt := b.toNat_lt
      have hhi := hexDigit_plain (n := b.toNat / 16) (by omega)
      have hlo := hexDigit_plain (n := b.toNat % 16) (by omega)
      simp only [if_true, List.cons_append, List.nil_append, List.map_cons, hplus, hhi.2.2.1,
        hlo.2.2.1, if_false]
      exact .escape hpct hhex ih

theorem splitBytes_ne_nil (sep : UInt8) (bs : List UInt8) : splitBytes sep bs ≠ [] := by
  cases bs with
  | nil => simp [splitBytes]
  | cons b bs =>
    rw [splitBytes]
    split
    · simp
    · split <;> simp

theorem splitBytes_cons_of_ne {sep b : UInt8} (h : b ≠ sep) (bs : List UInt8) :
    splitBytes sep (b :: bs) = (splitBytes sep bs).modifyHead (b :: ·) := by
  obtain ⟨p, ps, hps⟩ := List.exists_cons_of_ne_nil (splitBytes_ne_nil sep bs)
  rw [splitBytes, if_neg h, hps]
  rfl

theorem splitBytes_append_of_ne {sep : UInt8} {pre : List UInt8} (h : ∀ x ∈ pre, x ≠ sep)
    (bs : List UInt8) :
    splitBytes sep (pre ++ bs) = (splitBytes sep bs).modifyHead (pre ++ ·) := by
  induction pre with
  | nil =>
    rw [List.nil_append]
    cases splitBytes sep bs <;> rfl
  | cons x pre ih =>
    rw [List.cons_append, splitBytes_cons_of_ne (h x (by simp)),
      ih fun y hy => h y (List.mem_cons_of_mem _ hy)]
    cases splitBytes sep bs <;> rfl

/-- Splitting at `&` finds the same pieces, escaped, in the escaped bytes. -/
theorem splitBytes_percentEncode (hsafe : FormSafe escapes) (bs : List UInt8) :
    splitBytes 0x26 (percentEncode escapes bs) =
      (splitBytes 0x26 bs).map (percentEncode escapes) := by
  induction bs with
  | nil => rfl
  | cons b bs ih =>
    by_cases hamp : b = 0x26
    · -- `&` is kept as it is, so both split at it
      subst hamp
      rw [percentEncode_cons, escapes_eq_false hsafe (by simp), if_neg Bool.false_ne_true,
        List.singleton_append, splitBytes, if_pos rfl, ih, splitBytes, if_pos rfl, List.map_cons]
      rfl
    · have hlt := b.toNat_lt
      have hchunk : ∀ x ∈ (if escapes b then [0x25, hexDigit (b.toNat / 16),
          hexDigit (b.toNat % 16)] else [b]), x ≠ 0x26 := by
        split
        · have hhi := hexDigit_plain (n := b.toNat / 16) (by omega)
          have hlo := hexDigit_plain (n := b.toNat % 16) (by omega)
          simp [hhi.2.1, hlo.2.1]
        · simpa using hamp
      rw [percentEncode_cons, splitBytes_append_of_ne hchunk, ih, splitBytes_cons_of_ne hamp]
      obtain ⟨p, ps, hps⟩ := List.exists_cons_of_ne_nil (splitBytes_ne_nil 0x26 bs)
      rw [hps]
      simp [percentEncode_cons]

/-- The name of an escaped piece is the escaped name. -/
theorem takeWhile_percentEncode (hsafe : FormSafe escapes) (p : List UInt8) :
    (percentEncode escapes p).takeWhile (· ≠ 0x3D) =
      percentEncode escapes (p.takeWhile (· ≠ 0x3D)) := by
  induction p with
  | nil => rfl
  | cons b p ih =>
    rw [percentEncode_cons]
    by_cases heq : b = 0x3D
    · subst heq
      rw [escapes_eq_false hsafe (by simp)]
      simp [percentEncode]
    · rw [List.takeWhile_append_of_pos fun x hx => by simpa using ne_eq_of_mem_encoded heq hx, ih,
        List.takeWhile_cons_of_pos (by simpa using heq), percentEncode_cons]

/-- The value of an escaped piece is the escaped value. -/
theorem dropWhile_percentEncode (hsafe : FormSafe escapes) (p : List UInt8) :
    ((percentEncode escapes p).dropWhile (· ≠ 0x3D)).drop 1 =
      percentEncode escapes ((p.dropWhile (· ≠ 0x3D)).drop 1) := by
  induction p with
  | nil => rfl
  | cons b p ih =>
    rw [percentEncode_cons]
    by_cases heq : b = 0x3D
    · subst heq
      rw [escapes_eq_false hsafe (by simp)]
      simp
    · rw [List.dropWhile_append_of_pos fun x hx => by simpa using ne_eq_of_mem_encoded heq hx, ih,
        List.dropWhile_cons_of_pos (by simpa using heq)]

theorem decodeComponent_percentEncode (hsafe : FormSafe escapes) (p : List UInt8) :
    decodeComponent (percentEncode escapes p) = decodeComponent p := by
  unfold decodeComponent
  rw [percentDecode_of_spells (spells_percentEncode hsafe p)]

theorem decodePair_percentEncode (hsafe : FormSafe escapes) (p : List UInt8) :
    decodePair (percentEncode escapes p) = decodePair p := by
  unfold decodePair
  rw [takeWhile_percentEncode hsafe, dropWhile_percentEncode hsafe,
    decodeComponent_percentEncode hsafe, decodeComponent_percentEncode hsafe]

/-- Escaping bytes that form decoding cannot see leaves the pairs as they are. -/
theorem formPairsOfBytes_percentEncode (hsafe : FormSafe escapes) (bs : List UInt8) :
    formPairsOfBytes (percentEncode escapes bs) = formPairsOfBytes bs := by
  unfold formPairsOfBytes
  rw [splitBytes_percentEncode hsafe, List.filter_map, List.map_map]
  have hkeep : ((fun p : List UInt8 => !p.isEmpty) ∘ percentEncode escapes) =
      fun p => !p.isEmpty := by
    funext p
    simp only [Function.comp_apply, isEmpty_percentEncode]
  have hpair : (decodePair ∘ percentEncode escapes) = decodePair :=
    funext (decodePair_percentEncode hsafe)
  rw [hkeep, hpair]

/-- Escaping keeps the bytes ASCII when it escapes every byte from 0x80 on. -/
theorem lt_of_mem_percentEncode (hkeep : ∀ b, escapes b = false → b < 0x80) {bs : List UInt8} :
    ∀ x ∈ percentEncode escapes bs, x < 0x80 := by
  intro x hx
  obtain ⟨b, -, hx⟩ := List.mem_flatMap.mp hx
  have hlt := b.toNat_lt
  split at hx
  · have hhi := hexDigit_plain (n := b.toNat / 16) (by omega)
    have hlo := hexDigit_plain (n := b.toNat % 16) (by omega)
    simp only [List.mem_cons, List.not_mem_nil, or_false] at hx
    rcases hx with rfl | rfl | rfl
    · decide
    · exact hhi.2.2.2.2
    · exact hlo.2.2.2.2
  · rw [List.mem_singleton] at hx
    subst hx
    exact hkeep x (by simpa using ‹¬escapes x = true›)

end FormSafe

/-! ## The bytes of an encoded query -/

theorem toList_loop (a : ByteArray) (i : Nat) (r : List UInt8) :
    ByteArray.toList.loop a i r = r.reverse ++ a.data.toList.drop i := by
  fun_induction ByteArray.toList.loop a i r with
  | case1 i r hi ih =>
    rw [ih, List.reverse_cons, List.append_assoc, List.singleton_append]
    congr 1
    have hi' : i < a.data.toList.length := by simpa using hi
    rw [List.drop_eq_getElem_cons hi']
    congr 1
    simp [ByteArray.get!, hi]
  | case2 i r hi =>
    have hi' : a.data.toList.length ≤ i := by simpa using hi
    simp [List.drop_eq_nil_of_le hi']

theorem toList_toByteArray (bs : List UInt8) : bs.toByteArray.toList = bs := by
  rw [ByteArray.toList, toList_loop]
  simp

theorem utf8Bytes_ofList (cs : List Char) :
    Text.utf8Bytes (String.ofList cs) = cs.flatMap String.utf8EncodeChar := by
  rw [Text.utf8Bytes, String.toUTF8_eq_toByteArray, String.toByteArray_ofList, List.utf8Encode,
    toList_toByteArray]

theorem utf8EncodeChar_ofUInt8 {b : UInt8} (h : b < 0x80) :
    String.utf8EncodeChar (Char.ofUInt8 b) = [b] := by
  rw [String.utf8EncodeChar_eq_singleton]
  · simp [Char.ofUInt8]
  · rw [Char.utf8Size_eq_one_iff]
    simp only [Char.ofUInt8]
    rw [UInt32.le_iff_toNat_le]
    simp only [UInt8.toNat_toUInt32, UInt32.reduceToNat]
    have := UInt8.lt_iff_toNat_lt.mp h
    simp at this
    omega

/-- ASCII bytes, read as characters, are the bytes of the text they make. -/
theorem utf8Bytes_ofAscii {bs : List UInt8} (h : ∀ b ∈ bs, b < 0x80) :
    Text.utf8Bytes (String.ofList (bs.map Char.ofUInt8)) = bs := by
  rw [utf8Bytes_ofList, List.flatMap_map]
  calc bs.flatMap (fun b => String.utf8EncodeChar (Char.ofUInt8 b))
      = bs.flatMap (fun b => [b]) :=
        List.flatMap_congr fun b hb => utf8EncodeChar_ofUInt8 (h b hb)
    _ = bs := List.flatMap_singleton' bs

/-- The bytes of an encoded query are the query's bytes, escaped. -/
theorem utf8Bytes_encodeQuery (special : Bool) (q : String) :
    Text.utf8Bytes (encodeQuery special q) =
      percentEncode (queryEscapes special) (Text.utf8Bytes q) := by
  refine utf8Bytes_ofAscii (lt_of_mem_percentEncode fun b hb => ?_)
  -- a byte the query keeps is below 0x7F
  simp only [queryEscapes, Bool.or_eq_false_iff, decide_eq_false_iff_not] at hb
  have hlow := hb.1.2
  rw [UInt8.lt_iff_toNat_lt]
  rw [UInt8.le_iff_toNat_le] at hlow
  simp at hlow ⊢
  omega

/-! ## Resolution around a query -/

/-- For a special scheme, what ends the locator does not matter to the authority: with nothing
after an `@`, the host is empty either way. -/
theorem checkAuthority_next (next : Option Char) (cs : List Char) :
    checkAuthority true next cs = checkAuthority true none cs := by
  unfold checkAuthority
  dsimp only
  cases lastAt? (List.takeWhile (fun c => !isSlash true c) cs) with
  | none => rfl
  | some i =>
    cases i with
    | succ i => rfl
    | zero =>
      cases cs.drop 1 with
      | cons c rest => rfl
      | nil =>
        cases next <;> simp [splitHost, splitHost.go, bind, Except.bind, throw, throwThe,
          MonadExceptOf.throw, pure, Except.pure]

theorem checkLocator_next {L : List Char} (h : isSpecialLocator L = true) (next : Option Char) :
    checkLocator next L = checkLocator none L := by
  unfold isSpecialLocator at h
  unfold checkLocator checkRelative
  cases hs : schemeOf? L with
  | none => simp only [checkAuthority_next]
  | some p =>
    obtain ⟨scheme, rest⟩ := p
    simp only [hs] at h
    simp only [h, if_true, checkAuthority_next]

/-- Dropping from the front stops at a character that does not match. -/
theorem dropWhile_append_cons {p : Char → Bool} {x : Char} (hx : p x = false)
    (xs ys : List Char) : (xs ++ x :: ys).dropWhile p = xs.dropWhile p ++ x :: ys := by
  induction xs with
  | nil => simp [hx]
  | cons y xs ih =>
    by_cases hy : p y = true
    · rw [List.cons_append, List.dropWhile_cons_of_pos hy, List.dropWhile_cons_of_pos hy, ih]
    · rw [List.cons_append, List.dropWhile_cons_of_neg hy, List.dropWhile_cons_of_neg hy,
        List.cons_append]

theorem dropWhile_of_head {p : Char → Bool} {l : List Char} (h : ∀ c ∈ l.head?, p c = false) :
    l.dropWhile p = l := by
  cases l with
  | nil => rfl
  | cons c l => simp [h c rfl]

/-- Tabs and newlines are controls: cleaning keeps every character that is not a control or a
space. -/
theorem kept_of_isControlOrSpace_false {c : Char} (hc : isControlOrSpace c = false) :
    (c ≠ '\t' && c ≠ '\n' && c ≠ '\r') = true := by
  simp only [isControlOrSpace, decide_eq_false_iff_not, Nat.not_le] at hc
  have h9 : '\t'.toNat = 9 := rfl
  have h10 : '\n'.toNat = 10 := rfl
  have h13 : '\r'.toNat = 13 := rfl
  simp only [ne_eq, Bool.and_eq_true, decide_eq_true_eq]
  refine ⟨⟨?_, ?_⟩, ?_⟩ <;> intro hx <;> subst hx <;> simp_all

/-- A reference that does not end in a space or a control loses nothing at its end. -/
theorem cleanReference_eq_of_last {s : String}
    (h : ∀ c ∈ s.toList.getLast?, isControlOrSpace c = false) :
    cleanReference s =
      (s.toList.filter fun c => c ≠ '\t' && c ≠ '\n' && c ≠ '\r').dropWhile isControlOrSpace := by
  unfold cleanReference
  dsimp only
  rcases List.eq_nil_or_concat s.toList with hs | ⟨init, c, hs⟩
  · simp [hs]
  · have hc : isControlOrSpace c = false := h c (by simp [hs])
    have hkeep := kept_of_isControlOrSpace_false hc
    have hlast : [c].filter (fun c => c ≠ '\t' && c ≠ '\n' && c ≠ '\r') = [c] := by
      simp only [List.filter_cons, hkeep, if_true, List.filter_nil]
    rw [hs, List.concat_eq_append, List.filter_append, hlast, dropWhile_append_cons hc,
      List.reverse_append, List.reverse_singleton, List.singleton_append,
      dropWhile_of_head (by simpa using hc), List.reverse_cons, List.reverse_reverse]

/-- A reference that does not end in a space or a control, followed by a query with no tab or
newline and no space or control at its end, is cleaned as the reference, then `?` and the
query. -/
theorem cleanReference_append_query {u Q : String}
    (hu : ∀ c ∈ u.toList.getLast?, isControlOrSpace c = false)
    (hQ : ∀ c ∈ Q.toList, c ≠ '\t' ∧ c ≠ '\n' ∧ c ≠ '\r')
    (hQlast : ∀ c ∈ Q.toList.getLast?, isControlOrSpace c = false) :
    cleanReference (u ++ "?" ++ Q) = cleanReference u ++ '?' :: Q.toList := by
  have hq : isControlOrSpace '?' = false := rfl
  have hchars : (u ++ "?" ++ Q).toList = u.toList ++ '?' :: Q.toList := by simp
  have hlast : ∀ c ∈ (u ++ "?" ++ Q).toList.getLast?, isControlOrSpace c = false := by
    rw [hchars]
    intro c hc
    cases hQl : Q.toList.getLast? with
    | none =>
      rw [List.getLast?_eq_none_iff] at hQl
      rw [hQl] at hc
      simp only [List.getLast?_append, List.getLast?_singleton, Option.some_or,
        Option.mem_def, Option.some.injEq] at hc
      exact hc ▸ hq
    | some d =>
      rw [List.getLast?_append_of_ne_nil _ (List.cons_ne_nil _ _), List.getLast?_cons, hQl] at hc
      simp only [Option.getD_some, Option.mem_def, Option.some.injEq] at hc
      exact hc ▸ hQlast d hQl
  have hkeepQ : Q.toList.filter (fun c => c ≠ '\t' && c ≠ '\n' && c ≠ '\r') = Q.toList :=
    List.filter_eq_self.mpr fun c hc => by
      obtain ⟨h1, h2, h3⟩ := hQ c hc
      simp [h1, h2, h3]
  rw [cleanReference_eq_of_last hlast, cleanReference_eq_of_last hu, hchars, List.filter_append,
    List.filter_cons_of_pos (by decide), hkeepQ, dropWhile_append_cons hq]

/-- The characters of a cleaned reference come from the reference. -/
theorem mem_of_mem_cleanReference {s : String} {c : Char} (h : c ∈ cleanReference s) :
    c ∈ s.toList := by
  unfold cleanReference at h
  rw [List.mem_reverse] at h
  have h' := (List.dropWhile_sublist _).subset h
  rw [List.mem_reverse] at h'
  exact List.mem_of_mem_filter ((List.dropWhile_sublist _).subset h')

/-- The locator of a reference with a query is what stands before its `?`. -/
theorem takeWhile_locator {L : List Char} (hL : ∀ c ∈ L, c ≠ '?' ∧ c ≠ '#') (rest : List Char) :
    (L ++ '?' :: rest).takeWhile (fun c => !endsLocator c) = L := by
  rw [List.takeWhile_append_of_pos fun c hc => by simpa [endsLocator] using hL c hc]
  simp [endsLocator]

theorem queryOf_append {L Q : List Char} (hL : ∀ c ∈ L, c ≠ '?' ∧ c ≠ '#') (hQ : '#' ∉ Q) :
    queryOf (L ++ '?' :: Q) = some (String.ofList Q) := by
  unfold queryOf
  rw [List.dropWhile_append_of_pos fun c hc => by simpa [endsLocator] using hL c hc,
    List.dropWhile_cons_of_neg (by simp [endsLocator])]
  simp only [Option.some.injEq]
  have hkeep : ∀ c ∈ Q, decide (c ≠ '#') = true := by
    intro c hc
    have hne : c ≠ '#' := fun h => hQ (h ▸ hc)
    simpa using hne
  rw [List.takeWhile_eq_self_iff.mpr hkeep]

theorem queryOf_of_forall {L : List Char} (hL : ∀ c ∈ L, c ≠ '?' ∧ c ≠ '#') :
    queryOf L = none := by
  unfold queryOf
  rw [List.dropWhile_eq_nil_iff.mpr fun c hc => by simpa [endsLocator] using hL c hc]

/-- A reference with no `?` or `#` has no query; it resolves when its locator passes. -/
theorem resolveQuery_of_forall {u : String} (hu : ∀ c ∈ u.toList, c ≠ '?' ∧ c ≠ '#') :
    resolveQuery u = (checkLocator none (cleanReference u)).map fun _ => none := by
  have hL : ∀ c ∈ cleanReference u, c ≠ '?' ∧ c ≠ '#' :=
    fun c hc => hu c (mem_of_mem_cleanReference hc)
  have htake : (cleanReference u).takeWhile (fun c => !endsLocator c) = cleanReference u :=
    List.takeWhile_eq_self_iff.mpr fun c hc => by simpa [endsLocator] using hL c hc
  unfold resolveQuery
  simp only [htake, List.drop_length, List.head?_nil, queryOf_of_forall hL, Option.map_none]
  cases checkLocator none (cleanReference u) <;> rfl

/-- A reference followed by a query resolves when the reference's locator passes, with the
next character `?`; the query is the text after the `?`, encoded. -/
theorem resolveQuery_append_query {u Q : String} (hu : ∀ c ∈ u.toList, c ≠ '?' ∧ c ≠ '#')
    (hulast : ∀ c ∈ u.toList.getLast?, isControlOrSpace c = false)
    (hQ : ∀ c ∈ Q.toList, c ≠ '#' ∧ c ≠ '\t' ∧ c ≠ '\n' ∧ c ≠ '\r')
    (hQlast : ∀ c ∈ Q.toList.getLast?, isControlOrSpace c = false) :
    resolveQuery (u ++ "?" ++ Q) = (checkLocator (some '?') (cleanReference u)).map
      fun _ => some (encodeQuery (isSpecialLocator (cleanReference u)) Q) := by
  have hL : ∀ c ∈ cleanReference u, c ≠ '?' ∧ c ≠ '#' :=
    fun c hc => hu c (mem_of_mem_cleanReference hc)
  unfold resolveQuery
  rw [cleanReference_append_query hulast (fun c hc => (hQ c hc).2) hQlast]
  simp only [takeWhile_locator hL, List.drop_left', List.head?_cons,
    queryOf_append hL (fun h => (hQ '#' h).1 rfl), String.ofList_toList, Option.map_some]
  cases checkLocator (some '?') (cleanReference u) <;> rfl

/-! ## Prefixes of scheme http or https -/

/-- A query that resolution keeps whole: no `#`, tab or newline, and no space or control at its
end. -/
structure QueryText (Q : String) : Prop where
  plain : ∀ c ∈ Q.toList, c ≠ '#' ∧ c ≠ '\t' ∧ c ≠ '\n' ∧ c ≠ '\r'
  lastKept : ∀ c ∈ Q.toList.getLast?, isControlOrSpace c = false

/-- An absolute URL of scheme `http` or `https`, in any case, with no query or fragment, and no
space or control at its end. -/
structure HttpPrefix (u : String) : Prop where
  scheme : ∃ s rest, u.toList = s ++ ':' :: rest ∧
    (s.map Char.toLower = "http".toList ∨ s.map Char.toLower = "https".toList)
  noQuery : ∀ c ∈ u.toList, c ≠ '?' ∧ c ≠ '#'
  lastKept : ∀ c ∈ u.toList.getLast?, isControlOrSpace c = false

/-- A character that lowercases to a lowercase ASCII letter is an ASCII letter. -/
theorem isAlpha_of_isLower_toLower {c : Char} (h : c.toLower.isLower = true) : c.isAlpha = true := by
  unfold Char.toLower at h
  split at h
  · rename_i hup
    simp only [Char.isAlpha, Char.isUpper, Bool.or_eq_true, decide_eq_true_eq]
    exact .inl hup
  · simp [Char.isAlpha, h]

/-- An ASCII letter may stand in a scheme, and resolution neither removes nor trims it. -/
theorem letter_kept {c : Char} (h : c.isAlpha = true) :
    isSchemeChar c = true ∧ isControlOrSpace c = false ∧ (c ≠ '\t' && c ≠ '\n' && c ≠ '\r') = true := by
  -- a letter is from `A` on, above every control and the space
  have hkept : isControlOrSpace c = false := by
    simp only [Char.isAlpha, Char.isUpper, Char.isLower, Bool.or_eq_true, Bool.and_eq_true,
      decide_eq_true_eq, UInt32.le_iff_toNat_le, ge_iff_le] at h
    have : c.toNat = c.val.toNat := rfl
    have : 'A'.val.toNat = 65 := rfl
    have : 'a'.val.toNat = 97 := rfl
    simp only [isControlOrSpace, decide_eq_false_iff_not, Nat.not_le]
    omega
  exact ⟨by simp [isSchemeChar, Char.isAlphanum, h], hkept, kept_of_isControlOrSpace_false hkept⟩

/-- A locator that starts with letters and a colon has those letters, lowercased, as its
scheme. -/
theorem schemeOf?_letters {s : List Char} (hs : ∀ c ∈ s, c.isAlpha = true) (hne : s ≠ [])
    (rest : List Char) :
    schemeOf? (s ++ ':' :: rest) = some (String.ofList (s.map Char.toLower), rest) := by
  obtain ⟨c, s', rfl⟩ := List.exists_cons_of_ne_nil hne
  have htake : (c :: s' ++ ':' :: rest).takeWhile isSchemeChar = c :: s' := by
    rw [List.takeWhile_append_of_pos fun x hx => (letter_kept (hs x hx)).1]
    simp [isSchemeChar]
  unfold schemeOf?
  simp only [List.cons_append, hs c (List.mem_cons_self ..), if_true]
  rw [← List.cons_append, htake, List.drop_left]
  rfl

/-- A prefix of scheme http or https leads to a URL of special scheme. -/
theorem isSpecialLocator_of_httpPrefix {u : String} (hu : HttpPrefix u) :
    isSpecialLocator (cleanReference u) = true := by
  obtain ⟨s, rest, hsplit, hscheme⟩ := hu.scheme
  -- the scheme's letters lowercase to those of `https`, all lowercase letters
  have hs : ∀ c ∈ s, c.isAlpha = true := fun c hc => by
    apply isAlpha_of_isLower_toLower
    have hlow : c.toLower ∈ s.map Char.toLower := List.mem_map_of_mem hc
    have hletters : ∀ x ∈ "https".toList, x.isLower = true := by simp
    have hsub : ∀ x ∈ "http".toList, x ∈ "https".toList := by simp
    rcases hscheme with h | h <;> rw [h] at hlow
    · exact hletters _ (hsub _ hlow)
    · exact hletters _ hlow
  have hne : s ≠ [] := by
    rintro rfl
    rcases hscheme with h | h <;> cases h
  -- cleaning keeps the scheme and its colon, and trims nothing from the front
  have hclean : cleanReference u = s ++ ':' :: rest.filter fun c => c ≠ '\t' && c ≠ '\n' && c ≠ '\r' := by
    rw [cleanReference_eq_of_last hu.lastKept, hsplit, List.filter_append,
      List.filter_eq_self.mpr fun c hc => (letter_kept (hs c hc)).2.2,
      List.filter_cons_of_pos (by decide)]
    obtain ⟨c, s', rfl⟩ := List.exists_cons_of_ne_nil hne
    exact dropWhile_of_head fun x hx => by
      simp only [List.cons_append, List.head?_cons, Option.mem_def, Option.some.injEq] at hx
      exact hx ▸ (letter_kept (hs c (List.mem_cons_self ..))).2.1
  rw [hclean]
  unfold isSpecialLocator
  rw [schemeOf?_letters hs hne]
  rcases hscheme with h | h <;> rw [h] <;> rfl

end Url

/-! ## Reading a request through a URL library -/

/-- What the URL and form standards say of a reader, for the queries and prefixes above. After
`?` alone, or after a prefix of scheme http or https that resolves on its own, a query `Q`
resolves and is kept as its UTF-8 bytes with those in `escapes` percent-encoded; `escapes` holds
only bytes of the special-query percent-encode set; and the pairs of a query are its form
pairs. -/
structure UrlReader.Standard (lib : UrlReader) (escapes : UInt8 → Bool) : Prop where
  escapes_query : ∀ b, escapes b = true → Url.queryEscapes true b = true
  bare : ∀ Q, Url.QueryText Q → ∃ q, lib.resolveQuery ("?" ++ Q) = .ok (some q) ∧
    Text.utf8Bytes q = Url.percentEncode escapes (Text.utf8Bytes Q)
  prefixed : ∀ u Q, Url.HttpPrefix u → Url.QueryText Q → (lib.resolveQuery u).isOk = true →
    ∃ q, lib.resolveQuery (u ++ "?" ++ Q) = .ok (some q) ∧
      Text.utf8Bytes q = Url.percentEncode escapes (Text.utf8Bytes Q)
  queryPairs_eq : ∀ q, lib.queryPairs q = Url.formPairs q

/-- A standard reader reads the pairs of a query it kept as the pairs of the query itself: it
escapes nothing that form decoding looks at. -/
theorem UrlReader.Standard.queryPairs_encoded {lib : UrlReader} {escapes : UInt8 → Bool}
    (hlib : lib.Standard escapes) {q Q : String}
    (h : Text.utf8Bytes q = Url.percentEncode escapes (Text.utf8Bytes Q)) :
    lib.queryPairs q = Url.formPairs Q := by
  have hsafe : Url.FormSafe escapes :=
    fun b hb => Url.queryEscapes_formSafe true b (hlib.escapes_query b hb)
  rw [hlib.queryPairs_eq, Url.formPairs, h, Url.formPairsOfBytes_percentEncode hsafe]
  rfl

/-- The reader of this library meets the standards: resolution keeps a query as
`Url.encodeQuery` writes it, and a prefix of special scheme is checked alike whether or not a
query follows it. -/
theorem UrlReader.whatwg_standard : UrlReader.whatwg.Standard (Url.queryEscapes true) where
  escapes_query _ h := h
  bare Q hQ := by
    refine ⟨Url.encodeQuery true Q, ?_, Url.utf8Bytes_encodeQuery true Q⟩
    -- a bare query is a query after the empty prefix, which is checked as the base's own
    have h := Url.resolveQuery_append_query (u := "") (by simp) (by simp) hQ.plain hQ.lastKept
    rw [String.empty_append] at h
    exact h
  prefixed u Q hu hQ hok := by
    refine ⟨Url.encodeQuery true Q, ?_, Url.utf8Bytes_encodeQuery true Q⟩
    have hspecial := Url.isSpecialLocator_of_httpPrefix hu
    -- the prefix resolved on its own, so its locator passed the check
    have hloc : Url.checkLocator none (Url.cleanReference u) = .ok () := by
      change (Url.resolveQuery u).isOk = true at hok
      rw [Url.resolveQuery_of_forall hu.noQuery] at hok
      cases h : Url.checkLocator none (Url.cleanReference u) with
      | error e => simp [h, Except.map, Except.isOk, Except.toBool] at hok
      | ok v => rfl
    show Url.resolveQuery (u ++ "?" ++ Q) = _
    rw [Url.resolveQuery_append_query hu.noQuery hu.lastKept hQ.plain hQ.lastKept,
      Url.checkLocator_next hspecial, hloc, hspecial]
    rfl
  queryPairs_eq _ := rfl

namespace Request

/-- A reference that resolves to a query is read as that query's pairs. -/
theorem ofUrlWith_of_resolveQuery {lib : UrlReader} {input q : String}
    (h : lib.resolveQuery input = .ok (some q)) : ofUrlWith lib input = .ok (ofPairs (lib.queryPairs q)) := by
  unfold ofUrlWith
  rw [h]
  rfl

/-- A reference is read exactly when it resolves. -/
theorem isOk_ofUrlWith (lib : UrlReader) (input : String) :
    (ofUrlWith lib input).isOk = (lib.resolveQuery input).isOk := by
  unfold ofUrlWith
  cases lib.resolveQuery input <;> rfl

/-- The URL layer is transparent to the query, for every reader that meets the standards: a
query `Q` with no `#`, tab or newline and no space or control at its end is read, after `?`
alone or after any prefix of scheme http or https that resolves on its own, as the pairs of `Q`
itself. -/
theorem ofUrlWith_eq_ofPairs_formPairs {lib : UrlReader} {escapes : UInt8 → Bool}
    (hlib : lib.Standard escapes) {Q : String} (hQ : Url.QueryText Q) :
    ofUrlWith lib ("?" ++ Q) = .ok (ofPairs (Url.formPairs Q)) ∧
      ∀ u, Url.HttpPrefix u → (ofUrlWith lib u).isOk = true →
        ofUrlWith lib (u ++ "?" ++ Q) = .ok (ofPairs (Url.formPairs Q)) := by
  constructor
  · obtain ⟨q, hres, hbytes⟩ := hlib.bare Q hQ
    rw [ofUrlWith_of_resolveQuery hres, hlib.queryPairs_encoded hbytes]
  · intro u hu hok
    rw [isOk_ofUrlWith] at hok
    obtain ⟨q, hres, hbytes⟩ := hlib.prefixed u Q hu hQ hok
    rw [ofUrlWith_of_resolveQuery hres, hlib.queryPairs_encoded hbytes]

/-- The page read from `?page=2`, and from the same query after an address host, by this
library's reader. -/
theorem ofUrl_reads_page_after_host :
    Url.QueryText "page=2" ∧ Url.HttpPrefix "http://[::1]" ∧ (ofUrl "http://[::1]").isOk = true ∧
      ofUrl ("?" ++ "page=2") = .ok (ofPairs (Url.formPairs "page=2")) ∧
      ofUrl ("http://[::1]" ++ "?" ++ "page=2") = .ok (ofPairs (Url.formPairs "page=2")) := by
  have hQ : Url.QueryText "page=2" := ⟨by simp, by simp [Url.isControlOrSpace]⟩
  have hu : Url.HttpPrefix "http://[::1]" :=
    ⟨⟨"http".toList, "//[::1]".toList, by decide, .inl rfl⟩, by simp, by simp [Url.isControlOrSpace]⟩
  have hok : (ofUrl "http://[::1]").isOk = true := by decide +kernel
  have h := ofUrlWith_eq_ofPairs_formPairs UrlReader.whatwg_standard hQ
  exact ⟨hQ, hu, hok, h.1, h.2 _ hu hok⟩

/-- A prefix that resolves only because its trailing space is trimmed: once a query follows, the
space belongs to the host, and the reference does not resolve. -/
theorem ofUrl_padded_prefix_refused :
    (ofUrl "http://[::1] ").isOk = true ∧ (ofUrl ("http://[::1] " ++ "?" ++ "page=2")).isOk = false :=
  ⟨by decide +kernel, by decide +kernel⟩

end Request

end QueryCompiler
