import QueryCompiler.Proofs.Decimal

/-!
# Numeric parameters and filter values

`page`, `size` and filter values are read with one integer reader (`readInt64`), whose rules
`QueryCompiler.Proofs.Decimal` states. Here they are carried to the request:

* `Request.page_and_size_read`: a `page` or `size` whose first value is not empty is set to the
  integer it denotes (a page raised to at least 1), with no error, when it denotes one in the
  64-bit range; otherwise it stays unset and exactly one error is recorded, naming the
  parameter, the value as written and the reason the rules give. A filter value is an integer
  exactly when it denotes one in range.
* `Scalar.coerce_display`: reading the text of a value gives the value back, except for a text
  that itself reads as an integer or a flag. In particular reading the text of a value read
  gives it again, and the decimal text of every 64-bit integer reads back as that integer.
-/

namespace QueryCompiler

open Decimal

namespace Scalar

/-! ## Reading a value -/

theorem coerce_eq_int_iff (w : String) (n : Int) : coerce w = .int n ↔ readInt64 w = .ok n := by
  unfold coerce
  split
  · next m hm => simp [hm]
  · next e he =>
    simp only [he, reduceCtorEq, iff_false]
    split
    · simp
    · split <;> simp

/-- A value is an integer exactly when its text denotes one in the 64-bit range. -/
theorem coerce_eq_int_iff_denotes (w : String) (n : Int) :
    coerce w = .int n ↔ Denotes w n ∧ Fits64 n := by
  rw [coerce_eq_int_iff, readInt64_eq_ok_iff]

/-- A value read is an integer, a flag, or its text as written. -/
theorem coerce_cases (w : String) :
    (∃ n, coerce w = .int n) ∨ (∃ b, coerce w = .bool b) ∨ coerce w = .str w := by
  unfold coerce
  split
  · exact .inl ⟨_, rfl⟩
  · dsimp only
    split
    · exact .inr (.inl ⟨_, rfl⟩)
    · split
      · exact .inr (.inl ⟨_, rfl⟩)
      · exact .inr (.inr rfl)

/-! ## Reading the text of a value -/

/-- The text of a flag reads back as that flag. -/
theorem coerce_display_bool (b : Bool) : coerce (display (.bool b)) = .bool b := by
  cases b <;> decide

/-- The text of an integer in the 64-bit range reads back as that integer. -/
theorem coerce_toString {n : Int} (h : Fits64 n) : coerce (toString n) = .int n :=
  coerce_of_readInt64 (readInt64_toString n h)

/-- Reading the text of a value gives the value back, for every value whose integer a 64-bit
word holds, unless the value is a text that itself reads as an integer or a flag (such as `5`
or ` TRUE `). So reading the text of a value read gives that value again, and the decimal text
of every 64-bit integer, the least one included, reads back as that integer. -/
theorem coerce_display :
    (∀ v : Scalar, (∀ n, v = .int n → Fits64 n) →
      (coerce v.display = v ↔
        ∀ t, v = .str t → (∀ n, coerce t ≠ .int n) ∧ (∀ b, coerce t ≠ .bool b))) ∧
    (∀ s, coerce (coerce s).display = coerce s) ∧
    (∀ n, Fits64 n → coerce (toString n) = .int n) := by
  refine ⟨fun v hv => ?_, fun s => ?_, fun n h => coerce_toString h⟩
  · cases v with
    | int n =>
      rw [display, coerce_toString (hv n rfl)]
      simp
    | bool b => simp [coerce_display_bool]
    | str t =>
      -- a text comes back as itself exactly when it reads as neither an integer nor a flag
      simp only [display, str.injEq, forall_eq']
      rcases coerce_cases t with ⟨n, hn⟩ | ⟨b, hb⟩ | hs
      · simp [hn]
      · simp [hb]
      · simp [hs]
  · rcases coerce_cases s with ⟨n, hn⟩ | ⟨b, hb⟩ | hs
    · -- an integer read is in range, and its decimal text reads back
      have hfit : Fits64 n := ((readInt64_eq_ok_iff s n).mp ((coerce_eq_int_iff s n).mp hn)).2
      rw [hn, display, coerce_toString hfit]
    · rw [hb, coerce_display_bool]
    · rw [hs, display, hs]

/-- The least 64-bit integer, which has no positive counterpart, reads back from its text. -/
theorem least_int_reads_back :
    Fits64 int64Min ∧ coerce (display (.int int64Min)) = .int int64Min :=
  ⟨by decide, (coerce_display.1 (.int int64Min) (by rintro n ⟨⟩; decide)).mpr (by simp)⟩

end Scalar

namespace Request

/-! ## Numeric parameters -/

/-- A numeric parameter with a value that is not empty is set to the integer that value denotes,
with no error, or else left unset with the one error the rules give. -/
theorem readParam_some (param : Param) {w : String} (hw : w ≠ "") :
    (∀ m, ((readParam param (some w)).1 = some m ∧ (readParam param (some w)).2 = []) ↔
        Denotes w m ∧ Fits64 m) ∧
      ((¬ ∃ n, Denotes w n ∧ Fits64 n) → readParam param (some w) = (none, [⟨param, w, refusal w⟩])) := by
  refine ⟨fun m => ?_, fun hn => ?_⟩
  · rw [← readInt64_eq_ok_iff]
    simp only [readParam]
    cases readInt64 w <;> simp
  · simp only [readParam, readInt64_eq_refusal hw hn]

/-- The errors of one numeric parameter name that parameter. -/
theorem filter_readParam (param other : Param) (v : Option String) :
    (readParam param v).2.filter (·.param = other) = if param = other then (readParam param v).2 else [] := by
  unfold readParam
  split
  · simp
  · split <;> by_cases h : param = other <;> simp [h]

/-- The first value of a key, when it is not empty, is its first filled value. -/
theorem firstFilled_of_firstValue {pairs : List (String × String)} {key w : String}
    (h : firstValue? pairs key = some w) (hw : w ≠ "") : firstFilled? pairs key = some w := by
  simp [firstFilled?, h, hw]

/-- The errors a request records for its page, and for its size. -/
theorem errors_filter_page (pairs : List (String × String)) :
    (ofPairs pairs).errors.filter (·.param = .page) = (readParam .page (firstFilled? pairs "page")).2 := by
  simp [ofPairs, List.filter_append, filter_readParam]

theorem errors_filter_size (pairs : List (String × String)) :
    (ofPairs pairs).errors.filter (·.param = .size) = (readParam .size (firstFilled? pairs "size")).2 := by
  simp [ofPairs, List.filter_append, filter_readParam]

/-- `page` and `size` are read as 64-bit integers. When the first value `w` of the parameter is
not empty: the parameter is set, with no error, exactly when `w` is an optional sign and digits
denoting an integer `n` in range, and then to `n` (a page to at least 1); otherwise it stays unset
and one error is recorded, naming the parameter, `w`, and the reason `refusal w`: an overflow
in the direction of the sign if some digit takes the value read so far out of range before
any non-digit is met, an invalid digit otherwise. A filter value is the integer `n` exactly when
it denotes `n` in range. -/
theorem page_and_size_read (pairs : List (String × String)) :
    (∀ w, firstValue? pairs "page" = some w → w ≠ "" →
      (∀ m, ((ofPairs pairs).page = some m ∧ (ofPairs pairs).errors.filter (·.param = .page) = []) ↔
          ∃ n, Denotes w n ∧ Fits64 n ∧ m = max n 1) ∧
      ((¬ ∃ n, Denotes w n ∧ Fits64 n) →
        (ofPairs pairs).page = none ∧
          (ofPairs pairs).errors.filter (·.param = .page) = [⟨.page, w, refusal w⟩])) ∧
    (∀ w, firstValue? pairs "size" = some w → w ≠ "" →
      (∀ m, ((ofPairs pairs).size = some m ∧ (ofPairs pairs).errors.filter (·.param = .size) = []) ↔
          Denotes w m ∧ Fits64 m) ∧
      ((¬ ∃ n, Denotes w n ∧ Fits64 n) →
        (ofPairs pairs).size = none ∧
          (ofPairs pairs).errors.filter (·.param = .size) = [⟨.size, w, refusal w⟩])) ∧
    (∀ w n, Scalar.coerce w = .int n ↔ Denotes w n ∧ Fits64 n) := by
  refine ⟨fun w hw hne => ?_, fun w hw hne => ?_, Scalar.coerce_eq_int_iff_denotes⟩
  · have hfilled := firstFilled_of_firstValue hw hne
    obtain ⟨hok, hbad⟩ := readParam_some .page hne
    have hpage : (ofPairs pairs).page = (readParam .page (some w)).1.map (max · 1) := by
      simp only [ofPairs, hfilled]
    rw [errors_filter_page, hfilled, hpage]
    refine ⟨fun m => ?_, fun hn => by simp [hbad hn]⟩
    -- the page read is raised to 1; the error list does not see the raise
    constructor
    · rintro ⟨hm, herr⟩
      obtain ⟨n, hn, rfl⟩ := Option.map_eq_some_iff.mp hm
      obtain ⟨hden, hfit⟩ := (hok n).mp ⟨hn, herr⟩
      exact ⟨n, hden, hfit, rfl⟩
    · rintro ⟨n, hden, hfit, rfl⟩
      obtain ⟨h1, h2⟩ := (hok n).mpr ⟨hden, hfit⟩
      simp [h1, h2]
  · have hfilled := firstFilled_of_firstValue hw hne
    obtain ⟨hok, hbad⟩ := readParam_some .size hne
    have hsize : (ofPairs pairs).size = (readParam .size (some w)).1 := by
      simp only [ofPairs, hfilled]
    rw [errors_filter_size, hfilled, hsize]
    exact ⟨hok, fun hn => by simp [hbad hn]⟩

/-- Twenty nines and then a letter: the digits leave the range before the letter is met, so the
page is refused as too large, not for its letter. -/
theorem page_overflow_reported_before_letter :
    (ofPairs [("page", "99999999999999999999x")]).page = none ∧
      (ofPairs [("page", "99999999999999999999x")]).errors.filter (·.param = .page) =
        [⟨.page, "99999999999999999999x", .posOverflow⟩] := by
  have hbad : ¬ ∃ n, Denotes "99999999999999999999x" n ∧ Fits64 n := by
    rintro ⟨n, ⟨-, hd, -⟩, -⟩
    exact absurd (hd 'x' (by decide)) (by decide)
  -- the reason is computed on the characters, spelled out once
  have hchars : "99999999999999999999x".toList =
      ['9', '9', '9', '9', '9', '9', '9', '9', '9', '9', '9', '9', '9', '9', '9', '9', '9', '9',
        '9', '9', 'x'] := by
    simp
  -- the nineteenth nine already leaves the range
  have hover : OverflowsFirst "99999999999999999999x" := by
    simp only [OverflowsFirst, OverflowsAfter, hchars, signOf]
    exact ⟨18, by decide, by simp [Char.isDigit], by decide⟩
  have hreason : refusal "99999999999999999999x" = .posOverflow := by
    simp [refusal, hover, hchars, signOf, IntError.overflow]
  obtain ⟨hpage, herr⟩ := ((page_and_size_read [("page", "99999999999999999999x")]).1
    "99999999999999999999x" (by decide) (by decide)).2 hbad
  exact ⟨hpage, by rw [herr, hreason]⟩

end Request

end QueryCompiler
