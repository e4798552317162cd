import Mathlib
import QueryCompiler.Proofs.Window

/-!
# Reading decimal integers

`readInt64` reads a text one character at a time, and checks the range after every digit. Its
rules are stated here without the walk: a text *denotes* `n` when it is an optional `+` or `-`
followed by at least one ASCII digit, and the digits, read in the direction of the sign, give
`n` (`Decimal.Denotes`). Then:

* reading succeeds exactly on the texts that denote an integer in the 64-bit range, with that
  integer (`Decimal.readInt64_eq_ok_iff`);
* otherwise a text that is not empty is refused as an overflow, in the direction of the sign,
  when some digit takes the value read so far out of range before any non-digit is met, and as
  an invalid digit otherwise (`Decimal.readInt64_eq_refusal`);
* the decimal text of every integer in range reads back as that integer
  (`Decimal.readInt64_toString`), the least one included.

The walk checks the range at every step, the rules only at the end. They agree because a
value read so far is never further from zero than the value read in full
(`Decimal.fits64_of_append`): once all digits are in, checking the last value checks them all.
-/

namespace QueryCompiler

/-- The overflow in the direction of a sign: too small below zero, too large above. -/
def IntError.overflow (neg : Bool) : IntError :=
  if neg then .negOverflow else .posOverflow

namespace Decimal

/-! ## The rules -/

/-- A text cut into its sign and what follows: one leading `+` or `-` is the sign. -/
def signOf : List Char → Bool × List Char
  | '+' :: cs => (false, cs)
  | '-' :: cs => (true, cs)
  | cs => (false, cs)

/-- The value of a run of digits, below zero when `neg` holds. -/
def signedValue (neg : Bool) (ds : List Char) : Int :=
  if neg then -(Nat.ofDigitChars 10 ds 0 : Int) else Nat.ofDigitChars 10 ds 0

/-- The text is an optional sign followed by at least one ASCII digit, and denotes `n`. -/
def Denotes (s : String) (n : Int) : Prop :=
  (signOf s.toList).2 ≠ [] ∧ (∀ c ∈ (signOf s.toList).2, c.isDigit) ∧
    n = signedValue (signOf s.toList).1 (signOf s.toList).2

/-- After the digits `p`, reading `ds` from the left, some digit takes the value read so far out
of the 64-bit range before any non-digit is met. -/
def OverflowsAfter (neg : Bool) (p ds : List Char) : Prop :=
  ∃ k < ds.length, (∀ c ∈ ds.take (k + 1), c.isDigit) ∧
    ¬ Fits64 (signedValue neg (p ++ ds.take (k + 1)))

instance (neg : Bool) (p ds : List Char) : Decidable (OverflowsAfter neg p ds) :=
  inferInstanceAs (Decidable (∃ k, k < ds.length ∧ _))

/-- Reading the characters after the sign from the left, some digit takes the value read so far
out of the 64-bit range before any non-digit is met. -/
def OverflowsFirst (s : String) : Prop :=
  OverflowsAfter (signOf s.toList).1 [] (signOf s.toList).2

instance (s : String) : Decidable (OverflowsFirst s) :=
  inferInstanceAs (Decidable (OverflowsAfter _ _ _))

/-- Why a text that is not empty and denotes no integer in range is refused: an overflow in the
direction of its sign if a digit leaves the range first, an invalid digit otherwise. -/
def refusal (s : String) : IntError :=
  if OverflowsFirst s then IntError.overflow (signOf s.toList).1 else .invalidDigit

/-! ## Values of digit runs -/

@[simp] theorem signedValue_nil (neg : Bool) : signedValue neg [] = 0 := by
  cases neg <;> rfl

/-- One digit more: ten times the value so far, the digit added away from zero. -/
theorem signedValue_append_singleton (neg : Bool) (p : List Char) (c : Char) :
    signedValue neg (p ++ [c]) =
      if neg then signedValue neg p * 10 - digitValue c else signedValue neg p * 10 + digitValue c := by
  have hval : Nat.ofDigitChars 10 (p ++ [c]) 0 = 10 * Nat.ofDigitChars 10 p 0 + digitValue c := by
    rw [Nat.ofDigitChars_append, Nat.ofDigitChars_cons, Nat.ofDigitChars_nil]
    rfl
  cases neg <;> simp only [signedValue, hval, if_true, Bool.false_eq_true, if_false] <;> push_cast <;>
    omega

/-- A value read so far is no further from zero than the value read on. -/
theorem ofDigitChars_le_append (p q : List Char) :
    Nat.ofDigitChars 10 p 0 ≤ Nat.ofDigitChars 10 (p ++ q) 0 := by
  rw [Nat.ofDigitChars_append, @Nat.ofDigitChars_eq_ofDigitChars_zero q]
  have hpow : 1 ≤ 10 ^ q.length := Nat.one_le_pow _ _ (by decide)
  calc Nat.ofDigitChars 10 p 0 ≤ 10 ^ q.length * Nat.ofDigitChars 10 p 0 :=
        Nat.le_mul_of_pos_left _ hpow
    _ ≤ _ := Nat.le_add_right _ _

/-- A value in range was in range at every digit before. -/
theorem fits64_of_append {neg : Bool} (p q : List Char) (h : Fits64 (signedValue neg (p ++ q))) :
    Fits64 (signedValue neg p) := by
  have hle := ofDigitChars_le_append p q
  unfold Fits64 int64Min int64Max at *
  cases neg <;> simp only [signedValue, if_true, Bool.false_eq_true, if_false] at * <;> omega

/-! ## The walk over the digits -/

theorem not_overflowsAfter_nil (neg : Bool) (p : List Char) : ¬ OverflowsAfter neg p [] := by
  simp [OverflowsAfter]

/-- The first digit leaves the range, or the value stays in range and the rest overflows. -/
theorem overflowsAfter_cons (neg : Bool) (p : List Char) (c : Char) (cs : List Char) :
    OverflowsAfter neg p (c :: cs) ↔
      c.isDigit ∧ (¬ Fits64 (signedValue neg (p ++ [c])) ∨ OverflowsAfter neg (p ++ [c]) cs) := by
  constructor
  · rintro ⟨k, hk, hdigits, hout⟩
    have hc : c.isDigit := hdigits c (by simp)
    refine ⟨hc, ?_⟩
    cases k with
    | zero => exact .inl (by simpa using hout)
    | succ j =>
      -- the overflowing digit lies past `c`: it is the `j`-th of the rest
      refine .inr ⟨j, by simpa using hk, fun x hx => hdigits x ?_, ?_⟩
      · simp [List.take_succ_cons, hx]
      · simpa [List.take_succ_cons] using hout
  · rintro ⟨hc, hout | ⟨j, hj, hdigits, hout⟩⟩
    · exact ⟨0, by simp, by simpa using hc, by simpa using hout⟩
    · refine ⟨j + 1, by simpa using hj, ?_, by simpa [List.take_succ_cons] using hout⟩
      intro x hx
      simp only [List.take_succ_cons, List.mem_cons] at hx
      rcases hx with rfl | hx
      · exact hc
      · exact hdigits x hx

/-- Taking the digits `ds` after the digits `p`: an overflow in the direction of the sign if a
digit leaves the range first, else the value of all the digits if `ds` holds digits only, else an
invalid digit. -/
theorem accumulateDigits_signedValue (neg : Bool) (p ds : List Char) :
    accumulateDigits neg (signedValue neg p) ds =
      if OverflowsAfter neg p ds then .error (IntError.overflow neg)
      else if ∀ c ∈ ds, c.isDigit then .ok (signedValue neg (p ++ ds))
      else .error .invalidDigit := by
  induction ds generalizing p with
  | nil => simp [accumulateDigits, not_overflowsAfter_nil]
  | cons c cs ih =>
    by_cases hc : c.isDigit
    · have hnext := signedValue_append_singleton neg p c
      simp only [overflowsAfter_cons, accumulateDigits, hc, if_true, ← hnext, List.mem_cons,
        forall_eq_or_imp, true_and]
      by_cases hfit : Fits64 (signedValue neg (p ++ [c]))
      · -- the digit keeps the value in range: the walk goes on from it
        have hlo : ¬ signedValue neg (p ++ [c]) < int64Min := by unfold Fits64 at hfit; omega
        have hhi : ¬ int64Max < signedValue neg (p ++ [c]) := by unfold Fits64 at hfit; omega
        simp only [hlo, hhi, if_false, ih (p ++ [c]), hfit, not_true_eq_false, false_or,
          List.append_assoc, List.singleton_append]
      · -- the digit leaves the range, on the side of the sign
        have hout : if neg then signedValue neg (p ++ [c]) < int64Min
            else ¬ signedValue neg (p ++ [c]) < int64Min ∧ int64Max < signedValue neg (p ++ [c]) := by
          unfold Fits64 at hfit
          cases neg <;> simp [signedValue] at hfit ⊢ <;> unfold int64Min int64Max at * <;> omega
        cases neg <;> simp only [if_true, Bool.false_eq_true, if_false] at hout <;>
          simp [hout, hfit, IntError.overflow]
    · simp [accumulateDigits, hc, overflowsAfter_cons]

/-! ## Reading a text -/

/-- A sign alone is an invalid digit; otherwise the digits after the sign are taken from zero. -/
theorem readInt64_eq_of_ne_empty {s : String} (h : s ≠ "") :
    readInt64 s =
      if (signOf s.toList).2 = [] then .error .invalidDigit
      else accumulateDigits (signOf s.toList).1 0 (signOf s.toList).2 := by
  have hne : s.toList ≠ [] := fun hs => h (String.toList_eq_nil_iff.mp hs)
  unfold readInt64
  split <;> simp_all [signOf]

/-- Over digits only, an overflow on the way is an overflow at the end. -/
theorem overflowsAfter_nil_iff {neg : Bool} {ds : List Char} (hne : ds ≠ [])
    (hd : ∀ c ∈ ds, c.isDigit) : OverflowsAfter neg [] ds ↔ ¬ Fits64 (signedValue neg ds) := by
  constructor
  · rintro ⟨k, -, -, hout⟩ hfit
    have hprefix : ds.take (k + 1) ++ ds.drop (k + 1) = ds := List.take_append_drop _ _
    rw [← hprefix] at hfit
    exact hout (by simpa using fits64_of_append _ _ hfit)
  · intro hout
    have hlen : 0 < ds.length := List.length_pos_iff.mpr hne
    refine ⟨ds.length - 1, by omega, ?_, ?_⟩
    · rw [Nat.sub_add_cancel hlen, List.take_length]
      exact hd
    · rw [Nat.sub_add_cancel hlen, List.take_length, List.nil_append]
      exact hout

/-- A text of digits only has no sign. -/
theorem signOf_of_digits {cs : List Char} (hd : ∀ c ∈ cs, c.isDigit) : signOf cs = (false, cs) := by
  unfold signOf
  split
  · exact absurd (hd '+' (by simp)) (by decide)
  · exact absurd (hd '-' (by simp)) (by decide)
  · rfl

/-- Reading succeeds exactly on the texts that denote an integer in the 64-bit range. -/
theorem readInt64_eq_ok_iff (s : String) (n : Int) :
    readInt64 s = .ok n ↔ Denotes s n ∧ Fits64 n := by
  by_cases hs : s = ""
  · subst hs
    simp [readInt64, Denotes, signOf]
  rw [readInt64_eq_of_ne_empty hs]
  unfold Denotes
  generalize (signOf s.toList).1 = neg
  generalize (signOf s.toList).2 = ds
  by_cases hne : ds = []
  · simp [hne]
  rw [if_neg hne, ← signedValue_nil neg, accumulateDigits_signedValue]
  by_cases hd : ∀ c ∈ ds, c.isDigit
  · -- digits only: the walk fails exactly when the value read in full is out of range
    simp only [overflowsAfter_nil_iff hne hd]
    by_cases hfit : Fits64 (signedValue neg ds)
    · simp only [hfit, not_true_eq_false, if_false, if_pos hd, List.nil_append, Except.ok.injEq]
      constructor
      · rintro rfl
        exact ⟨⟨hne, hd, rfl⟩, hfit⟩
      · rintro ⟨⟨-, -, rfl⟩, -⟩
        rfl
    · simp only [hfit, not_false_eq_true, if_true, reduceCtorEq, false_iff]
      rintro ⟨⟨-, -, rfl⟩, hn⟩
      exact hfit hn
  · -- a character other than a digit: the walk fails whichever way
    simp only [hd, if_false, false_and, and_false, iff_false]
    split <;> simp

/-- A text that is not empty and denotes no integer in range is refused for the reason the
rules give. -/
theorem readInt64_eq_refusal {s : String} (hs : s ≠ "") (hn : ¬ ∃ n, Denotes s n ∧ Fits64 n) :
    readInt64 s = .error (refusal s) := by
  rw [readInt64_eq_of_ne_empty hs]
  have hreason : refusal s = if OverflowsAfter (signOf s.toList).1 [] (signOf s.toList).2 then
      IntError.overflow (signOf s.toList).1 else .invalidDigit := rfl
  rw [hreason]
  unfold Denotes at hn
  rcases hsign : signOf s.toList with ⟨neg, ds⟩
  simp only [hsign] at hn ⊢
  by_cases hne : ds = []
  · simp [hne, not_overflowsAfter_nil]
  rw [if_neg hne, ← signedValue_nil neg, accumulateDigits_signedValue]
  by_cases hover : OverflowsAfter neg [] ds
  · simp [hover]
  · -- no digit leaves the range, so the text must hold something other than a digit
    have hd : ¬ ∀ c ∈ ds, c.isDigit := by
      intro hd
      rw [overflowsAfter_nil_iff hne hd, Classical.not_not] at hover
      exact hn ⟨_, ⟨hne, hd, rfl⟩, hover⟩
    simp [hover, hd]

/-- The decimal text of an integer in the 64-bit range reads back as that integer. -/
theorem readInt64_toString (n : Int) (h : Fits64 n) : readInt64 (toString n) = .ok n := by
  rw [readInt64_eq_ok_iff]
  refine ⟨?_, h⟩
  have hdigits (m : Nat) : ∀ c ∈ Nat.toDigits 10 m, c.isDigit := fun c hc =>
    Nat.isDigit_of_mem_toDigits (by decide) (by decide) hc
  cases n with
  | ofNat m =>
    have htext : (toString (Int.ofNat m)).toList = Nat.toDigits 10 m := Nat.toList_repr
    simp only [Denotes, htext, signOf_of_digits (hdigits m)]
    exact ⟨Nat.toDigits_ne_nil, hdigits m, by simp [signedValue]⟩
  | negSucc m =>
    have htext : (toString (Int.negSucc m)).toList = '-' :: Nat.toDigits 10 (m + 1) := by
      show ("-" ++ Nat.repr (m + 1)).toList = _
      simp
    have hneg : Int.negSucc m = -((m + 1 : Nat) : Int) := rfl
    simp only [Denotes, htext, signOf]
    exact ⟨Nat.toDigits_ne_nil, hdigits (m + 1), by rw [hneg]; simp [signedValue]⟩

end Decimal

end QueryCompiler
