import QueryCompiler.Proofs.FailStop

/-!
# The row window

The window stage reads a size and a page: the request's, else the adapter's defaults, and for the
page else 1 (a size has no fallback). Without a size it sends nothing and changes nothing.
Otherwise it writes the page and size back to the request and sends one call setting the window,
whether or not the backend refuses that call (`Stages.sent_window`, `Run.perform_window`).

The offset is `(page - 1) * size`, clamped to the signed 64-bit range. The stage computes it in
two saturating steps, `page - 1` and then the product, and for every page a 64-bit word holds the
two clamps give the one clamp of the exact product (`Stages.offsetOf_eq_saturate`): the first
step clamps only a page at the bottom of the range, and then the exact product is out of range on
the same side as the clamped one, or zero with it.

So the first page starts at row 0, no page from 1 on with a size from 0 on starts before it
(`Stages.offsetOf_nonneg`), and the next page starts one size further on as long as neither
offset is clamped (`Stages.offsetOf_succ`). A clamped offset stops moving: with size `-2^63`,
which a request may carry, pages 2 and 3 both start at `-2^63`.
-/

namespace QueryCompiler

/-! ## Saturating arithmetic -/

/-- An integer that a signed 64-bit word holds. -/
def Fits64 (n : Int) : Prop := int64Min ≤ n ∧ n ≤ int64Max

instance : DecidablePred Fits64 := fun n => inferInstanceAs (Decidable (int64Min ≤ n ∧ n ≤ int64Max))

theorem saturate_of_fits {n : Int} (h : Fits64 n) : saturate n = n := by
  unfold saturate
  unfold Fits64 at h
  omega

theorem saturate_of_le_min {n : Int} (h : n ≤ int64Min) : saturate n = int64Min := by
  unfold saturate int64Min int64Max at *
  omega

theorem saturate_of_max_le {n : Int} (h : int64Max ≤ n) : saturate n = int64Max := by
  unfold saturate int64Min int64Max at *
  omega

namespace Stages

/-! ## The offset of a page -/

/-- The two saturating steps clamp as one: for a page whose predecessor does not overflow, the
offset is the exact `(page - 1) * size`, clamped. -/
theorem offsetOf_eq_saturate {p : Int} (z : Int) (hp : p - 1 ≤ int64Max) :
    offsetOf p z = saturate ((p - 1) * z) := by
  unfold offsetOf
  by_cases hlow : int64Min ≤ p - 1
  · rw [saturate_of_fits ⟨hlow, hp⟩]
  · -- `page - 1` fell below the range: the exact product lies past the same bound as the clamped
    -- one, on the side the size's sign gives
    have hneg : p - 1 ≤ int64Min := by omega
    have hmin : int64Min ≤ 0 := by decide
    have hinner : saturate (p - 1) = int64Min := saturate_of_le_min hneg
    rw [hinner]
    rcases Int.lt_trichotomy z 0 with hz | rfl | hz
    · have h1 := Int.mul_le_mul_of_nonpos_left hmin (show z ≤ -1 by omega)
      have h2 := Int.mul_le_mul_of_nonpos_left (show p - 1 ≤ 0 by omega) (show z ≤ -1 by omega)
      rw [saturate_of_max_le (by unfold int64Min int64Max at *; omega),
        saturate_of_max_le (by unfold int64Min int64Max at *; omega)]
    · simp [saturate_of_fits (show Fits64 0 by decide)]
    · have h1 := Int.mul_le_mul_of_nonpos_left hmin (show 1 ≤ z by omega)
      have h2 := Int.mul_le_mul_of_nonpos_left (show p - 1 ≤ 0 by omega) (show 1 ≤ z by omega)
      rw [saturate_of_le_min (by omega), saturate_of_le_min (by omega)]

/-- A page from 1 on, with a size from 0 on, never starts before the first row. -/
theorem offsetOf_nonneg {p z : Int} (hp : 1 ≤ p) (hz : 0 ≤ z) : 0 ≤ offsetOf p z := by
  have hpred : 0 ≤ saturate (p - 1) := by
    unfold saturate int64Min int64Max
    omega
  have hprod : 0 ≤ saturate (p - 1) * z := Int.mul_nonneg hpred hz
  unfold offsetOf
  generalize saturate (p - 1) * z = m at hprod
  unfold saturate int64Min int64Max
  omega

/-- The next page starts one size further on, as long as neither offset is clamped. -/
theorem offsetOf_succ {p z : Int} (hp : p ≤ int64Max) (h : Fits64 ((p - 1) * z))
    (h' : Fits64 (p * z)) : offsetOf (p + 1) z = offsetOf p z + z := by
  rw [offsetOf_eq_saturate z (by omega), offsetOf_eq_saturate z (by omega), Int.add_sub_cancel,
    saturate_of_fits h, saturate_of_fits h', Int.sub_mul, Int.one_mul, Int.sub_add_cancel]

/-- From the first page on, with a size from 0 on, the next page starts one size further on as
long as its own offset does not pass `2^63 - 1`. -/
theorem offsetOf_succ_of_nonneg {p z : Int} (hp : 1 ≤ p) (hz : 0 ≤ z) (h : p * z ≤ int64Max) :
    offsetOf (p + 1) z = offsetOf p z + z := by
  by_cases hz0 : z = 0
  · subst hz0
    simp [offsetOf, saturate_of_fits (show Fits64 0 by decide)]
  · -- a positive size: the page is at most its offset, and both offsets lie in `0 … 2^63 - 1`
    have hle : p * 1 ≤ p * z := Int.mul_le_mul_of_nonneg_left (by omega) (by omega)
    have hlow : 0 ≤ (p - 1) * z := Int.mul_nonneg (by omega) hz
    have hstep : (p - 1) * z ≤ p * z := Int.mul_le_mul_of_nonneg_right (by omega) hz
    have hmin : int64Min ≤ 0 := by decide
    exact offsetOf_succ (by omega) ⟨by omega, by omega⟩ ⟨by omega, h⟩

/-! ## The stage -/

/-- The calls the window stage sends: none without a size in effect, else the one setting the
window, refused or not. -/
theorem sent_window (b : Backend) (d : Option PageDefaults) (r : Request) :
    Run.sent b (window d r) =
      match r.size.or (d.map PageDefaults.size) with
      | none => []
      | some z => [.offsetLimit (offsetOf ((r.page.or (d.map PageDefaults.page)).getD 1) z) z] := by
  unfold window
  cases r.size.or (d.map PageDefaults.size) with
  | none => rfl
  | some z =>
    dsimp only
    simp only [Run.sent, Step.fault, Step.call?]
    split <;> rfl

/-! ## The window a request gets -/

/-- The window stage on a request, from any state and for every page a 64-bit word holds: it
sends nothing and leaves the request as it was exactly when neither the request nor the defaults
give a size. Otherwise it sends one call setting the window, at the exact offset
`(page - 1) * size` clamped to 64 bits, and writes the page and size in effect into the request.
That offset is never negative from the first page on with a size from 0 on, and the next page
starts one size further on while neither offset is clamped. -/
theorem window_offset_clamped (b : Backend) (t : Run) (d : Option PageDefaults)
    (hpage : ∀ n ∈ t.request.page, n ≤ int64Max) (hdefault : ∀ x ∈ d, x.page ≤ int64Max) :
    ((Run.sent b (window d t.request) = [] ∧
        (Run.perform b t (window d t.request)).1.request = t.request) ↔
      t.request.size = none ∧ d = none) ∧
    (∀ z, t.request.size.or (d.map PageDefaults.size) = some z →
      Run.sent b (window d t.request) =
          [.offsetLimit
            (saturate (((t.request.page.or (d.map PageDefaults.page)).getD 1 - 1) * z)) z] ∧
        (Run.perform b t (window d t.request)).1.request =
          { t.request with
            page := some ((t.request.page.or (d.map PageDefaults.page)).getD 1)
            size := some z }) ∧
    (∀ p z : Int, 1 ≤ p → 0 ≤ z → 0 ≤ offsetOf p z) ∧
    (∀ p z : Int, p ≤ int64Max → Fits64 ((p - 1) * z) → Fits64 (p * z) →
      offsetOf (p + 1) z = offsetOf p z + z) ∧
    (∀ p z : Int, 1 ≤ p → 0 ≤ z → p * z ≤ int64Max → offsetOf (p + 1) z = offsetOf p z + z) := by
  -- the page in effect is one a 64-bit word holds, so its offset is the clamped exact product
  have hin : (t.request.page.or (d.map PageDefaults.page)).getD 1 ≤ int64Max := by
    cases hp : t.request.page with
    | some n => simpa using hpage n hp
    | none =>
      cases d with
      | none => decide
      | some x => simpa using hdefault x rfl
  have hsent := sent_window b d t.request
  have hreq := (Run.perform_window b t d t.request).1
  refine ⟨⟨fun ⟨hnil, _⟩ => ?_, fun ⟨hs, hd⟩ => ?_⟩, fun z hz => ?_, fun _ _ => offsetOf_nonneg,
    fun _ _ => offsetOf_succ, fun _ _ => offsetOf_succ_of_nonneg⟩
  · -- a size in effect makes the stage send its call
    cases hz : t.request.size.or (d.map PageDefaults.size) with
    | none => simpa using hz
    | some z => simp [hz, hnil] at hsent
  · have hz : t.request.size.or (d.map PageDefaults.size) = none := by simp [hs, hd]
    simp only [hz] at hsent hreq
    exact ⟨hsent, hreq⟩
  · simp only [hz] at hsent hreq
    rw [hsent, hreq, offsetOf_eq_saturate z (by omega)]
    exact ⟨rfl, rfl⟩

/-- Page 3 of a request whose size comes from defaults of 25 rows starts at row 50. -/
theorem window_third_page_of_defaults :
    (∀ n ∈ some (3 : Int), n ≤ int64Max) ∧
      (∀ x ∈ some (⟨1, 25⟩ : PageDefaults), x.page ≤ int64Max) ∧
      Run.sent .accepting (window (some ⟨1, 25⟩) { page := some 3 }) = [.offsetLimit 50 25] := by
  have hpage : ∀ n ∈ some (3 : Int), n ≤ int64Max := by simp [int64Max]
  have hdefault : ∀ x ∈ some (⟨1, 25⟩ : PageDefaults), x.page ≤ int64Max := by simp [int64Max]
  obtain ⟨-, hwin, -⟩ := window_offset_clamped .accepting
    { query := { table := "records" }, request := { page := some 3 } } (some ⟨1, 25⟩)
    hpage hdefault
  refine ⟨hpage, hdefault, ?_⟩
  rw [(hwin 25 rfl).1]
  decide

/-- A clamped offset stops moving: with size `-2^63`, pages 2 and 3 both start at `-2^63`, so
page 3 does not start one size after page 2, although `2 * -2^63` is below `2^63 - 1`. -/
theorem clamped_offset_stalls :
    2 * int64Min ≤ int64Max ∧ offsetOf 2 int64Min = int64Min ∧ offsetOf 3 int64Min = int64Min ∧
      offsetOf 3 int64Min ≠ offsetOf 2 int64Min + int64Min := by
  decide

end Stages

end QueryCompiler
