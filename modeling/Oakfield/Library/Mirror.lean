import Mathlib.Data.Int.Notation
import Mathlib.Data.Nat.Notation

/-! Coordinates which are mirrored at the ends of a line until they lie on it. -/
namespace Library.Mirror

/-- Repeated mirroring at `0` and at `last`; neither end is repeated. -/
inductive Mirrored (last : ℤ) : ℤ → ℤ → Prop where
  | inside {c : ℤ} (hLow : 0 ≤ c) (hHigh : c ≤ last) : Mirrored last c c
  | low {c target : ℤ} (hLow : c < 0) (hRest : Mirrored last (-c) target) : Mirrored last c target
  | high {c target : ℤ} (hHigh : last < c) (hRest : Mirrored last (2 * last - c) target) :
      Mirrored last c target

/-- The position in a period of two lines, folded back onto the first. -/
def fold (last c : ℤ) : ℤ :=
  if c % (2 * last) ≤ last then c % (2 * last) else 2 * last - c % (2 * last)

variable {last : ℤ}

theorem fold_inside {c : ℤ} (hLow : 0 ≤ c) (hHigh : c ≤ last) : fold last c = c := by
  by_cases hZero : last = 0
  · obtain rfl : c = 0 := by omega
    rw [fold, hZero]
    rfl
  · rw [fold, Int.emod_eq_of_lt hLow (by omega), if_pos hHigh]

theorem fold_add (c : ℤ) : fold last (2 * last + c) = fold last c := by
  rw [fold, fold, Int.add_emod_left]

theorem fold_neg (hLast : 0 < last) (c : ℤ) : fold last (-c) = fold last c := by
  have hPeriod : 0 < 2 * last := by omega
  have hLow := Int.emod_nonneg c (Int.ne_of_gt hPeriod)
  have hHigh := Int.emod_lt_of_pos c hPeriod
  have hNeg : -c % (2 * last) = if c % (2 * last) = 0 then 0 else 2 * last - c % (2 * last) := by
    by_cases hZero : c % (2 * last) = 0
    · rw [if_pos hZero]
      exact Int.emod_eq_zero_of_dvd (Int.dvd_neg.mpr (Int.dvd_of_emod_eq_zero hZero))
    · rw [if_neg hZero]
      have hSplit : -c = 2 * last - c % (2 * last) + 2 * last * (-(c / (2 * last)) - 1) := by
        have hDivision := Int.emod_add_mul_ediv c (2 * last)
        rw [Int.mul_sub, Int.mul_neg]
        omega
      rw [hSplit, Int.add_mul_emod_self_left, Int.emod_eq_of_lt (by omega) (by omega)]
  rw [fold, fold, hNeg]
  omega

theorem fold_bounds (hLast : 0 < last) (c : ℤ) : 0 ≤ fold last c ∧ fold last c ≤ last := by
  have hPeriod : 0 < 2 * last := by omega
  have hLow := Int.emod_nonneg c (Int.ne_of_gt hPeriod)
  have hHigh := Int.emod_lt_of_pos c hPeriod
  rw [fold]
  omega

/-- Folding is what repeated mirroring ends with. -/
theorem mirrored_fold (hLast : 0 < last) (c : ℤ) : Mirrored last c (fold last c) := by
  induction hSize : c.natAbs using Nat.strongRecOn generalizing c with
  | ind size ih =>
      by_cases hLow : c < 0
      · refine .low hLow ?_
        rw [← fold_neg hLast]
        by_cases hInside : -c ≤ last
        · rw [fold_inside (by omega) hInside]
          exact .inside (by omega) hInside
        · refine .high (by omega) ?_
          have hNext := ih (2 * last + c).natAbs (by omega) (2 * last + c) rfl
          rwa [fold_add, ← fold_neg hLast, ← Int.sub_neg] at hNext
      · by_cases hInside : c ≤ last
        · rw [fold_inside (by omega) hInside]
          exact .inside (by omega) hInside
        · refine .high (by omega) ?_
          have hNext := ih (2 * last - c).natAbs (by omega) (2 * last - c) rfl
          rwa [Int.sub_eq_add_neg, fold_add, fold_neg hLast, ← Int.sub_eq_add_neg] at hNext

theorem Mirrored.eq_fold (hLast : 0 < last) {c target : ℤ} (hMirrored : Mirrored last c target) :
    target = fold last c := by
  induction hMirrored with
  | inside hLow hHigh => exact (fold_inside hLow hHigh).symm
  | low _ _ ih => rw [ih, fold_neg hLast]
  | high _ _ ih => rw [ih, Int.sub_eq_add_neg, fold_add, fold_neg hLast]

end Library.Mirror
