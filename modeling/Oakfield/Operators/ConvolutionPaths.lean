import Oakfield.KernelIR.ExactDouble
import Oakfield.Library.Correlation
import Oakfield.Operators.ConvolutionValues

/-! The paths of the minimal convolution in exact arithmetic: shifted copies of rows and the loop
over elements, passes along two axes and a kernel in two dimensions. -/
namespace Oakfield

open Finset KernelIR Library Library.Correlation

variable {K : Type} [Field K] [LinearOrder K] [CDouble K] [ExactDouble K]

/-! ### Sums of taps -/

theorem tapSum_eq (start : K) (coeff : ℕ → K) (sample : ℕ → Option K) (n : ℕ) :
    realSamples.tapSum start coeff sample n = start + correlate coeff sample n := by
  induction n with
  | zero =>
      rw [correlate, sum_range_zero, add_zero]
      rfl
  | succ n ih =>
      rw [Samples.tapSum, correlate, sum_range_succ, ← correlate, ih]
      cases sample n with
      | none => exact (congrArg (start + ·) (add_zero _)).symm
      | some value =>
          show CDouble.add _ (CDouble.mul _ _) = _
          rw [ExactDouble.add_eq, ExactDouble.mul_eq, add_assoc]
          rfl

theorem tapSum_zero (coeff : ℕ → K) (sample : ℕ → Option K) (n : ℕ) :
    realSamples.tapSum realSamples.zero coeff sample n = correlate coeff sample n := by
  rw [tapSum_eq]
  show CDouble.zero + _ = _
  rw [ExactDouble.zero_eq, zero_add]

theorem stored_eq (accumulate : Bool) (scale old sum : K) :
    realSamples.stored accumulate scale old sum =
      if accumulate then old + scale * sum else sum := by
  cases accumulate with
  | false => rfl
  | true =>
      show CDouble.add _ (CDouble.mul _ _) = _
      rw [ExactDouble.add_eq, ExactDouble.mul_eq]
      rfl

/-- Taps which are skipped would have added nothing. -/
theorem rowSum_eq (start factor : K) (taps sample : ℕ → K) (n : ℕ) :
    realSamples.rowSum start factor taps sample n =
      start + factor * correlate taps (fun k => some (sample k)) n := by
  induction n with
  | zero =>
      rw [correlate, sum_range_zero, mul_zero, add_zero]
      rfl
  | succ n ih =>
      have hTerm : start + factor * correlate taps (fun k => some (sample k)) (n + 1) =
          start + factor * correlate taps (fun k => some (sample k)) n +
            factor * taps n * sample n := by
        rw [correlate, sum_range_succ, ← correlate, Option.elim_some, mul_add, ← add_assoc,
          ← mul_assoc]
      rw [Samples.rowSum, ih, hTerm, ExactDouble.mul_eq]
      split
      · next hZero =>
          rw [ExactDouble.eq_iff, ExactDouble.zero_eq] at hZero
          rw [hZero, zero_mul, add_zero]
      · show CDouble.add _ (CDouble.mul _ _) = _
        rw [ExactDouble.add_eq, ExactDouble.mul_eq]

theorem rowValue_eq (accumulate : Bool) (scale : K) (taps : ℕ → K) (old : K) (sample : ℕ → K)
    (n : ℕ) :
    realSamples.rowValue accumulate scale taps old sample n =
      realSamples.stored accumulate scale old (correlate taps (fun k => some (sample k)) n) := by
  rw [Samples.rowValue, rowSum_eq, stored_eq]
  cases accumulate with
  | true => rfl
  | false =>
      show CDouble.zero + CDouble.one * _ = _
      rw [ExactDouble.zero_eq, ExactDouble.one_eq, one_mul, zero_add]
      rfl

namespace SimMinimalConvolutionOperatorState

variable (state : SimMinimalConvolutionOperatorState K)

/-! ### Rows -/

theorem applyElements_eq (src dst : ℕ → K) (count : ℕ) (scale : K) (p : ℕ) :
    state.applyElements realSamples src dst count scale p =
      if p < count then
        realSamples.stored state.config.accumulate scale (dst p) (correlate state.kernel (fun k =>
          (state.tapPosition count p k (state.kernelLength / 2)).map src) state.kernelLength)
      else dst p := by
  rw [applyElements, tapSum_zero]

/-- On a periodic row the shifted copies do what the loop over the elements does. -/
theorem applyPeriodicRow_eq_elements (hBoundary : state.config.boundary = .periodic)
    (hStride : state.stride = 1) (src dst : ℕ → K) {count : ℕ} (hCount : count ≠ 0)
    (hFits : count < 2 ^ 61) (scale : K) :
    state.applyPeriodicRow realSamples src dst 0 count state.config.accumulate scale =
      state.applyElements realSamples src dst count scale := by
  funext p
  rw [state.applyPeriodicRow_eq realSamples src dst hCount, applyElements_eq, rowValue_eq]
  by_cases hBelow : p < count
  · rw [if_pos ⟨Nat.zero_le p, by omega⟩, if_pos hBelow]
    simp only [state.tapPosition_periodic hBoundary hStride hBelow hFits, Option.map_some,
      Nat.zero_add, Nat.sub_zero]
  · rw [if_neg (by omega), if_neg hBelow]

variable {height width : ℕ}

theorem passSum_eq (axis : SimMinimalConvolutionAxis) (f : ℕ → ℕ → K) (y x : ℕ) :
    state.passSum realSamples height width axis f y x =
      match axis with
      | .y => correlate state.kernel (fun k =>
          (state.tapPosition height y k (state.kernelLength / 2)).map fun y => f y x)
          state.kernelLength
      | .x => correlate state.kernel (fun k =>
          (state.tapPosition width x k (state.kernelLength / 2)).map fun x => f y x)
          state.kernelLength := by
  rw [passSum, tapSum_zero]
  cases axis <;> rfl

/-- The rows of shifted copies do to a periodic plane what the loops over its elements do. -/
theorem axisRows_eq_elements (hBoundary : state.config.boundary = .periodic)
    (hStride : state.stride = 1) (hWidth : width ≠ 0) (hFits : height * width < 2 ^ 61)
    (src dst : ℕ → K) (accumulate : Bool) (scale : K) :
    state.axisRows realSamples (rowMajor height width) src dst accumulate scale =
      state.axisElements realSamples (rowMajor height width) .x src dst accumulate scale := by
  funext p
  rw [state.axisRows_eq realSamples hWidth, state.axisElements_eq realSamples hFits, rowValue_eq,
    passSum_eq]
  by_cases hInside : p < height * width
  · obtain ⟨hY, hX, -⟩ := rowMajor_inside hInside
    have hNarrow : width < 2 ^ 61 :=
      Nat.lt_of_le_of_lt (Nat.le_mul_of_pos_left width (Nat.zero_lt_of_lt hY)) hFits
    rw [if_pos hInside, if_pos hInside]
    simp only [state.tapPosition_periodic hBoundary hStride hX hNarrow, Option.map_some]
  · rw [if_neg hInside, if_neg hInside]

end SimMinimalConvolutionOperatorState

end Oakfield
