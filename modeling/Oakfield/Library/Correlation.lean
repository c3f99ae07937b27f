import Mathlib.Algebra.BigOperators.Group.Finset.Sigma
import Mathlib.Algebra.BigOperators.Ring.Finset

/-! Kernels against the values around a position, some of which there are not. -/
namespace Library.Correlation

open Finset

variable {K : Type} [CommSemiring K]

/-- The sum of the taps against the values which there are. -/
def correlate (taps : ℕ → K) (value : ℕ → Option K) (n : ℕ) : K :=
  ∑ k ∈ range n, (value k).elim 0 (taps k * ·)

section Separable

variable (a b : ℕ → K) (rowAt colAt : ℕ → Option ℕ) (f : ℕ → ℕ → K) (rows cols : ℕ)

end Separable

end Library.Correlation
