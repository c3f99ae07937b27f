import Mathlib.Algebra.Polynomial.HasseDeriv
import Mathlib.Algebra.Polynomial.Taylor

/-! Least-squares fits of polynomials to samples at nodes: the weights which read a derivative off
the fit. -/
namespace Library.LocalFit

open Finset Polynomial

variable {K ι : Type*} [Field K] {s : Finset ι} {node weight : ι → K} {order d : ℕ} {scale : K}

/-- The moments of weights, up to an order: only that of one degree is not zero. -/
def Moments (s : Finset ι) (node weight : ι → K) (order d : ℕ) (scale : K) : Prop :=
  ∀ p ≤ order, ∑ k ∈ s, weight k * node k ^ p = if p = d then scale else 0

/-- A row of the inverse of the normal equations gives such weights. -/
theorem moments_of_inverse {inv : ℕ → ℕ → K} (hDegree : d ≤ order)
    (hInverse : ∀ r < order + 1, ∀ c < order + 1,
      ∑ t ∈ range (order + 1), inv r t * ∑ k ∈ s, node k ^ (t + c) = if r = c then 1 else 0) :
    Moments s node (fun k => ∑ j ∈ range (order + 1), inv d j * node k ^ j) order d 1 := by
  intro p hOrder
  calc ∑ k ∈ s, (∑ j ∈ range (order + 1), inv d j * node k ^ j) * node k ^ p
      = ∑ k ∈ s, ∑ j ∈ range (order + 1), inv d j * node k ^ (j + p) := by
        refine sum_congr rfl fun k _ => ?_
        rw [sum_mul]
        refine sum_congr rfl fun j _ => ?_
        rw [pow_add, mul_assoc]
    _ = ∑ j ∈ range (order + 1), inv d j * ∑ k ∈ s, node k ^ (j + p) := by
        rw [sum_comm]
        refine sum_congr rfl fun j _ => ?_
        rw [mul_sum]
    _ = if p = d then 1 else 0 := by
        rw [hInverse d (by omega) p (by omega)]
        simp only [eq_comm]

theorem Moments.mul (hMoments : Moments s node weight order d scale) (factor : K) :
    Moments s node (fun k => weight k * factor) order d (scale * factor) := by
  intro p hOrder
  have hSum : ∑ k ∈ s, weight k * factor * node k ^ p = (∑ k ∈ s, weight k * node k ^ p) * factor := by
    rw [sum_mul]
    refine sum_congr rfl fun k _ => ?_
    ring
  rw [hSum, hMoments p hOrder]
  split_ifs
  · rfl
  · exact zero_mul factor

theorem Moments.congr {weight' : ι → K} (hMoments : Moments s node weight order d scale)
    (hSame : ∀ k ∈ s, weight k = weight' k) : Moments s node weight' order d scale := by
  intro p hOrder
  rw [← hMoments p hOrder]
  refine sum_congr rfl fun k hk => ?_
  rw [hSame k hk]

/-- On samples of a polynomial around a point such weights give its derivative there. -/
theorem Moments.eval {h : K} (hMoments : Moments s node weight order d scale)
    (hScale : scale * h ^ d = d.factorial) {p : K[X]} (hDegree : p.natDegree ≤ order) (x : K) :
    ∑ k ∈ s, weight k * p.eval (x + node k * h) = (derivative^[d] p).eval x := by
  have hTaylor : ∀ k, p.eval (x + node k * h) =
      ∑ i ∈ range (order + 1), (taylor x p).coeff i * (node k * h) ^ i := by
    intro k
    have hEval := taylor_eval x p (node k * h)
    rw [add_comm x, ← hEval]
    exact eval_eq_sum_range' (by rw [natDegree_taylor]; omega) _
  calc ∑ k ∈ s, weight k * p.eval (x + node k * h)
      = ∑ k ∈ s, ∑ i ∈ range (order + 1),
          (taylor x p).coeff i * h ^ i * (weight k * node k ^ i) := by
        refine sum_congr rfl fun k _ => ?_
        rw [hTaylor, mul_sum]
        refine sum_congr rfl fun i _ => ?_
        rw [mul_pow]
        ring
    _ = ∑ i ∈ range (order + 1), (taylor x p).coeff i * h ^ i * (if i = d then scale else 0) := by
        rw [sum_comm]
        refine sum_congr rfl fun i hi => ?_
        rw [← mul_sum, hMoments i (Nat.lt_succ_iff.mp (mem_range.mp hi))]
    _ = (taylor x p).coeff d * d.factorial := by
        by_cases hOrder : d ≤ order
        · rw [sum_eq_single_of_mem d (mem_range.mpr (by omega))]
          · rw [if_pos rfl, mul_assoc, mul_comm (h ^ d), hScale]
          · intro i _ hOther
            rw [if_neg hOther, mul_zero]
        · have hNone : (taylor x p).coeff d = 0 :=
            coeff_eq_zero_of_natDegree_lt (by rw [natDegree_taylor]; omega)
          rw [hNone, zero_mul]
          refine sum_eq_zero fun i hi => ?_
          rw [if_neg (by have := mem_range.mp hi; omega), mul_zero]
    _ = (derivative^[d] p).eval x := by
        rw [taylor_coeff, ← factorial_smul_hasseDeriv]
        simp [mul_comm]

end Library.LocalFit
