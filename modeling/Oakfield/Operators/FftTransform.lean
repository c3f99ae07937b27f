import Oakfield.Operators.FftRadix2

/-! Plans of any length: transforms through chirps, and inverse transforms. -/
namespace Oakfield

open KernelIR Library Library.Fourier SimComplexDouble

/-! ### Chirps -/

/-- The chirp of a length. -/
noncomputable def unitChirp (n i : ℕ) : ℂ := Complex.exp (Real.pi * (i * i) / n * Complex.I)

theorem unitRoot_pow_eq {n : ℕ} (hPos : n ≠ 0) {j k : ℕ} (hOrder : j ≤ k) :
    unitRoot n ^ (j * k) =
      (unitChirp n j)⁻¹ * (unitChirp n k)⁻¹ * unitChirp n (k - j) := by
  rw [unitRoot, ← Complex.exp_nat_mul, unitChirp, unitChirp, unitChirp, ← Complex.exp_neg,
    ← Complex.exp_neg, ← Complex.exp_add, ← Complex.exp_add]
  congr 1
  have hLength : (n : ℂ) ≠ 0 := Nat.cast_ne_zero.mpr hPos
  push_cast [Nat.cast_sub hOrder]
  field_simp
  ring

theorem conj_unitChirp (n i : ℕ) : starRingEnd ℂ (unitChirp n i) = (unitChirp n i)⁻¹ := by
  rw [unitChirp, ← Complex.exp_conj, ← Complex.exp_neg]
  congr 1
  rw [map_mul, Complex.conj_I, map_div₀, map_mul, map_mul, Complex.conj_ofReal, map_natCast,
    map_natCast]
  ring

/-! ### Plans -/

variable [CDouble ℝ]

/-- What an initialised plan consists of. -/
inductive FftReady (n : ℕ) (plan : FFTPlan ℝ) : Prop where
  | radix2 (exponent : ℕ) (length : n = 2 ^ exponent) (direct : plan.useBluestein = false)
      (pow2 : Pow2Plan exponent plan.pow2Plan)
  | bluestein (exponent : ℕ) (large : 2 * n ≤ 2 ^ exponent + 1)
      (chirped : plan.useBluestein = true) (pow2 : Pow2Plan exponent plan.pow2Plan)
      (chirp_eq : ∀ i, plan.chirp i =
        cis (CDouble.div (CDouble.mul CDouble.pi (doubleOfUint (i * i))) (doubleOfUint n)))
      (conj_eq : ∀ i, plan.chirpConj i = conj (plan.chirp i))
      (kernel_eq : plan.bFft = fftPow2Execute plan.pow2Plan
        (fftChirpKernel n (2 ^ exponent) plan.chirp) false)

section Forward

variable [ExactDouble ℝ] [ExactPower ℝ] [ExactAnalysis] {n : ℕ} {plan : FFTPlan ℝ}

theorem chirp_eq (hFits : n < 2 ^ 60) {i : ℕ} (hSquare : i * i < 2 ^ 64) :
    toComplex (cis (CDouble.div (CDouble.mul CDouble.pi (doubleOfUint (i * i)))
      (doubleOfUint n))) = unitChirp n i := by
  rw [toComplex_cis, ExactDouble.div_eq, ExactDouble.mul_eq, ExactAnalysis.pi_eq,
    doubleOfUint_eq hSquare, doubleOfUint_eq (by omega), unitChirp]
  congr 1
  push_cast
  ring

/-- The transform of the chirped samples times that of the chirp, transformed backward. -/
theorem fftConvolution_spec {exponent : ℕ} {pow2 : FFTPow2Plan ℝ} (hPow2 : Pow2Plan exponent pow2)
    (a b : ComplexArray ℝ) {p : ℕ} (hBelow : p < 2 ^ exponent) :
    complexValues (fftPow2Execute pow2 (fun i =>
        times (fftPow2Execute pow2 a false i) (fftPow2Execute pow2 b false i)) true) p =
      ∑ i ∈ Finset.range (2 ^ exponent),
        complexValues a i * complexValues b ((p + 2 ^ exponent - i) % 2 ^ exponent) := by
  have hPos : (2 ^ exponent : ℕ) ≠ 0 := (Nat.two_pow_pos exponent).ne'
  have hProduct : ∀ i < 2 ^ exponent,
      complexValues (fun i =>
        times (fftPow2Execute pow2 a false i) (fftPow2Execute pow2 b false i)) i =
      dft (unitRoot (2 ^ exponent)) (2 ^ exponent) (complexValues a) i *
        dft (unitRoot (2 ^ exponent)) (2 ^ exponent) (complexValues b) i := by
    intro i hI
    have hFirst := fftPow2Execute_spec hPow2 a false i
    have hSecond := fftPow2Execute_spec hPow2 b false i
    rw [if_pos hI, if_neg Bool.false_ne_true] at hFirst hSecond
    rw [complexValues, toComplex_times, ← complexValues, ← complexValues, hFirst, hSecond]
  rw [fftPow2Execute_spec hPow2, if_pos hBelow, if_pos rfl, dft_congr hProduct,
    dft_inv_mul (unitRoot_primitive hPos) _ _ hBelow]
  have hCast : ((2 ^ exponent : ℕ) : ℂ) ≠ 0 := Nat.cast_ne_zero.mpr hPos
  rw [Complex.ofReal_div, Complex.ofReal_one, Complex.ofReal_natCast]
  field_simp

/-- The transform which a plan computes. The squares of the chirp fit into `size_t` up to
`2 ^ 32`. -/
theorem FftReady.forward (hReady : FftReady n plan) (hPos : n ≠ 0) (hFits : n < 2 ^ 60)
    (hN : plan.n = n) (hSquares : plan.useBluestein = true → n ≤ 2 ^ 32)
    (input output : ComplexArray ℝ) (k : ℕ) :
    complexValues (fftPlanForward plan input output) k =
      if k < n then dft (unitRoot n) n (complexValues input) k else complexValues output k := by
  have hCopied : ∀ i, complexValues (fun i => if i < n then input i else output i) i =
      if i < n then complexValues input i else complexValues output i := by
    intro i
    rw [complexValues]
    split_ifs <;> rfl
  cases hReady with
  | radix2 exponent hLength hDirect hPow2 =>
      rw [fftPlanForward, hDirect, Bool.not_false, if_pos rfl, hN, fftPow2Execute_spec hPow2,
        ← hLength]
      by_cases hBelow : k < n
      · rw [if_pos hBelow, if_pos hBelow, if_neg Bool.false_ne_true]
        refine dft_congr (fun j hJ => ?_) k
        rw [hCopied, if_pos hJ]
      · rw [if_neg hBelow, if_neg hBelow, hCopied, if_neg hBelow]
  | bluestein exponent hLarge hChirped hPow2 hChirp hConj hKernel =>
      have hSmall := hSquares hChirped
      have hChirpValue : ∀ i < n, toComplex (plan.chirp i) = unitChirp n i := by
        intro i hI
        have hSquare : i * i < 2 ^ 64 :=
          calc i * i ≤ (2 ^ 32 - 1) * (2 ^ 32 - 1) := Nat.mul_le_mul (by omega) (by omega)
            _ < 2 ^ 64 := by norm_num
        rw [hChirp, chirp_eq hFits hSquare]
      have hConjValue : ∀ i < n, toComplex (plan.chirpConj i) = (unitChirp n i)⁻¹ := by
        intro i hI
        rw [hConj, toComplex_conj, hChirpValue i hI, conj_unitChirp]
      rw [fftPlanForward, hChirped, if_neg (by decide), hN, hKernel]
      dsimp only
      rw [complexValues]
      by_cases hBelow : k < n
      · rw [if_pos hBelow, if_pos hBelow, toComplex_times, hConjValue k hBelow, ← complexValues,
          fftConvolution_spec hPow2 _ _ (by omega),
          ← dft_eq_chirped hLarge (fun j l hOrder => unitRoot_pow_eq hPos hOrder) hBelow]
        congr 1
        refine Finset.sum_congr rfl fun i _ => ?_
        congr 1
        · rw [complexValues, chirped]
          by_cases hI : i < n
          · rw [if_pos hI, if_pos hI, toComplex_times, hConjValue i hI]
            rfl
          · rw [if_neg hI, if_neg hI, toComplex_zero]
        · generalize hIndex : (k + 2 ^ exponent - i) % 2 ^ exponent = q
          have hQ : q < 2 ^ exponent := hIndex ▸ Nat.mod_lt _ (Nat.two_pow_pos _)
          rw [complexValues, fftChirpKernel, chirpCircle]
          by_cases hLow : q < n
          · rw [if_neg (by omega), if_pos hLow, if_pos hLow, hChirpValue q hLow]
          · by_cases hHigh : 2 ^ exponent - q < n
            · rw [if_pos ⟨by omega, hHigh⟩, if_neg hLow, if_pos hHigh, hChirpValue _ hHigh]
            · rw [if_neg (by omega), if_neg hLow, if_neg hLow, if_neg hHigh, toComplex_zero]
      · rw [if_neg hBelow, if_neg hBelow]
        rfl

end Forward

/-! ### Backward -/

section Backward

variable [ExactDouble ℝ] [ExactPower ℝ] [ExactAnalysis] {n : ℕ} {plan : FFTPlan ℝ}

omit [CDouble ℝ] [ExactDouble ℝ] [ExactPower ℝ] [ExactAnalysis] in
/-- A transform with the roots conjugated. -/
theorem dft_conj (x : ℕ → ℂ) (k : ℕ) :
    starRingEnd ℂ (dft (unitRoot n) n (fun i => starRingEnd ℂ (x i)) k) =
      dft (unitRoot n)⁻¹ n x k := by
  rw [dft, map_sum, dft]
  refine Finset.sum_congr rfl fun j _ => ?_
  rw [map_mul, map_pow, Complex.conj_conj, conj_unitRoot]

theorem FftReady.backward (hReady : FftReady n plan) (hPos : n ≠ 0) (hFits : n < 2 ^ 60)
    (hN : plan.n = n) (hScratch : plan.scratchN = true)
    (hSquares : plan.useBluestein = true → n ≤ 2 ^ 32) (input output : ComplexArray ℝ) :
    ∃ done, fftPlanInverse plan input output = .ok done ∧ ∀ k, complexValues done k =
      if k < n then dft (unitRoot n)⁻¹ n (complexValues input) k / n
      else complexValues output k := by
  rw [fftPlanInverse, hScratch, Bool.not_true, if_neg Bool.false_ne_true]
  refine ⟨_, rfl, fun k => ?_⟩
  have hForward := hReady.forward hPos hFits hN hSquares (fun i => conj (input i)) output k
  have hConj : complexValues (fun i => conj (input i)) =
      fun i => starRingEnd ℂ (complexValues input i) :=
    funext fun i => toComplex_conj (input i)
  rw [hConj] at hForward
  rw [complexValues, hN]
  by_cases hBelow : k < n
  · rw [if_pos hBelow] at hForward ⊢
    rw [if_pos hBelow, toComplex_overReal, toComplex_conj, ← complexValues, hForward, dft_conj,
      doubleOfUint_eq (by omega), Complex.ofReal_natCast]
  · rw [if_neg hBelow] at hForward ⊢
    rw [if_neg hBelow]
    exact hForward

end Backward

end Oakfield
