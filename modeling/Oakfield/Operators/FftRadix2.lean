import Mathlib.RingTheory.RootsOfUnity.Complex
import Oakfield.KernelIR.RealDouble
import Oakfield.Operators.FftPlan

/-! Plans of powers of two compute the discrete Fourier transform, in exact arithmetic. -/
namespace Oakfield

open KernelIR Library Library.Fourier Library.BitReversal SimComplexDouble

attribute [local instance] two_atLeastTwo

/-! ### Sizes -/

/-- The root of unity of the transform of a length. -/
noncomputable def unitRoot (n : ℕ) : ℂ := Complex.exp (-(2 * Real.pi * Complex.I / n))

theorem unitRoot_inv (n : ℕ) : (unitRoot n)⁻¹ = Complex.exp (2 * Real.pi * Complex.I / n) := by
  rw [unitRoot, Complex.exp_neg, inv_inv]

theorem unitRoot_primitive {n : ℕ} (hPos : n ≠ 0) : IsPrimitiveRoot (unitRoot n) n := by
  rw [unitRoot, Complex.exp_neg]
  exact (Complex.isPrimitiveRoot_exp n hPos).inv

theorem unitRoot_square (s : ℕ) : unitRoot (2 ^ (s + 1)) ^ 2 = unitRoot (2 ^ s) := by
  rw [unitRoot, ← Complex.exp_nat_mul, unitRoot]
  congr 1
  push_cast
  rw [pow_succ]
  field_simp

theorem unitRoot_half (s : ℕ) : unitRoot (2 ^ (s + 1)) ^ 2 ^ s = -1 := by
  rw [unitRoot, ← Complex.exp_nat_mul, ← Complex.exp_neg_pi_mul_I]
  congr 1
  push_cast
  rw [pow_succ]
  field_simp

theorem conj_unitRoot (n : ℕ) : starRingEnd ℂ (unitRoot n) = (unitRoot n)⁻¹ := by
  rw [unitRoot_inv, unitRoot, ← Complex.exp_conj]
  congr 1
  rw [map_neg, map_div₀, map_mul, map_mul, Complex.conj_I, Complex.conj_ofReal, map_natCast,
    map_ofNat]
  ring

variable [CDouble ℝ]

/-! ### Plans -/

/-- What a plan of a power of two consists of. -/
structure Pow2Plan (exponent : ℕ) (plan : FFTPow2Plan ℝ) : Prop where
  small : exponent < 64
  n_eq : plan.n = 2 ^ exponent
  levels_eq : plan.levels = exponent
  reverse_eq : ∀ i, plan.bitReverse i = reverse exponent i
  twiddles_eq : ∀ level, plan.stageTwiddles level =
    cis (CDouble.div (CDouble.mul (CDouble.lit (-2) 0) CDouble.pi) (doubleOfUint (2 ^ (level + 1))))

/-- The complex number of two doubles. -/
def toComplex (z : SimComplexDouble ℝ) : ℂ := ⟨z.re, z.im⟩

variable [ExactDouble ℝ]

@[simp] theorem toComplex_zero : toComplex zero = 0 := by
  rw [toComplex, zero, ExactDouble.zero_eq]
  rfl

@[simp] theorem toComplex_one : toComplex one = 1 := by
  rw [toComplex, one, ExactDouble.zero_eq, ExactDouble.one_eq]
  rfl

@[simp] theorem toComplex_plus (a b : SimComplexDouble ℝ) :
    toComplex (plus a b) = toComplex a + toComplex b := by
  rw [toComplex, plus, ExactDouble.add_eq, ExactDouble.add_eq]
  rfl

@[simp] theorem toComplex_minus (a b : SimComplexDouble ℝ) :
    toComplex (minus a b) = toComplex a - toComplex b := by
  rw [toComplex, minus, ExactDouble.sub_eq, ExactDouble.sub_eq]
  rfl

@[simp] theorem toComplex_times (a b : SimComplexDouble ℝ) :
    toComplex (times a b) = toComplex a * toComplex b := by
  simp only [toComplex, times, ExactDouble.sub_eq, ExactDouble.add_eq, ExactDouble.mul_eq]
  rfl

@[simp] theorem toComplex_conj (a : SimComplexDouble ℝ) :
    toComplex (conj a) = starRingEnd ℂ (toComplex a) := by
  rw [toComplex, conj, ExactDouble.neg_eq]
  rfl

@[simp] theorem toComplex_timesReal (a : SimComplexDouble ℝ) (scale : ℝ) :
    toComplex (timesReal a scale) = toComplex a * scale := by
  rw [toComplex, timesReal, ExactDouble.mul_eq, ExactDouble.mul_eq]
  apply Complex.ext <;> simp [toComplex]

@[simp] theorem toComplex_overReal (a : SimComplexDouble ℝ) (divisor : ℝ) :
    toComplex (overReal a divisor) = toComplex a / divisor := by
  rw [toComplex, overReal, ExactDouble.div_eq, ExactDouble.div_eq]
  apply Complex.ext <;> simp [toComplex, Complex.div_ofReal_re, Complex.div_ofReal_im]

omit [ExactDouble ℝ] in
theorem toComplex_cis [ExactAnalysis] (angle : ℝ) :
    toComplex (cis angle) = Complex.exp (angle * Complex.I) := by
  rw [toComplex, cis, ExactAnalysis.cos_eq, ExactAnalysis.sin_eq, Complex.exp_mul_I]
  apply Complex.ext <;> simp [← Complex.ofReal_cos, ← Complex.ofReal_sin]

/-! ### Stages -/

section Stages

variable {half : ℕ} {wM : SimComplexDouble ℝ}

/-- The values of an array. -/
def complexValues (data : ComplexArray ℝ) (i : ℕ) : ℂ := toComplex (data i)

/-- The first butterflies of a block. -/
theorem fftButterflies_spec (k : ℕ) (data : ComplexArray ℝ) {j : ℕ} (hBelow : j ≤ half) :
    toComplex (fftButterflies half k wM data j).2 = toComplex wM ^ j ∧
      ∀ p, complexValues (fftButterflies half k wM data j).1 p =
        if k ≤ p ∧ p < k + j then
          complexValues data p + toComplex wM ^ (p - k) * complexValues data (p + half)
        else if k + half ≤ p ∧ p < k + half + j then
          complexValues data (p - half) - toComplex wM ^ (p - half - k) * complexValues data p
        else complexValues data p := by
  induction j with
  | zero =>
      refine ⟨toComplex_one.trans (pow_zero _).symm, fun p => ?_⟩
      rw [if_neg (by omega), if_neg (by omega)]
      rfl
  | succ j ih =>
      obtain ⟨hFactor, hData⟩ := ih (by omega)
      rw [fftButterflies]
      dsimp only
      refine ⟨by rw [toComplex_times, hFactor, pow_succ], fun p => ?_⟩
      have hLow := hData (k + j)
      rw [if_neg (by omega), if_neg (by omega)] at hLow
      have hHigh := hData (k + j + half)
      rw [if_neg (by omega), if_neg (by omega)] at hHigh
      rw [complexValues] at hLow hHigh ⊢
      by_cases hOffset : p = k + j + half
      · rw [hOffset, Function.update_self, toComplex_minus, toComplex_times, hFactor, hLow, hHigh,
          if_neg (by omega), if_pos (by omega), Nat.add_sub_cancel, Nat.add_sub_cancel_left]
      · rw [Function.update_of_ne hOffset]
        by_cases hIndex : p = k + j
        · rw [hIndex, Function.update_self, toComplex_plus, toComplex_times, hFactor, hLow, hHigh,
            if_pos (by omega), Nat.add_sub_cancel_left]
        · rw [Function.update_of_ne hIndex, ← complexValues, hData]
          by_cases hFirst : k ≤ p ∧ p < k + j
          · rw [if_pos hFirst, if_pos (by omega)]
          · rw [if_neg hFirst, if_neg (show ¬(k ≤ p ∧ p < k + (j + 1)) by omega)]
            by_cases hSecond : k + half ≤ p ∧ p < k + half + j
            · rw [if_pos hSecond, if_pos (by omega)]
            · rw [if_neg hSecond, if_neg (by omega)]

/-- The first blocks of a stage. -/
theorem fftBlocks_spec (hHalf : 0 < half) (data : ComplexArray ℝ) (count p : ℕ) :
    complexValues (fftBlocks half wM data count) p =
      if p < count * (2 * half) then stage half (toComplex wM) (complexValues data) p
      else complexValues data p := by
  induction count generalizing p with
  | zero =>
      rw [Nat.zero_mul, if_neg (Nat.not_lt_zero p)]
      rfl
  | succ count ih =>
      rw [fftBlocks, (fftButterflies_spec _ _ le_rfl).2, ih, ih, ih, Nat.add_one_mul count]
      generalize hStart : count * (2 * half) = k
      have hMod : ∀ r < 2 * half, (k + r) % (2 * half) = r := by
        intro r hR
        rw [← hStart, Nat.mul_comm, Nat.mul_add_mod, Nat.mod_eq_of_lt hR]
      by_cases hBefore : p < k
      · rw [if_neg (by omega), if_neg (by omega), if_pos hBefore, if_pos (by omega)]
      · obtain ⟨r, rfl⟩ := Nat.exists_eq_add_of_le (Nat.not_lt.mp hBefore)
        by_cases hLow : r < half
        · rw [if_pos (by omega), if_neg (by omega), if_neg (by omega), if_pos (by omega), stage,
            hMod r (by omega), if_pos hLow, Nat.add_sub_cancel_left]
        · rw [if_neg (show ¬(k ≤ k + r ∧ k + r < k + half) by omega)]
          by_cases hHigh : r < 2 * half
          · rw [if_pos (by omega), if_neg (by omega), if_neg (by omega), if_pos (by omega), stage,
              hMod r hHigh, if_neg hLow, show k + r - half - k = r - half by omega]
          · rw [if_neg (by omega), if_neg (by omega), if_neg (by omega)]

/-- The first stages, with the roots of unity of their lengths. -/
theorem fftStages_spec {exponent : ℕ} {plan : FFTPow2Plan ℝ} (hN : plan.n = 2 ^ exponent)
    {root : ℕ → ℂ} (hSquare : ∀ s, root (s + 1) ^ 2 = root s)
    (hHalf : ∀ s, root (s + 1) ^ 2 ^ s = -1) {inverse : Bool}
    (hRoots : ∀ level < exponent, toComplex (if inverse then conj (plan.stageTwiddles level)
      else plan.stageTwiddles level) = root (level + 1))
    {x : ℕ → ℂ} {data : ComplexArray ℝ}
    (hData : ∀ p < 2 ^ exponent, complexValues data p = x (reverse exponent p)) {level : ℕ}
    (hLevel : level ≤ exponent) (p : ℕ) :
    complexValues (fftStages plan inverse data level) p =
      if p < 2 ^ exponent then blocks (exponent - level) level (root level) x p
      else complexValues data p := by
  induction level generalizing p with
  | zero =>
      rw [fftStages, Nat.sub_zero, blocks_zero]
      split_ifs with hInside
      · exact hData p hInside
      · rfl
  | succ level ih =>
      have hBefore := ih (by omega)
      have hPower : 0 < 2 ^ level := Nat.two_pow_pos level
      have hHalfSize : 2 ^ (level + 1) / 2 = 2 ^ level := by
        rw [pow_succ, Nat.mul_div_cancel _ (by omega)]
      have hCount : (plan.n + 2 ^ (level + 1) - 1) / 2 ^ (level + 1) * (2 * 2 ^ level) =
          2 ^ exponent := by
        obtain ⟨rest, hRest⟩ := Nat.exists_eq_add_of_le hLevel
        have hWhole : 2 ^ exponent = 2 ^ (level + 1) * 2 ^ rest := by rw [hRest, pow_add]
        rw [hN, hWhole, Nat.add_sub_assoc (Nat.two_pow_pos _), Nat.mul_add_div (Nat.two_pow_pos _),
          Nat.div_eq_of_lt (Nat.sub_lt (Nat.two_pow_pos _) Nat.one_pos), add_zero, pow_succ]
        ring
      rw [fftStages, fftBlocks_spec (by omega), hHalfSize, hCount, hRoots level (by omega)]
      by_cases hInside : p < 2 ^ exponent
      · have hDivides : 2 * 2 ^ level ∣ 2 ^ exponent := ⟨_, by rw [mul_comm, hCount]⟩
        rw [if_pos hInside, if_pos hInside, stage_congr hDivides hInside fun q hq => by
          rw [hBefore, if_pos hq], ← hSquare level,
          show exponent - level = exponent - (level + 1) + 1 by omega, stage_blocks (hHalf level)]
      · rw [if_neg hInside, if_neg hInside, hBefore, if_neg hInside]

end Stages

/-! ### Execution -/

section Execution

variable [ExactPower ℝ] [ExactAnalysis] {exponent : ℕ} {plan : FFTPow2Plan ℝ}

theorem Pow2Plan.twiddle (hPlan : Pow2Plan exponent plan) {level : ℕ} (hLevel : level < exponent) :
    toComplex (plan.stageTwiddles level) = unitRoot (2 ^ (level + 1)) := by
  have hSmall := hPlan.small
  have hPower : 2 ^ (level + 1) < 2 ^ 64 := Nat.pow_lt_pow_right (by omega) (by omega)
  rw [hPlan.twiddles_eq, toComplex_cis, unitRoot, ExactDouble.div_eq, ExactDouble.mul_eq,
    ExactDouble.lit_eq, ExactAnalysis.pi_eq, doubleOfUint_eq hPower]
  congr 1
  push_cast
  ring

/-- The transform that a plan of a power of two computes in place: forward, or backward with the
factor of the length. -/
theorem fftPow2Execute_spec (hPlan : Pow2Plan exponent plan) (data : ComplexArray ℝ)
    (inverse : Bool) (p : ℕ) :
    complexValues (fftPow2Execute plan data inverse) p =
      if p < 2 ^ exponent then
        if inverse then
          dft (unitRoot (2 ^ exponent))⁻¹ (2 ^ exponent) (complexValues data) p *
            (1 / (2 ^ exponent : ℕ) : ℝ)
        else dft (unitRoot (2 ^ exponent)) (2 ^ exponent) (complexValues data) p
      else complexValues data p := by
  have hInvolution : ∀ i < plan.n, plan.bitReverse i < plan.n ∧
      plan.bitReverse (plan.bitReverse i) = i := by
    intro i hI
    rw [hPlan.n_eq] at hI ⊢
    rw [hPlan.reverse_eq, hPlan.reverse_eq]
    exact ⟨reverse_lt exponent i, reverse_reverse hI⟩
  have hPermuted : ∀ q, complexValues (exchangeLoop plan.bitReverse data plan.n) q =
      if q < 2 ^ exponent then complexValues data (reverse exponent q)
      else complexValues data q := by
    intro q
    rw [complexValues, exchangeLoop_apply hInvolution data le_rfl, ← hPlan.n_eq]
    by_cases hInside : q < plan.n
    · rw [if_pos ⟨hInside, .inl hInside⟩, if_pos hInside, hPlan.reverse_eq]
      rfl
    · rw [if_neg fun hAll => hInside hAll.1, if_neg hInside]
      rfl
  have hDone : ∀ root : ℕ → ℂ, (∀ s, root (s + 1) ^ 2 = root s) →
      (∀ s, root (s + 1) ^ 2 ^ s = -1) →
      (∀ level < exponent, toComplex (if inverse then conj (plan.stageTwiddles level)
        else plan.stageTwiddles level) = root (level + 1)) →
      complexValues (fftStages plan inverse (exchangeLoop plan.bitReverse data plan.n)
          plan.levels) p =
        if p < 2 ^ exponent then dft (root exponent) (2 ^ exponent) (complexValues data) p
        else complexValues data p := by
    intro root hSquare hHalf hRoots
    rw [hPlan.levels_eq, fftStages_spec hPlan.n_eq hSquare hHalf hRoots
      (fun q hq => (hPermuted q).trans (if_pos hq)) le_rfl]
    by_cases hInside : p < 2 ^ exponent
    · rw [if_pos hInside, if_pos hInside, Nat.sub_self, blocks, Nat.div_eq_of_lt hInside,
        Nat.mod_eq_of_lt hInside, reverse, pow_zero]
      simp only [one_mul, add_zero]
    · rw [if_neg hInside, if_neg hInside, hPermuted, if_neg hInside]
  have hSmall := hPlan.small
  cases inverse with
  | false =>
      have hForward := hDone (fun s => unitRoot (2 ^ s)) unitRoot_square unitRoot_half
        fun level hLevel => hPlan.twiddle hLevel
      exact hForward
  | true =>
      have hBackward := hDone (fun s => (unitRoot (2 ^ s))⁻¹)
        (fun s => by rw [inv_pow, unitRoot_square])
        (fun s => by rw [inv_pow, unitRoot_half, inv_neg_one])
        fun level hLevel => by
          rw [if_pos rfl, toComplex_conj, hPlan.twiddle hLevel, conj_unitRoot]
      rw [hPlan.n_eq] at hBackward
      rw [fftPow2Execute, if_pos rfl, complexValues, hPlan.n_eq]
      by_cases hInside : p < 2 ^ exponent
      · rw [if_pos hInside, if_pos hInside, if_pos rfl, toComplex_timesReal, ← complexValues,
          hBackward, if_pos hInside, ExactDouble.div_eq, ExactDouble.one_eq,
          doubleOfUint_eq (Nat.pow_lt_pow_right (by omega) hSmall)]
      · rw [if_neg hInside, if_neg hInside, ← complexValues, hBackward, if_neg hInside]

end Execution

end Oakfield
