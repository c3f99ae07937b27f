import Oakfield.Library.LocalFit
import Oakfield.Library.Run
import Oakfield.Operators.Savgol

/-! In exact arithmetic the Savitzky-Golay kernels differentiate polynomials exactly. -/
namespace Oakfield

open KernelIR Library Library.LocalFit Library.Run Finset Polynomial

variable {K : Type} [Field K] [LinearOrder K] [CDouble K] [ExactDouble K]

/-! ### Loops -/

theorem loopSum_eq (term : ℕ → Option K) (n : ℕ) :
    loopSum term n = ∑ k ∈ range n, (term k).getD 0 := by
  induction n with
  | zero => exact ExactDouble.zero_eq
  | succ n ih =>
      rw [loopSum, sum_range_succ, ih]
      cases term n with
      | none => exact (add_zero _).symm
      | some value => exact ExactDouble.add_eq _ _

theorem intOfUint_low {n : ℕ} (hFits : n < 2 ^ 31) : intOfUint n = n := by
  rw [intOfUint, BitVec.toInt_ofNat', Int.bmod_eq_of_le (by omega) (by omega)]

theorem intOfUint_high {n : ℕ} (hLow : 2 ^ 31 ≤ n) (hFits : n < 2 ^ 32) :
    intOfUint n = n - 2 ^ 32 := by
  rw [intOfUint, BitVec.toInt_ofNat', Int.bmod_def]
  omega

theorem sieveFactorial_eq [ExactPower K] {n : ℕ} (hFits : n < 2 ^ 64) :
    (sieveFactorial n : K) = n.factorial := by
  induction n with
  | zero => exact ExactDouble.one_eq.trans Nat.cast_one.symm
  | succ n ih =>
      cases n with
      | zero => exact ExactDouble.one_eq.trans Nat.cast_one.symm
      | succ n =>
          rw [sieveFactorial, ExactDouble.mul_eq, ih (by omega), doubleOfUint_eq hFits,
            Nat.factorial_succ (n + 1), Nat.cast_mul, mul_comm]

/-! ### Inversion -/

section Inversion

variable {n i : ℕ} {a start : ℕ → ℕ → K} {matrices matrices' : SieveMatrices K}

omit [Field K] [LinearOrder K] [ExactDouble K] in
/-- The pivot is an entry of the column, in the rows that are left. -/
theorem sievePivot_mem (hI : i < n) (a : ℕ → ℕ → K) :
    i ≤ (sievePivot n i a).2 ∧ (sievePivot n i a).2 < n ∧
      (sievePivot n i a).1 = a (sievePivot n i a).2 i := by
  have hStart : i ≤ (a i i, i).2 ∧ (a i i, i).2 < n ∧ (a i i, i).1 = a (a i i, i).2 i :=
    ⟨le_refl i, hI, rfl⟩
  unfold sievePivot
  generalize hRows : List.range' (i + 1) (n - (i + 1)) = rows
  have hWithin : ∀ r ∈ rows, i ≤ r ∧ r < n := by
    intro r hRow
    rw [← hRows, List.mem_range'_1] at hRow
    omega
  clear hRows
  generalize (a i i, i) = best at hStart
  induction rows generalizing best with
  | nil => exact hStart
  | cons r rows ih =>
      refine ih (fun r' hRow => hWithin r' (List.mem_cons_of_mem r hRow)) _ ?_
      dsimp only
      split_ifs
      · exact ⟨(hWithin r List.mem_cons_self).1, (hWithin r List.mem_cons_self).2, rfl⟩
      · exact hStart

theorem sieveScaleRow_eq (factor : K) :
    sieveScaleRow n i factor a = GaussJordan.scaleRow n i factor a := by
  funext r c
  rw [sieveScaleRow, GaussJordan.scaleRow, ExactDouble.mul_eq]

theorem sieveClearRows_eq (factor : ℕ → K) :
    sieveClearRows n i factor a = GaussJordan.clearRows n i factor a := by
  funext r c
  rw [sieveClearRows, GaussJordan.clearRows, ExactDouble.sub_eq, ExactDouble.mul_eq]

/-- What holds of the two matrices between the turns. -/
structure SieveReduced (n i : ℕ) (start : ℕ → ℕ → K) (matrices : SieveMatrices K) : Prop where
  tracks : GaussJordan.Tracks n start matrices.1 matrices.2
  unit : GaussJordan.UnitColumns n i matrices.1

theorem SieveReduced.turn [IsStrictOrderedRing K] [ExactPower K]
    (hReduced : SieveReduced n i start matrices) (hI : i < n)
    (hTurn : sieveInvertTurn n i matrices = some matrices') :
    SieveReduced n (i + 1) start matrices' := by
  obtain ⟨hLow, hRow, hEntry⟩ := sievePivot_mem hI matrices.1
  unfold sieveInvertTurn at hTurn
  dsimp only at hTurn
  split_ifs at hTurn with hSmall
  have hPivot : matrices.1 (sievePivot n i matrices.1).2 i ≠ 0 := by
    intro hZero
    refine hSmall ((ExactDouble.lt_iff _ _).mpr ?_)
    rw [hEntry, hZero, ExactPower.fabs_eq, abs_zero, ExactDouble.lit_eq, Int.cast_one, one_mul]
    exact zpow_pos (by norm_num) _
  obtain rfl := Option.some_inj.mp hTurn
  rw [ExactDouble.div_eq, ExactDouble.one_eq]
  simp only [sieveClearRows_eq, sieveScaleRow_eq]
  exact ⟨((hReduced.tracks.swapRows hI hRow).scaleRow _).clearRows hI _,
    hReduced.unit.next hI hLow hRow hPivot rfl rfl⟩

/-- Where the inversion succeeds its result is a left inverse. -/
theorem sieveInvertMatrix_spec [IsStrictOrderedRing K] [ExactPower K] {inv : ℕ → ℕ → K}
    (hInvert : sieveInvertMatrix n start = some inv) {r c : ℕ} (hRow : r < n) (hColumn : c < n) :
    ∑ t ∈ range n, inv r t * start t c = if r = c then 1 else 0 := by
  have hTurns : ∀ count ≤ n, ∀ matrices,
      sieveInvertTurns n (start, fun r c => if r = c then CDouble.one else CDouble.zero) count =
        some matrices → SieveReduced n count start matrices := by
    intro count hCount
    induction count with
    | zero =>
        rintro _ hDone
        obtain rfl := Option.some_inj.mp hDone
        refine ⟨?_, GaussJordan.unitColumns_zero start⟩
        rw [ExactDouble.one_eq, ExactDouble.zero_eq]
        exact GaussJordan.tracks_one start
    | succ count ih =>
        rintro matrices hDone
        obtain ⟨before, hBefore, hTurn⟩ := Option.bind_eq_some_iff.mp hDone
        exact (ih (by omega) before hBefore).turn (by omega) hTurn
  obtain ⟨matrices, hDone, rfl⟩ := Option.map_eq_some_iff.mp hInvert
  have hReduced := hTurns n (le_refl n) matrices hDone
  exact hReduced.tracks.leftInverse hReduced.unit hRow hColumn

end Inversion

/-! ### Kernels -/

section Kernels

variable [IsStrictOrderedRing K] [ExactPower K]
variable {taps order d : ℕ} {inv : ℕ → ℕ → K} {h : K} {kernel kernel' : ℕ → K}

omit [IsStrictOrderedRing K] in
theorem savgolNormal_eq {radius : ℤ} (hLow : -2 ^ 31 ≤ radius) (hHigh : radius < 2 ^ 31)
    {i j : ℕ} (hPowers : i + j < 2 ^ 64) :
    (savgolNormal radius i j : K) =
      ∑ k ∈ range (2 * radius + 1).toNat, ((k : K) - radius) ^ (i + j) := by
  rw [savgolNormal, loopSum_eq]
  refine sum_congr rfl fun k hk => ?_
  have hBelow := mem_range.mp hk
  rw [Option.getD_some, doubleOfInt_eq (by omega) (by omega), doubleOfUint_eq hPowers,
    ExactPower.pow_natCast]
  push_cast
  ring

omit [IsStrictOrderedRing K] in
theorem savgolRow_eq {radius : ℤ} {m k : ℕ} (hLow : -2 ^ 32 ≤ intOfUint k - radius)
    (hHigh : intOfUint k - radius < 2 ^ 32) (hSize : m < 2 ^ 32) (hDegree : d < 2 ^ 32) :
    savgolRow m d radius inv k =
      (∑ j ∈ range m, inv d j * ((intOfUint k - radius : ℤ) : K) ^ j) * d.factorial := by
  rw [savgolRow, loopSum_eq, ExactDouble.mul_eq, sieveFactorial_eq (by omega)]
  congr 1
  refine sum_congr rfl fun j hj => ?_
  have hBelow := mem_range.mp hj
  rw [Option.getD_some, ExactDouble.mul_eq, doubleOfInt_eq (by omega) (by omega),
    doubleOfUint_eq (by omega), ExactPower.pow_natCast]

/-- The offsets of the taps from the middle one. -/
def savgolNode (taps k : ℕ) : K := k - (taps / 2 : ℕ)

omit [IsStrictOrderedRing K] in
theorem savgolRow_moments_low (hTaps : taps < 2 ^ 31) (hOdd : taps % 2 = 1) (hDegree : d ≤ order)
    (hOrder : order + 1 < 2 ^ 32)
    (hInverse : ∀ r < order + 1, ∀ c < order + 1,
      ∑ t ∈ range (order + 1), inv r t * savgolNormal (savgolRadius taps) t c =
        if r = c then 1 else 0) :
    Moments (range taps) (savgolNode taps)
      (savgolRow (order + 1) d (savgolRadius taps) inv) order d d.factorial := by
  have hRadius : savgolRadius taps = (taps / 2 : ℕ) := by
    rw [savgolRadius, intOfUint_low hTaps, Int.tdiv_eq_ediv_of_nonneg (by omega)]
    omega
  rw [hRadius] at hInverse ⊢
  have hFit : Moments (range taps) (savgolNode taps)
      (fun k => ∑ j ∈ range (order + 1), inv d j * (savgolNode taps k : K) ^ j) order d 1 := by
    refine moments_of_inverse hDegree fun r hRow c hColumn => ?_
    rw [← hInverse r hRow c hColumn]
    refine sum_congr rfl fun t ht => ?_
    have hBelow := mem_range.mp ht
    rw [savgolNormal_eq (by omega) (by omega) (by omega),
      show (2 * ((taps / 2 : ℕ) : ℤ) + 1).toNat = taps by omega, Int.cast_natCast]
    rfl
  have hScaled := hFit.mul (d.factorial : K)
  rw [one_mul] at hScaled
  refine hScaled.congr fun k hk => ?_
  have hBelow := mem_range.mp hk
  have hInt := intOfUint_low (show k < 2 ^ 31 by omega)
  rw [savgolRow_eq (by omega) (by omega) hOrder (by omega), hInt]
  refine congrArg (· * (d.factorial : K)) (sum_congr rfl fun j _ => ?_)
  rw [savgolNode, Int.cast_sub, Int.cast_natCast, Int.cast_natCast]

omit [IsStrictOrderedRing K] in
/-- More taps than an `int` counts leave a radius that is not positive. Only the kernel of order
zero is built from it. -/
theorem savgolRow_moments_high (hLow : 2 ^ 31 ≤ taps) (hTaps : taps < 2 ^ 32)
    (hDegree : d ≤ order) (hOrder : order + 1 < 2 ^ 32)
    (hInverse : ∀ r < order + 1, ∀ c < order + 1,
      ∑ t ∈ range (order + 1), inv r t * savgolNormal (savgolRadius taps) t c =
        if r = c then 1 else 0) :
    d = 0 ∧ Moments (range taps) (savgolNode taps)
      (savgolRow (order + 1) d (savgolRadius taps) inv) order d taps := by
  have hRadius : -2 ^ 31 ≤ savgolRadius taps ∧ savgolRadius taps ≤ 0 := by
    rw [savgolRadius, intOfUint_high hLow hTaps, ← Int.neg_sub, Int.neg_tdiv,
      Int.tdiv_eq_ediv_of_nonneg (by omega)]
    omega
  have hNormal : ∀ i < order + 1, ∀ j < order + 1, (savgolNormal (savgolRadius taps) i j : K) =
      if savgolRadius taps = 0 ∧ i + j = 0 then 1 else 0 := by
    intro i hI j hJ
    rw [savgolNormal_eq (by omega) (by omega) (by omega)]
    rcases hRadius.2.lt_or_eq with hNegative | hZero
    · rw [show (2 * savgolRadius taps + 1).toNat = 0 by omega, if_neg (by omega)]
      rfl
    · rw [hZero, show (2 * (0 : ℤ) + 1).toNat = 1 by omega, sum_range_one, Nat.cast_zero,
        Int.cast_zero, sub_zero, zero_pow_eq]
      simp
  have hZero : savgolRadius taps = 0 := by
    by_contra hNegative
    have hRow := hInverse 0 (by omega) 0 (by omega)
    rw [sum_eq_zero fun t ht => by
      rw [hNormal t (mem_range.mp ht) 0 (by omega), if_neg (by tauto), mul_zero]] at hRow
    exact zero_ne_one (hRow.trans (if_pos rfl))
  have hConstant : order = 0 := by
    by_contra hPositive
    have hRow := hInverse 1 (by omega) 1 (by omega)
    rw [sum_eq_zero fun t ht => by
      rw [hNormal t (mem_range.mp ht) 1 (by omega), if_neg (by omega), mul_zero]] at hRow
    exact zero_ne_one (hRow.trans (if_pos rfl))
  subst hConstant
  obtain rfl : d = 0 := by omega
  have hEntry : inv 0 0 = 1 := by
    have hRow := hInverse 0 (by omega) 0 (by omega)
    rw [sum_range_one, hNormal 0 (by omega) 0 (by omega), if_pos ⟨hZero, rfl⟩, mul_one,
      if_pos rfl] at hRow
    exact hRow
  refine ⟨rfl, fun p hOrder => ?_⟩
  obtain rfl : p = 0 := by omega
  rw [if_pos rfl]
  have hOne : ∀ k ∈ range taps, savgolRow (0 + 1) 0 (savgolRadius taps) inv k *
      (savgolNode taps k : K) ^ 0 = 1 := by
    intro k hk
    have hInt : -2 ^ 31 ≤ intOfUint k ∧ intOfUint k < 2 ^ 31 := by
      rw [intOfUint]
      exact ⟨BitVec.le_toInt _, BitVec.toInt_lt⟩
    rw [savgolRow_eq (by omega) (by omega) (by omega) (by omega), sum_range_one, hEntry]
    simp
  rw [sum_congr rfl hOne, sum_const, card_range, nsmul_one]

/-- What is done to a kernel in the end makes its moment that of the derivative. -/
theorem savgolRescale_moments {scale : K} (hPowers : d < 2 ^ 64)
    (hMoments : Moments (range taps) (savgolNode taps) kernel order d scale)
    (hScale : if d = 0 then 1 ≤ scale else scale = d.factorial)
    (hRescale : savgolRescale taps d h kernel = (kernel', true)) :
    ∃ scale, Moments (range taps) (savgolNode taps) kernel' order d scale ∧
      (d = 0 → scale = 1) ∧ scale * h ^ d = d.factorial := by
  have hTimes : ∀ factor : K, Moments (range taps) (savgolNode taps)
      (fun k => if k < taps then CDouble.mul (kernel k) factor else kernel k) order d
      (scale * factor) := by
    intro factor
    refine (hMoments.mul factor).congr fun k hk => ?_
    rw [if_pos (mem_range.mp hk), ExactDouble.mul_eq]
  unfold savgolRescale at hRescale
  by_cases hZero : d = 0
  · subst hZero
    rw [if_pos rfl] at hRescale hScale
    dsimp only at hRescale
    have hSum : loopSum (fun k => some (kernel k)) taps = scale := by
      rw [loopSum_eq]
      have hFirst := hMoments 0 (Nat.zero_le order)
      rw [if_pos rfl] at hFirst
      rw [← hFirst]
      exact sum_congr rfl fun k _ => (mul_one _).symm.trans (by rw [Option.getD_some, pow_zero])
    have hLarge : CDouble.gt (CDouble.fabs scale) (CDouble.lit 1 (-12)) = true := by
      rw [CDouble.gt, ExactDouble.lt_iff, ExactPower.fabs_eq, ExactDouble.lit_eq, Int.cast_one,
        one_mul]
      exact (zpow_lt_one_of_neg₀ (by norm_num) (by omega)).trans_le (hScale.trans (le_abs_self scale))
    rw [hSum, if_pos hLarge] at hRescale
    obtain rfl := (Prod.mk.inj hRescale).1
    refine ⟨1, ?_, fun _ => rfl, by simp⟩
    have hOne := hTimes (CDouble.div CDouble.one scale)
    rw [ExactDouble.div_eq, ExactDouble.one_eq,
      mul_one_div_cancel (one_pos.trans_le hScale).ne'] at hOne
    rw [ExactDouble.div_eq, ExactDouble.one_eq]
    exact hOne
  · rw [if_neg hZero] at hRescale hScale
    rw [doubleOfUint_eq hPowers, ExactPower.pow_natCast] at hRescale
    dsimp only at hRescale
    split_ifs at hRescale with hSmall
    · exact absurd (Prod.mk.inj hRescale).2 Bool.false_ne_true
    · have hNonzero : h ^ d ≠ 0 := by
        intro hNone
        refine hSmall (Bool.or_eq_true_iff.mpr (.inr ?_))
        rw [ExactDouble.lt_iff, hNone, ExactPower.fabs_eq, abs_zero, ExactDouble.lit_eq,
          Int.cast_one, one_mul]
        exact zpow_pos (by norm_num) _
      obtain rfl := (Prod.mk.inj hRescale).1
      refine ⟨_, hTimes _, fun hNone => absurd hNone hZero, ?_⟩
      rw [hScale, ExactDouble.div_eq, ExactDouble.one_eq, one_div, inv_mul_cancel_right₀ hNonzero]

/-- The kernel of a successful build has the moments of the derivative. -/
theorem sieveBuildSavgol_moments {heap : Heap} {before : ℕ → K} (hTaps : taps < 2 ^ 32)
    (hOdd : taps % 2 = 1) (hOrder : order < taps)
    (hBuild : sieveBuildSavgol heap before taps order d h = some (kernel, true)) :
    ∃ scale, Moments (range taps) (savgolNode taps) kernel order d scale ∧
      (d = 0 → scale = 1) ∧ scale * h ^ d = d.factorial := by
  unfold sieveBuildSavgol at hBuild
  by_cases hHigh : order < d
  · rw [if_pos hHigh] at hBuild
    cases hBuild
  rw [if_neg hHigh] at hBuild
  dsimp only at hBuild
  split_ifs at hBuild with hGranted hWrapped
  · cases hBuild
  have hDegree : d ≤ order := by omega
  have hSize : order + 1 < 2 ^ 32 := by omega
  rw [Nat.mod_eq_of_lt hSize] at hBuild
  cases hInvert : sieveInvertMatrix (order + 1) (savgolNormal (savgolRadius taps) : ℕ → ℕ → K) with
  | none =>
      rw [hInvert] at hBuild
      cases hBuild
  | some inv =>
      rw [hInvert] at hBuild
      have hInverse := fun r hRow c hColumn =>
        @sieveInvertMatrix_spec _ _ _ _ _ _ _ _ _ _ hInvert r c hRow hColumn
      have hRows : ∃ scale, Moments (range taps) (savgolNode taps)
          (savgolRow (order + 1) d (savgolRadius taps) inv) order d scale ∧
            if d = 0 then 1 ≤ scale else scale = d.factorial := by
        by_cases hLow : taps < 2 ^ 31
        · refine ⟨_, savgolRow_moments_low hLow hOdd hDegree hSize hInverse, ?_⟩
          split_ifs with hZero
          · rw [hZero, Nat.factorial_zero, Nat.cast_one]
          · rfl
        · obtain ⟨hZero, hMoments⟩ :=
            savgolRow_moments_high (by omega) hTaps hDegree hSize hInverse
          refine ⟨_, hMoments, ?_⟩
          rw [if_pos hZero]
          exact Nat.one_le_cast.mpr (by omega)
      obtain ⟨scale, hMoments, hScale⟩ := hRows
      refine savgolRescale_moments (by omega) (hMoments.congr fun k hk => ?_) hScale
        (Option.some_inj.mp hBuild)
      rw [if_pos (mem_range.mp hk)]

/-- The correlation of the kernel with the samples of a polynomial of at most the order of the fit
is the derivative of the polynomial. -/
theorem sieveBuildSavgol_exact {heap : Heap} {before : ℕ → K} (hTaps : taps < 2 ^ 32)
    (hOdd : taps % 2 = 1) (hOrder : order < taps)
    (hBuild : sieveBuildSavgol heap before taps order d h = some (kernel, true)) (p : K[X])
    (hDegree : p.natDegree ≤ order) (x : K) :
    ∑ k ∈ range taps, kernel k * p.eval (x + (k - (taps / 2 : ℕ)) * h) =
      (derivative^[d] p).eval x := by
  obtain ⟨scale, hMoments, -, hScale⟩ := sieveBuildSavgol_moments hTaps hOdd hOrder hBuild
  exact hMoments.eval hScale hDegree x

/-- The second derivative on five taps, of a square. -/
theorem sieveBuildSavgol_exact_five :
    ∃ kernel : ℕ → ℚ,
      sieveBuildSavgol ⟨fun _ => true⟩ (fun _ => 0) 5 2 2 (1 / 2) = some (kernel, true) ∧
      ∑ k ∈ range 5, kernel k * (X ^ 2 : ℚ[X]).eval (3 + ((k : ℚ) - (5 / 2 : ℕ)) * (1 / 2)) =
        (derivative^[2] (X ^ 2 : ℚ[X])).eval 3 := by
  have hTrue : (sieveBuildSavgol ⟨fun _ => true⟩ (fun _ => (0 : ℚ)) 5 2 2 (1 / 2)).elim false
      Prod.snd = true := by decide +kernel
  cases hBuild : sieveBuildSavgol ⟨fun _ => true⟩ (fun _ => (0 : ℚ)) 5 2 2 (1 / 2) with
  | none =>
      rw [hBuild] at hTrue
      cases hTrue
  | some built =>
      rw [hBuild] at hTrue
      obtain ⟨kernel, done⟩ := built
      obtain rfl : done = true := hTrue
      refine ⟨kernel, rfl, sieveBuildSavgol_exact (by decide) (by decide) (by decide) hBuild _
        (natDegree_X_pow 2).le 3⟩

end Kernels

end Oakfield
