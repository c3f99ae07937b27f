import Mathlib.Algebra.BigOperators.Ring.Finset
import Mathlib.Algebra.Order.BigOperators.Group.Finset
import Mathlib.Tactic.Linarith
import Oakfield.Field.FluxLens
import Oakfield.KernelIR.ExactDouble
import Oakfield.Library.Shells

/-! Sums over shells in the arrays and the marks of the flux lens, in exact arithmetic. -/
namespace Oakfield

open Library Library.Shells Finset

variable {K : Type} [Field K] [LinearOrder K] [CDouble K]

/-- Conversions of integers, absolute values, and the rounding of integers, are exact. -/
structure ExactConversions (llround : K → BitVec 64) : Prop where
  ofI64 (x : BitVec 64) : (CDouble.ofI64 x : K) = x.toInt
  ofU64 (x : BitVec 64) : (CDouble.ofU64 x : K) = x.toNat
  fabs (a : K) : CDouble.fabs a = |a|
  round (k : ℕ) (hWord : k < 2 ^ 63) : llround (k : K) = BitVec.ofNat 64 k

/-! ### The cumulative flux -/

section Cumulative

variable [ExactDouble K]

/-- One round adds a shell to the running sum and stores it at the places of the shell. -/
theorem fluxLensCumulativeStep_shell {n m : ℕ} (hLength : 0 < n) (hPlace : m ≤ n / 2)
    (S : ℕ → K) (state : K × (ℕ → K)) :
    (fluxLensCumulativeStep S n state m).1 = state.1 + shellSum n S m ∧
      ∀ i < n, (fluxLensCumulativeStep S n state m).2 i =
        if shell n i = m then state.1 + shellSum n S m else state.2 i := by
  rw [shellSum_eq hLength hPlace]
  dsimp only [fluxLensCumulativeStep]
  by_cases hAlone : m = 0 ∨ n % 2 = 0 ∧ m = n / 2
  · have hFlag : (!(decide (m = 0) || (decide (n % 2 = 0) && decide (m = n / 2)))) = false := by
      simp only [Bool.not_eq_false', Bool.or_eq_true, Bool.and_eq_true, decide_eq_true_eq]
      exact hAlone
    rw [if_pos hAlone, hFlag]
    simp only [Bool.false_eq_true, ↓reduceIte, ExactDouble.add_eq, true_and]
    intro i hI
    by_cases hSame : i = m
    · rw [hSame, Function.update_self, if_pos (shell_of_le hPlace)]
    · have hOther : shell n i ≠ m := by
        rw [shell, wavenumber]
        split <;> omega
      rw [Function.update_of_ne hSame, if_neg hOther]
  · have hFlag : (!(decide (m = 0) || (decide (n % 2 = 0) && decide (m = n / 2)))) = true := by
      simp only [Bool.not_eq_true', Bool.or_eq_false_iff, Bool.and_eq_false_iff,
        decide_eq_false_iff_not]
      omega
    rw [if_neg hAlone, hFlag]
    simp only [↓reduceIte, ExactDouble.add_eq, add_assoc, true_and]
    intro i hI
    by_cases hMirror : i = n - m
    · have hShell : shell n (n - m) = m := shell_sub hPlace (fun hBoth => hAlone (.inr hBoth))
      rw [hMirror, Function.update_self, if_pos hShell]
    · rw [Function.update_of_ne hMirror]
      by_cases hSame : i = m
      · rw [hSame, Function.update_self, if_pos (shell_of_le hPlace)]
      · have hOther : shell n i ≠ m := by
          rw [shell, wavenumber]
          split <;> omega
        rw [Function.update_of_ne hSame, if_neg hOther]

/-- The rounds up to a shell leave the sums up to each shell below it at its places. -/
theorem fluxLensCumulative_rounds {n : ℕ} (hLength : 0 < n) (S Pi : ℕ → K) {m : ℕ}
    (hRounds : m ≤ n / 2 + 1) :
    ((List.range m).foldl (fluxLensCumulativeStep S n) (CDouble.zero, Pi)).1 =
        ∑ j ∈ range m, shellSum n S j ∧
      ∀ i < n, shell n i < m →
        ((List.range m).foldl (fluxLensCumulativeStep S n) (CDouble.zero, Pi)).2 i =
          within n S (shell n i) := by
  induction m with
  | zero => exact ⟨ExactDouble.zero_eq, fun i _ hShell => absurd hShell (Nat.not_lt_zero _)⟩
  | succ m ih =>
      obtain ⟨hSum, hFlux⟩ := ih (by omega)
      rw [List.range_succ, List.foldl_append, List.foldl_cons, List.foldl_nil]
      generalize (List.range m).foldl (fluxLensCumulativeStep S n) (CDouble.zero, Pi) = state
        at hSum hFlux ⊢
      obtain ⟨hNext, hStored⟩ := fluxLensCumulativeStep_shell hLength
        (show m ≤ n / 2 by omega) S state
      rw [sum_range_succ, ← hSum]
      refine ⟨hNext, fun i hI hShell => ?_⟩
      rw [hStored i hI]
      by_cases hSame : shell n i = m
      · rw [if_pos hSame, hSame, within_eq_sum, sum_range_succ, ← hSum]
      · rw [if_neg hSame]
        exact hFlux i hI (by omega)

theorem fluxLensCumulative_eq {n i : ℕ} (S Pi : ℕ → K) (hPlace : i < n) :
    fluxLensCumulative S Pi n i = within n S (shell n i) := by
  have hShell := shell_le hPlace
  rw [fluxLensCumulative, if_neg (by omega)]
  exact (fluxLensCumulative_rounds (by omega) S Pi (Nat.le_refl _)).2 i hPlace (by omega)

end Cumulative

/-! ### The buckets -/

variable [IsStrictOrderedRing K] {llround : K → BitVec 64} {n : ℕ}

theorem fabs_fluxLensFrequencyBin (hExact : ExactConversions llround) (hArray : n * 8 < 2 ^ 64)
    {i : ℕ} (hPlace : i < n) :
    CDouble.fabs (fluxLensFrequencyBin i n : K) = (shell n i : K) := by
  have hSigned : (BitVec.ofInt 64 (wavenumber n i)).toInt = wavenumber n i := by
    apply BitVec.toInt_ofInt_eq_self (by omega)
    · rw [wavenumber]
      split <;> omega
    · rw [wavenumber]
      split <;> omega
  have hBin : (fluxLensFrequencyBin i n : K) = wavenumber n i := by
    rw [fluxLensFrequencyBin, hExact.ofI64]
    exact congrArg _ hSigned
  rw [hExact.fabs, hBin, shell, Nat.cast_natAbs, Int.cast_abs]

variable [ExactDouble K]

/-- Every place of the spectrum finds the bucket of its shell by rounding. -/
theorem fluxLensBucketOf_eq (hExact : ExactConversions llround) (hArray : n * 8 < 2 ^ 64)
    (bucketK : ℕ → K) {i : ℕ} (hPlace : i < n) :
    fluxLensBucketOf llround bucketK (n / 2 + 1) n i = some (shell n i) := by
  have hShell := shell_le hPlace
  have hIdx : (BitVec.ofNat 64 (shell n i)).toNat = shell n i := by
    rw [BitVec.toNat_ofNat, Nat.mod_eq_of_lt (by omega)]
  have hTol : (0 : K) ≤ CDouble.lit 1 (-6) := by
    rw [ExactDouble.lit_eq, Int.cast_one, one_mul]
    positivity
  have hNear : ¬ CDouble.gt (CDouble.fabs (CDouble.sub (shell n i : K)
      (CDouble.ofU64 (BitVec.ofNat 64 (shell n i))))) (CDouble.lit 1 (-6)) = true := by
    rw [hExact.ofU64, hIdx, CDouble.gt, ExactDouble.lt_iff, ExactDouble.sub_eq, sub_self,
      hExact.fabs, abs_zero]
    exact not_lt.mpr hTol
  rw [fluxLensBucketOf]
  simp only [fabs_fluxLensFrequencyBin hExact hArray hPlace,
    hExact.round _ (by omega : shell n i < 2 ^ 63), hIdx]
  rw [if_neg (not_or.mpr ⟨by omega, hNear⟩)]

/-- The buckets after so many places of the spectrum. -/
structure FluxBuckets.Collected (n : ℕ) (S flux : ℕ → K) (m : ℕ) (buckets : FluxBuckets K) :
    Prop where
  work (k : ℕ) (hShell : k ≤ n / 2) : buckets.S k = ∑ i ∈ range m, if shell n i = k then S i else 0
  absWork (k : ℕ) (hShell : k ≤ n / 2) :
    buckets.absS k = ∑ i ∈ range m, if shell n i = k then |S i| else 0
  pi (k : ℕ) (hShell : k ≤ n / 2) (hSeen : k < m) : buckets.pi k = flux k

theorem FluxBuckets.Collected.step (hExact : ExactConversions llround) (hArray : n * 8 < 2 ^ 64)
    {S Pi flux bucketK : ℕ → K} {m : ℕ} {buckets : FluxBuckets K}
    (hCollected : buckets.Collected n S flux m) (hPlace : m < n) (hFlux : Pi m = flux (shell n m)) :
    (fluxLensBucketStep llround bucketK (n / 2 + 1) n S Pi buckets m).Collected n S flux
      (m + 1) := by
  rw [fluxLensBucketStep, fluxLensBucketOf_eq hExact hArray bucketK hPlace]
  constructor
  case work =>
    intro k hShell
    dsimp only
    rw [sum_range_succ, ← hCollected.work k hShell, Function.update_apply, ExactDouble.add_eq]
    by_cases hSame : k = shell n m
    · rw [if_pos hSame, if_pos hSame.symm, hSame]
    · rw [if_neg hSame, if_neg (Ne.symm hSame), add_zero]
  case absWork =>
    intro k hShell
    dsimp only
    rw [sum_range_succ, ← hCollected.absWork k hShell, Function.update_apply, ExactDouble.add_eq,
      hExact.fabs]
    by_cases hSame : k = shell n m
    · rw [if_pos hSame, if_pos hSame.symm, hSame]
    · rw [if_neg hSame, if_neg (Ne.symm hSame), add_zero]
  case pi =>
    intro k hShell hSeen
    dsimp only
    rw [Function.update_apply]
    by_cases hSame : k = shell n m
    · rw [if_pos hSame, hFlux, hSame]
    · have hOld : k ≠ m := by
        intro hNow
        rw [hNow] at hShell hSame
        exact hSame (shell_of_le hShell).symm
      rw [if_neg hSame]
      exact hCollected.pi k hShell (by omega)

theorem FluxBuckets.Collected.foldl (hExact : ExactConversions llround) (hArray : n * 8 < 2 ^ 64)
    (bucketK : ℕ → K) {S Pi flux : ℕ → K} {buckets : FluxBuckets K}
      (hStart : buckets.Collected n S flux 0)
    (hFlux : ∀ i < n, Pi i = flux (shell n i)) {m : ℕ} (hPlaces : m ≤ n) :
    ((List.range m).foldl (fluxLensBucketStep llround bucketK (n / 2 + 1) n S Pi)
      buckets).Collected n S flux m := by
  induction m with
  | zero => exact hStart
  | succ m ih =>
      rw [List.range_succ, List.foldl_append]
      exact (ih (by omega)).step hExact hArray (by omega) (hFlux m (by omega))

/-! ### The marks -/

omit [IsStrictOrderedRing K] in
theorem fluxLensScan_absSTotal (buckets : FluxBuckets K) {scan : FluxScan K}
    (hStart : scan.absSTotal = 0) (m : ℕ) :
    ((List.range m).foldl (fluxLensScanStep buckets) scan).absSTotal =
      ∑ k ∈ range m, buckets.absS k := by
  induction m with
  | zero => exact hStart
  | succ m ih =>
      rw [List.range_succ, List.foldl_append, sum_range_succ, ← ih, List.foldl_cons, List.foldl_nil]
      exact ExactDouble.add_eq _ _

omit [IsStrictOrderedRing K] in
/-- The search from a bucket on, where the running work is still below the second target:
it stops at the first bucket which reaches it, and has met the first target by then. -/
theorem fluxLensTargets_spec (bucketK absS : ℕ → K) {target50 target90 : K} {count : ℕ}
    (hTargets : target50 ≤ target90) (hReached : target90 ≤ ∑ k ∈ range count, absS k)
    (rest a : ℕ) (hRest : a + rest = count) {k50 : Option K}
    (hBelow : ∑ k ∈ range a, absS k < target90)
    (hFirst : k50 = none ∨
      ∃ c < a, k50 = some (bucketK c) ∧ target50 ≤ ∑ k ∈ range (c + 1), absS k) :
    ∃ c b, c ≤ b ∧ b < count ∧
      fluxLensTargets bucketK absS target50 target90 (List.range' a rest)
        (∑ k ∈ range a, absS k) k50 = (some (bucketK c), some (bucketK b)) ∧
      target50 ≤ ∑ k ∈ range (c + 1), absS k ∧ target90 ≤ ∑ k ∈ range (b + 1), absS k := by
  induction rest generalizing a k50 with
  | zero =>
      rw [Nat.add_zero] at hRest
      rw [hRest] at hBelow
      exact absurd hReached (not_le.mpr hBelow)
  | succ rest ih =>
      rw [List.range'_succ, fluxLensTargets, ExactDouble.add_eq, ← sum_range_succ]
      have hNext : ((if k50.isNone && CDouble.ge (∑ k ∈ range (a + 1), absS k) target50 then
            some (bucketK a) else k50) = none ∧ ∑ k ∈ range (a + 1), absS k < target50) ∨
          ∃ c < a + 1, (if k50.isNone && CDouble.ge (∑ k ∈ range (a + 1), absS k) target50 then
            some (bucketK a) else k50) = some (bucketK c) ∧
              target50 ≤ ∑ k ∈ range (c + 1), absS k := by
        rcases hFirst with rfl | ⟨c, hC, rfl, hWork⟩
        · by_cases hFifty : target50 ≤ ∑ k ∈ range (a + 1), absS k
          · refine .inr ⟨a, Nat.lt_succ_self a, if_pos ?_, hFifty⟩
            rw [Option.isNone_none, Bool.true_and, CDouble.ge, ExactDouble.le_iff]
            exact hFifty
          · refine .inl ⟨if_neg ?_, not_le.mp hFifty⟩
            rw [Option.isNone_none, Bool.true_and, CDouble.ge, ExactDouble.le_iff]
            exact hFifty
        · exact .inr ⟨c, Nat.lt_succ_of_lt hC, rfl, hWork⟩
      generalize (if k50.isNone && CDouble.ge (∑ k ∈ range (a + 1), absS k) target50 then
        some (bucketK a) else k50) = next at hNext ⊢
      by_cases hNinety : target90 ≤ ∑ k ∈ range (a + 1), absS k
      · rw [if_pos (by rw [CDouble.ge, ExactDouble.le_iff]; exact hNinety)]
        rcases hNext with ⟨-, hShort⟩ | ⟨c, hC, rfl, hWork⟩
        · exact absurd (lt_of_le_of_lt hTargets (lt_of_le_of_lt hNinety hShort)) (lt_irrefl _)
        · exact ⟨c, a, Nat.lt_succ_iff.mp hC, by omega, rfl, hWork, hNinety⟩
      · rw [if_neg (by rw [CDouble.ge, ExactDouble.le_iff]; exact hNinety)]
        refine ih (a + 1) (by omega) (not_le.mp hNinety) ?_
        rcases hNext with ⟨hNone, -⟩ | hSome
        · exact .inl hNone
        · exact .inr hSome

/-! ### Clamping -/

/-- Whatever the band was, the clamped one lies in `[0, maxK]` and is as wide as can be asked. -/
theorem fluxLensClampBand_bounds (lo hi : K) {minWidth maxK : K} (hWidth : 0 ≤ minWidth)
    (hMax : 0 ≤ maxK) :
    0 ≤ (fluxLensClampBand lo hi minWidth maxK).1 ∧
      (fluxLensClampBand lo hi minWidth maxK).1 ≤ (fluxLensClampBand lo hi minWidth maxK).2 ∧
      (fluxLensClampBand lo hi minWidth maxK).2 ≤ maxK ∧
      min minWidth maxK ≤
        (fluxLensClampBand lo hi minWidth maxK).2 - (fluxLensClampBand lo hi minWidth maxK).1 := by
  have hLow : ∃ bandLo, (if CDouble.lt lo CDouble.zero then CDouble.zero else lo) = bandLo ∧
      0 ≤ bandLo := by
    refine ⟨_, rfl, ?_⟩
    simp only [ExactDouble.lt_iff, ExactDouble.zero_eq]
    split <;> linarith
  have hHigh : ∃ bandHi, (if CDouble.gt hi maxK then maxK else hi) = bandHi ∧ bandHi ≤ maxK := by
    refine ⟨_, rfl, ?_⟩
    simp only [CDouble.gt, ExactDouble.lt_iff]
    split <;> linarith
  obtain ⟨bandLo, hLo, hLoNonneg⟩ := hLow
  obtain ⟨bandHi, hHi, hHiBound⟩ := hHigh
  rw [fluxLensClampBand, hLo, hHi]
  have hMin := min_le_left minWidth maxK
  have hMinMax := min_le_right minWidth maxK
  simp only [CDouble.gt, ExactDouble.lt_iff, ExactDouble.sub_eq, ExactDouble.add_eq,
    ExactDouble.mul_eq, ExactDouble.half_eq, ExactDouble.zero_eq]
  by_cases hNarrow : bandHi - bandLo < minWidth
  · rw [if_pos hNarrow]
    generalize 1 / 2 * (bandLo + bandHi) = center
    by_cases hLeft : center - 1 / 2 * minWidth < 0
    · rw [if_pos hLeft]
      dsimp only
      by_cases hRight : maxK < center + 1 / 2 * minWidth - (center - 1 / 2 * minWidth)
      · rw [if_pos hRight, if_pos (by linarith)]
        exact ⟨le_refl _, hMax, le_refl _, by linarith⟩
      · rw [if_neg hRight]
        exact ⟨le_refl _, by linarith, by linarith, by linarith⟩
    · rw [if_neg hLeft]
      dsimp only
      by_cases hRight : maxK < center + 1 / 2 * minWidth
      · rw [if_pos hRight]
        by_cases hOver : center - 1 / 2 * minWidth - (center + 1 / 2 * minWidth - maxK) < 0
        · rw [if_pos hOver]
          exact ⟨le_refl _, hMax, le_refl _, by linarith⟩
        · rw [if_neg hOver]
          exact ⟨by linarith, by linarith, le_refl _, by linarith⟩
      · rw [if_neg hRight]
        exact ⟨by linarith, by linarith, by linarith, by linarith⟩
  · rw [if_neg hNarrow]
    exact ⟨hLoNonneg, by linarith, hHiBound, by linarith⟩

/-! ### Bookkeeping -/

/-- What the buckets and the marks say of a spectrum: each place is in the bucket of its shell,
the flux of a bucket is the sum of the buckets up to it, and the marks bound half and nine
tenths of the absolute work. -/
structure FluxLensState.Accounts (n : ℕ) (S : ℕ → K) (lens : FluxLensState K) : Prop where
  valid : lens.marks.valid = true
  count : lens.bucketCount = n / 2 + 1
  buckets : ∃ bucketS bucketPi, lens.bucketS = some bucketS ∧ lens.bucketPi = some bucketPi ∧
    (∀ k ≤ n / 2, bucketS k = ∑ i ∈ range n with shell n i = k, S i) ∧
    (∀ k ≤ n / 2, bucketPi k = ∑ j ∈ range (k + 1), bucketS j) ∧
    ∑ k ∈ range (n / 2 + 1), bucketS k = ∑ i ∈ range n, S i
  k50_le : lens.marks.k50 ≤ lens.marks.k90
  k90_le : lens.marks.k90 ≤ lens.marks.kmax
  kmax : lens.marks.kmax = (n / 2 : ℕ)
  half : 1 / 2 * ∑ i ∈ range n, |S i| ≤
    ∑ i ∈ range n with ((shell n i : ℕ) : K) ≤ lens.marks.k50, |S i|
  ninety : 9 / 10 * ∑ i ∈ range n, |S i| ≤
    ∑ i ∈ range n with ((shell n i : ℕ) : K) ≤ lens.marks.k90, |S i|

omit [CDouble K] [ExactDouble K] in
theorem sum_shell_le (n : ℕ) (S : ℕ → K) (k : ℕ) :
    ∑ i ∈ range n with ((shell n i : ℕ) : K) ≤ (k : K), S i = within n S k := by
  simp only [Nat.cast_le, within]

omit [CDouble K] [IsStrictOrderedRing K] [ExactDouble K] in
theorem FluxBuckets.Collected.sum_absWork {S flux : ℕ → K} {buckets : FluxBuckets K}
    (hCollected : buckets.Collected n S flux n) {k : ℕ} (hShell : k ≤ n / 2) :
    ∑ j ∈ range (k + 1), buckets.absS j = within n (fun i => |S i|) k := by
  rw [within_eq_sum]
  refine sum_congr rfl fun j hJ => ?_
  rw [mem_range] at hJ
  rw [hCollected.absWork j (by omega), shellSum, sum_filter]

/-- The marks of collected buckets: where the running work first reaches its targets. -/
theorem fluxLens_marks {S flux : ℕ → K} {buckets : FluxBuckets K}
    (hCollected : buckets.Collected n S flux n) (bucketK : ℕ → K)
    (hBucketK : ∀ k ≤ n / 2, bucketK k = k) {total : K}
    (hTotal : total = ∑ i ∈ range n, |S i|) :
    ∃ c b, c ≤ b ∧ b ≤ n / 2 ∧ 1 / 2 * total ≤ within n (fun i => |S i|) c ∧
      9 / 10 * total ≤ within n (fun i => |S i|) b ∧
      (if CDouble.gt total CDouble.zero then
        ((fluxLensTargets bucketK buckets.absS (CDouble.mul CDouble.half total)
            (CDouble.mul (CDouble.lit 9 (-1)) total) (List.range (n / 2 + 1)) CDouble.zero
            none).1.getD (bucketK (n / 2)),
          (fluxLensTargets bucketK buckets.absS (CDouble.mul CDouble.half total)
            (CDouble.mul (CDouble.lit 9 (-1)) total) (List.range (n / 2 + 1)) CDouble.zero
            none).2.getD (bucketK (n / 2)))
      else (CDouble.zero, CDouble.zero)) = ((c : K), (b : K)) := by
  have hAll : ∑ k ∈ range (n / 2 + 1), buckets.absS k = total := by
    rw [hCollected.sum_absWork (Nat.le_refl _), within_last, hTotal]
  by_cases hPos : 0 < total
  · have hNine : (CDouble.lit 9 (-1) : K) = 9 / 10 := by
      rw [ExactDouble.lit_eq, zpow_neg_one]
      norm_num
    rw [if_pos (by rw [CDouble.gt, ExactDouble.lt_iff, ExactDouble.zero_eq]; exact hPos),
      ExactDouble.mul_eq, ExactDouble.mul_eq, ExactDouble.half_eq, hNine, ExactDouble.zero_eq,
      List.range_eq_range']
    obtain ⟨c, b, hOrder, hBelow, hRun, hFifty, hNinety⟩ :=
      @fluxLensTargets_spec K _ _ _ _ bucketK buckets.absS (1 / 2 * total) (9 / 10 * total)
        (n / 2 + 1) (by linarith) (by rw [hAll]; linarith) (n / 2 + 1) 0 (Nat.zero_add _) none
        (by rw [sum_range_zero]; linarith) (.inl rfl)
    rw [sum_range_zero] at hRun
    rw [hRun]
    refine ⟨c, b, hOrder, by omega, ?_, ?_, ?_⟩
    · rwa [← hCollected.sum_absWork (show c ≤ n / 2 by omega)]
    · rwa [← hCollected.sum_absWork (show b ≤ n / 2 by omega)]
    · rw [Option.getD_some, Option.getD_some, hBucketK c (by omega), hBucketK b (by omega)]
  · have hNonneg : 0 ≤ ∑ i ∈ range n, |S i| := sum_nonneg fun i _ => abs_nonneg _
    have hZero : total = 0 := by linarith
    have hWithin : 0 ≤ within n (fun i => |S i|) 0 := sum_nonneg fun i _ => abs_nonneg _
    rw [if_neg (by rw [CDouble.gt, ExactDouble.lt_iff, ExactDouble.zero_eq]; exact hPos),
      ExactDouble.zero_eq]
    refine ⟨0, 0, Nat.le_refl _, Nat.zero_le _, ?_, ?_, ?_⟩
    · rwa [hZero, mul_zero]
    · rwa [hZero, mul_zero]
    · rw [Nat.cast_zero]

theorem fluxLensAfterFlux_accounts (hExact : ExactConversions llround) (hLength : 0 < n)
    (hArray : n * 8 < 2 ^ 64) {S Pi bucketK bucketS bucketAbsS bucketPi : ℕ → K}
    (hFlux : ∀ i < n, Pi i = within n S (shell n i)) {lens : FluxLensState K}
    (hCapacity : lens.bandCapacity = n) (hS : lens.S = some S) (hPi : lens.Pi = some Pi)
    (hBucketK : lens.bucketK = some bucketK) (hBucketS : lens.bucketS = some bucketS)
    (hBucketAbsS : lens.bucketAbsS = some bucketAbsS) (hBucketPi : lens.bucketPi = some bucketPi)
    (hBuckets : n / 2 + 1 ≤ lens.bucketCapacity) :
    (fluxLensAfterFlux llround lens).Accounts n S := by
  rw [fluxLensAfterFlux, hS, hPi, hBucketK, hBucketS, hBucketAbsS, hBucketPi, hCapacity]
  dsimp only
  rw [if_neg (by omega), if_neg (by omega)]
  have hStart : FluxBuckets.Collected n S (within n S) 0
      (FluxBuckets.mk (fun i => if i < n / 2 + 1 then CDouble.zero else bucketS i)
        (fun i => if i < n / 2 + 1 then CDouble.zero else bucketAbsS i)
        (fun i => if i < n / 2 + 1 then CDouble.zero else bucketPi i)) := by
    constructor
    case work =>
      intro k hShell
      rw [sum_range_zero]
      exact (if_pos (Nat.lt_succ_of_le hShell)).trans ExactDouble.zero_eq
    case absWork =>
      intro k hShell
      rw [sum_range_zero]
      exact (if_pos (Nat.lt_succ_of_le hShell)).trans ExactDouble.zero_eq
    case pi => exact fun k _ hSeen => absurd hSeen (Nat.not_lt_zero k)
  have hCollected := hStart.foldl hExact hArray (fun i =>
    if i < n / 2 + 1 then CDouble.ofU64 (BitVec.ofNat 64 i) else bucketK i) hFlux (Nat.le_refl n)
  generalize (List.range n).foldl (fluxLensBucketStep llround _ (n / 2 + 1) n S Pi) _ = buckets
    at hCollected ⊢
  have hTotal := @fluxLensScan_absSTotal K _ _ _ _ buckets
    ⟨CDouble.zero, CDouble.zero, CDouble.zero, CDouble.neg CDouble.one, 0, false⟩
    ExactDouble.zero_eq (n / 2 + 1)
  generalize (List.range (n / 2 + 1)).foldl (fluxLensScanStep buckets) _ = scan at hTotal ⊢
  rw [hCollected.sum_absWork (Nat.le_refl _), within_last] at hTotal
  have hShells : ∀ k ≤ n / 2, (if k < n / 2 + 1 then CDouble.ofU64 (BitVec.ofNat 64 k) else
      bucketK k) = (k : K) := by
    intro k hShell
    rw [if_pos (by omega), hExact.ofU64, BitVec.toNat_ofNat, Nat.mod_eq_of_lt (by omega)]
  obtain ⟨c, b, hOrder, hBelow, hFifty, hNinety, hMarks⟩ := fluxLens_marks hCollected _
    hShells hTotal
  simp only [Nat.add_sub_cancel]
  rw [hMarks, hShells _ (Nat.le_refl _)]
  have hWork : ∀ k ≤ n / 2, buckets.S k = shellSum n S k := by
    intro k hShell
    rw [hCollected.work k hShell, shellSum, sum_filter]
  constructor
  case valid => exact decide_eq_true (Nat.succ_pos (n / 2))
  case count => rfl
  case buckets =>
    refine ⟨_, _, rfl, rfl, hWork, fun k hShell => ?_, ?_⟩
    · rw [hCollected.pi k hShell (by omega), within_eq_sum]
      exact sum_congr rfl fun j hJ => (hWork j (by rw [mem_range] at hJ; omega)).symm
    · rw [← within_last n S, within_eq_sum]
      exact sum_congr rfl fun j hJ => hWork j (by rw [mem_range] at hJ; omega)
  case k50_le => exact Nat.cast_le.mpr hOrder
  case k90_le => exact Nat.cast_le.mpr hBelow
  case kmax => rfl
  case half =>
    rw [sum_shell_le n (fun i => |S i|), ← hTotal]
    exact hFifty
  case ninety =>
    rw [sum_shell_le n (fun i => |S i|), ← hTotal]
    exact hNinety

/-- For a spectrum of any length the flux at a place is the work up to its wavenumber, the
buckets and the marks account for the work, and every band is clamped into the spectrum. -/
theorem fluxLens_bookkeeping (hExact : ExactConversions llround) (hLength : 0 < n)
    (hArray : n * 8 < 2 ^ 64) (S Pi : ℕ → K) :
    (∀ i < n, fluxLensCumulative S Pi n i =
      ∑ j ∈ range n with shell n j ≤ shell n i, S j) ∧
    fluxLensCumulative S Pi n (n / 2) = ∑ j ∈ range n, S j ∧
    (∀ lens : FluxLensState K, lens.bandCapacity = n → lens.S = some S →
      lens.Pi = some (fluxLensCumulative S Pi n) → lens.bucketK.isSome → lens.bucketS.isSome →
      lens.bucketAbsS.isSome → lens.bucketPi.isSome → n / 2 + 1 ≤ lens.bucketCapacity →
      (fluxLensAfterFlux llround lens).Accounts n S) ∧
    ∀ lo hi minWidth maxK : K, 0 ≤ minWidth → 0 ≤ maxK →
      0 ≤ (fluxLensClampBand lo hi minWidth maxK).1 ∧
        (fluxLensClampBand lo hi minWidth maxK).1 ≤ (fluxLensClampBand lo hi minWidth maxK).2 ∧
        (fluxLensClampBand lo hi minWidth maxK).2 ≤ maxK ∧
        min minWidth maxK ≤ (fluxLensClampBand lo hi minWidth maxK).2 -
          (fluxLensClampBand lo hi minWidth maxK).1 := by
  refine ⟨fun i hPlace => fluxLensCumulative_eq S Pi hPlace, ?_, ?_, fun lo hi minWidth maxK =>
    fluxLensClampBand_bounds lo hi⟩
  · rw [fluxLensCumulative_eq S Pi (by omega), shell_of_le (Nat.le_refl _), within_last]
  · intro lens hCapacity hS hPi hBucketK hBucketS hBucketAbsS hBucketPi hBuckets
    obtain ⟨bucketK, hBucketK⟩ := Option.isSome_iff_exists.mp hBucketK
    obtain ⟨bucketS, hBucketS⟩ := Option.isSome_iff_exists.mp hBucketS
    obtain ⟨bucketAbsS, hBucketAbsS⟩ := Option.isSome_iff_exists.mp hBucketAbsS
    obtain ⟨bucketPi, hBucketPi⟩ := Option.isSome_iff_exists.mp hBucketPi
    exact fluxLensAfterFlux_accounts hExact hLength hArray
      (fun i hPlace => fluxLensCumulative_eq S Pi hPlace) hCapacity hS hPi hBucketK hBucketS
      hBucketAbsS hBucketPi hBuckets

/-- Rounding half away from zero, for what is not negative. -/
def llroundRat (a : ℚ) : BitVec 64 := BitVec.ofInt 64 ⌊a + 1 / 2⌋

theorem fluxLens_bookkeeping_three :
    fluxLensCumulative (fun i => (i : ℚ) - 3) (fun _ => 0) 3 1 =
      ∑ j ∈ range 3 with shell 3 j ≤ shell 3 1, ((j : ℚ) - 3) := by
  have hExact : ExactConversions llroundRat := by
    refine ⟨fun _ => rfl, fun _ => rfl, fun _ => rfl, fun k _ => ?_⟩
    have hFloor : ⌊(k : ℚ) + 1 / 2⌋ = k := by
      rw [Int.floor_eq_iff]
      push_cast
      constructor <;> linarith
    rw [llroundRat, hFloor, BitVec.ofInt_natCast]
  exact (fluxLens_bookkeeping hExact (show 0 < 3 by decide) (by decide) _ _).1 1 (by decide)

end Oakfield
