import Oakfield.KernelIR.Evaluator
import Oakfield.Library.Pairing
import Mathlib.Data.List.Range
import Mathlib.Data.Rat.Defs
import Mathlib.Algebra.Order.Ring.Rat
import Mathlib.Tactic.Linarith
import Mathlib.Tactic.Ring

/-! Hermitian symmetry of spectra: its error, and the pass which restores it in place.
The arithmetic is exact. -/
namespace Oakfield.GraphIR

open KernelIR Library.Pairing

/-! ### The passes of the source -/

/-- `conj`. -/
def conj (z : SimComplexDouble ℚ) : SimComplexDouble ℚ := ⟨z.re, -z.im⟩

/-- `CMPLX(creal(z), 0.0)`. -/
def realPart (z : SimComplexDouble ℚ) : SimComplexDouble ℚ := ⟨z.re, 0⟩

/-- `0.5 * (a + conj(b))`. -/
def average (a b : SimComplexDouble ℚ) : SimComplexDouble ℚ :=
  ⟨1 / 2 * (a.re + (conj b).re), 1 / 2 * (a.im + (conj b).im)⟩

/-- `if (err > max_err) max_err = err;` -/
def keepMax (maxErr err : ℚ) : ℚ := if maxErr < err then err else maxErr

/-- The two comparisons made for a pair of values. -/
def pairError (maxErr : ℚ) (value partner : SimComplexDouble ℚ) : ℚ :=
  keepMax (keepMax maxErr |partner.re - (conj value).re|) |partner.im - (conj value).im|

/-- `sim_graph_ir_hermitian_error_1d`. -/
def hermitianError1d (data : ℕ → SimComplexDouble ℚ) (n : ℕ) : ℚ :=
  if n = 0 then 0
  else
    let maxErr := |(data 0).im|
    let maxErr := if n % 2 = 0 then keepMax maxErr |(data (n / 2)).im| else maxErr
    if n > 1 then
      (List.range' 1 ((n - 1) / 2)).foldl
        (fun maxErr k => pairError maxErr (data k) (data (n - k))) maxErr
    else maxErr

/-- `(y == 0U) ? 0U : (rows - y)`. -/
def conjIndex (n k : ℕ) : ℕ := if k = 0 then 0 else n - k

/-- `sim_graph_ir_hermitian_error_2d`. -/
def hermitianError2d (data : ℕ → SimComplexDouble ℚ) (rows cols : ℕ) : ℚ :=
  if rows = 0 ∨ cols = 0 then 0
  else
    (List.range rows).foldl (fun maxErr y =>
      (List.range cols).foldl (fun maxErr x =>
        let idx := y * cols + x
        let idxConj := conjIndex rows y * cols + conjIndex cols x
        if idxConj = idx then keepMax maxErr |(data idx).im|
        else if idxConj > idx then pairError maxErr (data idx) (data idxConj)
        else maxErr) maxErr) 0

/-- `sim_graph_ir_canonicalize_hermitian_1d`. -/
def canonicalizeHermitian1d (data : ℕ → SimComplexDouble ℚ) (n : ℕ) :
    ℕ → SimComplexDouble ℚ :=
  if n = 0 then data
  else
    let data :=
      if n > 1 then
        (List.range' 1 ((n - 1) / 2)).foldl (fun data k =>
          let nk := n - k
          let avg := average (data k) (data nk)
          Function.update (Function.update data k avg) nk (conj avg)) data
      else data
    let data := Function.update data 0 (realPart (data 0))
    if n % 2 = 0 then
      let k := n / 2
      Function.update data k (realPart (data k))
    else data

/-- `sim_graph_ir_canonicalize_hermitian_2d`. -/
def canonicalizeHermitian2d (data : ℕ → SimComplexDouble ℚ) (rows cols : ℕ) :
    ℕ → SimComplexDouble ℚ :=
  if rows = 0 ∨ cols = 0 then data
  else
    (List.range rows).foldl (fun data y =>
      (List.range cols).foldl (fun data x =>
        let idx := y * cols + x
        let idxConj := conjIndex rows y * cols + conjIndex cols x
        if idxConj = idx then Function.update data idx (realPart (data idx))
        else if idxConj > idx then
          let avg := average (data idx) (data idxConj)
          Function.update (Function.update data idx avg) idxConj (conj avg)
        else data) data) data

/-! ### What symmetry is -/

/-- The first `count` values agree with the conjugates of their partners. -/
def Hermitian (partner : ℕ → ℕ) (count : ℕ) (data : ℕ → SimComplexDouble ℚ) : Prop :=
  ∀ k < count, data (partner k) = conj (data k)

/-- The average of a value and the one which its partner asks for. -/
def symmetrized (partner : ℕ → ℕ) (data : ℕ → SimComplexDouble ℚ) (k : ℕ) :
    SimComplexDouble ℚ :=
  average (data k) (data (partner k))

/-- Partners in a plane stored row by row. -/
def conjIndex2d (rows cols idx : ℕ) : ℕ :=
  conjIndex rows (idx / cols) * cols + conjIndex cols (idx % cols)

def hermitianCombination : Combination (SimComplexDouble ℚ) where
  settle := realPart
  join := average
  mirror := conj

theorem eq_conj_iff (a b : SimComplexDouble ℚ) : a = conj b ↔ a.re = b.re ∧ a.im = -b.im := by
  cases a
  cases b
  simp [conj]

theorem average_self (a : SimComplexDouble ℚ) : average a a = realPart a := by
  simp only [average, conj, realPart, SimComplexDouble.mk.injEq]
  constructor <;> ring

theorem conj_average (a b : SimComplexDouble ℚ) : conj (average a b) = average b a := by
  simp only [average, conj, SimComplexDouble.mk.injEq]
  constructor <;> ring

/-- Combining pairs averages both of their values. -/
theorem combined_eq (partner : ℕ → ℕ) (data : ℕ → SimComplexDouble ℚ) (k : ℕ) :
    combined partner hermitianCombination data k = symmetrized partner data k := by
  unfold combined symmetrized hermitianCombination
  split_ifs with hSelf hLess
  · rw [hSelf, average_self]
  · rfl
  · exact conj_average _ _

/-- Averaged values are symmetric. -/
theorem symmetrized_hermitian {partner : ℕ → ℕ} {count : ℕ}
    (hPairs : PairsOn partner (Set.Iio count))
    (data : ℕ → SimComplexDouble ℚ) : Hermitian partner count (symmetrized partner data) := by
  intro k hK
  rw [symmetrized, symmetrized, (hPairs k hK).2, conj_average]

theorem symmetrized_of_hermitian {partner : ℕ → ℕ} {count : ℕ} {data : ℕ → SimComplexDouble ℚ}
    (hData : Hermitian partner count data) {k : ℕ} (hK : k < count) :
    symmetrized partner data k = data k := by
  rw [symmetrized, hData k hK]
  cases data k
  simp only [average, conj, SimComplexDouble.mk.injEq]
  constructor <;> ring

/-! ### The passes visit every pair once -/

theorem conjIndex_pairsOn (n : ℕ) : PairsOn (conjIndex n) (Set.Iio n) := by
  intro k hK
  rw [Set.mem_Iio] at hK ⊢
  unfold conjIndex
  split_ifs <;> omega

theorem conjIndex2d_address {rows cols x y : ℕ} (hX : x < cols) :
    conjIndex2d rows cols (y * cols + x) = conjIndex rows y * cols + conjIndex cols x := by
  rw [conjIndex2d, Nat.mul_comm y, Nat.mul_add_div (by omega), Nat.div_eq_of_lt hX, Nat.add_zero,
    Nat.mul_add_mod, Nat.mod_eq_of_lt hX]

theorem conjIndex2d_lt {rows cols idx : ℕ} (hIdx : idx < rows * cols) :
    conjIndex2d rows cols idx < rows * cols := by
  have hCols : 0 < cols := Nat.pos_of_ne_zero fun hZero => by simp [hZero] at hIdx
  have hRow : conjIndex rows (idx / cols) < rows :=
    (conjIndex_pairsOn rows _ (Nat.div_lt_of_lt_mul (Nat.mul_comm rows cols ▸ hIdx))).1
  have hColumn : conjIndex cols (idx % cols) < cols :=
    (conjIndex_pairsOn cols _ (Nat.mod_lt idx hCols)).1
  calc conjIndex2d rows cols idx < conjIndex rows (idx / cols) * cols + cols :=
        Nat.add_lt_add_left hColumn _
    _ = (conjIndex rows (idx / cols) + 1) * cols := by ring
    _ ≤ rows * cols := Nat.mul_le_mul_right cols hRow

theorem conjIndex2d_pairsOn (rows cols : ℕ) :
    PairsOn (conjIndex2d rows cols) (Set.Iio (rows * cols)) := by
  intro idx hIdx
  have hCols : 0 < cols := Nat.pos_of_ne_zero fun hZero => by simp [hZero] at hIdx
  have hRow := conjIndex_pairsOn rows _
    (Set.mem_Iio.mpr (Nat.div_lt_of_lt_mul (Nat.mul_comm rows cols ▸ Set.mem_Iio.mp hIdx)))
  have hColumn := conjIndex_pairsOn cols _ (Set.mem_Iio.mpr (Nat.mod_lt idx hCols))
  refine ⟨conjIndex2d_lt hIdx, ?_⟩
  have hDiv : conjIndex2d rows cols idx / cols = conjIndex rows (idx / cols) := by
    rw [conjIndex2d, Nat.mul_comm, Nat.mul_add_div hCols, Nat.div_eq_of_lt hColumn.1, Nat.add_zero]
  have hMod : conjIndex2d rows cols idx % cols = conjIndex cols (idx % cols) := by
    rw [conjIndex2d, Nat.mul_comm, Nat.mul_add_mod, Nat.mod_eq_of_lt hColumn.1]
  rw [conjIndex2d, hDiv, hMod, hRow.2, hColumn.2, Nat.div_add_mod']

/-- The loops over rows and columns visit the positions in order. -/
theorem foldl_rows {S : Type} (body : S → ℕ → S) (rows cols : ℕ) (s : S) :
    (List.range rows).foldl
        (fun s y => (List.range cols).foldl (fun s x => body s (y * cols + x)) s) s =
      (List.range (rows * cols)).foldl body s := by
  induction rows with
  | zero => simp
  | succ rows ih =>
      rw [List.range_succ, List.foldl_append, ih, Nat.succ_mul, List.range_add, List.foldl_append,
        List.foldl_cons, List.foldl_nil, List.foldl_map]

/-- The positions which the pass over one axis visits. -/
def order1d (n : ℕ) : List ℕ :=
  List.range' 1 ((n - 1) / 2) ++ 0 :: if n % 2 = 0 then [n / 2] else []

theorem mem_order1d {n : ℕ} (hPos : n ≠ 0) (k : ℕ) :
    k ∈ order1d n ↔ k < n ∧ k ≤ conjIndex n k := by
  unfold order1d conjIndex
  rw [List.mem_append, List.mem_range'_1, List.mem_cons]
  split_ifs with hEven hZero hZero
  · simp only [List.mem_cons, List.not_mem_nil, or_false]
    omega
  · simp only [List.mem_cons, List.not_mem_nil, or_false]
    omega
  · simp only [List.not_mem_nil, or_false]
    omega
  · simp only [List.not_mem_nil, or_false]
    omega

theorem order1d_nodup {n : ℕ} (hPos : n ≠ 0) : (order1d n).Nodup := by
  unfold order1d
  rw [List.nodup_append']
  refine ⟨List.nodup_range', ?_, ?_⟩
  · split_ifs with hEven
    · simp only [List.nodup_cons, List.mem_singleton, List.not_mem_nil, not_false_eq_true,
        List.nodup_nil, and_self, and_true]
      omega
    · exact List.nodup_singleton 0
  · intro k hPair hReal
    rw [List.mem_range'_1] at hPair
    rw [List.mem_cons] at hReal
    split_ifs at hReal with hEven
    · rw [List.mem_singleton] at hReal
      omega
    · rw [or_iff_left List.not_mem_nil] at hReal
      omega

theorem canonicalizeHermitian1d_eq {n : ℕ} (hPos : n ≠ 0) (data : ℕ → SimComplexDouble ℚ) :
    canonicalizeHermitian1d data n =
      (order1d n).foldl (visit (conjIndex n) hermitianCombination) data := by
  have hPairs : (if n > 1 then
        (List.range' 1 ((n - 1) / 2)).foldl (fun data k =>
          Function.update (Function.update data k (average (data k) (data (n - k)))) (n - k)
            (conj (average (data k) (data (n - k))))) data
      else data) =
      (List.range' 1 ((n - 1) / 2)).foldl (visit (conjIndex n) hermitianCombination) data := by
    split_ifs with hOne
    · apply List.foldl_ext
      intro data k hK
      rw [List.mem_range'_1] at hK
      have hPartner : conjIndex n k = n - k := if_neg (by omega)
      rw [visit, hPartner, if_neg (by omega), if_pos (by omega)]
      rfl
    · rw [show (n - 1) / 2 = 0 by omega]
      rfl
  have hZero (data : ℕ → SimComplexDouble ℚ) : visit (conjIndex n) hermitianCombination data 0 =
      Function.update data 0 (realPart (data 0)) := rfl
  have hMiddle (hEven : n % 2 = 0) (data : ℕ → SimComplexDouble ℚ) :
      visit (conjIndex n) hermitianCombination data (n / 2) =
        Function.update data (n / 2) (realPart (data (n / 2))) := by
    have hPartner : conjIndex n (n / 2) = n / 2 := by
      unfold conjIndex
      split_ifs <;> omega
    rw [visit, if_pos hPartner]
    rfl
  rw [canonicalizeHermitian1d, if_neg hPos, order1d, List.foldl_append, List.foldl_cons, hZero,
    ← hPairs]
  split_ifs with hOne hEven
  all_goals first
    | rfl
    | rw [List.foldl_cons, List.foldl_nil, hMiddle ‹_›]

/-- The pass over one axis averages the first `n` values and leaves all others alone. -/
theorem canonicalizeHermitian1d_apply (data : ℕ → SimComplexDouble ℚ) (n k : ℕ) :
    canonicalizeHermitian1d data n k =
      if k < n then symmetrized (conjIndex n) data k else data k := by
  by_cases hPos : n = 0
  · subst hPos
    rfl
  · have hItems : ∀ i ∈ order1d n, i ∈ Set.Iio n := fun i hI => ((mem_order1d hPos i).mp hI).1
    rw [canonicalizeHermitian1d_eq hPos]
    split_ifs with hK
    · have hPairs := conjIndex_pairsOn n k hK
      rw [foldl_visit_apply (conjIndex_pairsOn n) (order1d_nodup hPos) hItems data hK, if_pos,
        combined_eq]
      rw [mem_order1d hPos]
      rcases min_choice k (conjIndex n k) with hLeft | hRight
      · rw [hLeft]
        exact ⟨hK, min_eq_left_iff.mp hLeft⟩
      · rw [hRight, hPairs.2]
        exact ⟨hPairs.1, min_eq_right_iff.mp hRight⟩
    · exact foldl_visit_outside (conjIndex_pairsOn n) hItems data hK

theorem canonicalizeHermitian2d_eq {rows cols : ℕ} (hPos : ¬(rows = 0 ∨ cols = 0))
    (data : ℕ → SimComplexDouble ℚ) :
    canonicalizeHermitian2d data rows cols =
      (List.range (rows * cols)).foldl (visit
      (conjIndex2d rows cols) hermitianCombination) data := by
  rw [canonicalizeHermitian2d, if_neg hPos, ← foldl_rows]
  apply List.foldl_ext
  intro data y hY
  apply List.foldl_ext
  intro data x hX
  rw [visit, conjIndex2d_address (List.mem_range.mp hX)]
  rfl

/-- The pass over a plane averages its values and leaves all others alone. -/
theorem canonicalizeHermitian2d_apply (data : ℕ → SimComplexDouble ℚ) (rows cols k : ℕ) :
    canonicalizeHermitian2d data rows cols k =
      if k < rows * cols then symmetrized (conjIndex2d rows cols) data k else data k := by
  by_cases hPos : rows = 0 ∨ cols = 0
  · rw [canonicalizeHermitian2d, if_pos hPos, if_neg]
    rw [Nat.mul_eq_zero.mpr hPos]
    exact Nat.not_lt_zero k
  · have hItems : ∀ i ∈ List.range (rows * cols), i ∈ Set.Iio (rows * cols) :=
      fun i hI => List.mem_range.mp hI
    rw [canonicalizeHermitian2d_eq hPos]
    split_ifs with hK
    · have hPartner := (conjIndex2d_pairsOn rows cols k hK).1
      rw [foldl_visit_apply (conjIndex2d_pairsOn rows cols) List.nodup_range hItems data hK, if_pos,
        combined_eq]
      rw [List.mem_range]
      exact lt_of_le_of_lt (min_le_left _ _) hK
    · exact foldl_visit_outside (conjIndex2d_pairsOn rows cols) hItems data hK

/-! ### The error is zero exactly on symmetric data -/

theorem keepMax_nonneg {maxErr err : ℚ} (hMax : 0 ≤ maxErr) : 0 ≤ keepMax maxErr err := by
  unfold keepMax
  split_ifs with hLess
  · exact hMax.trans hLess.le
  · exact hMax

theorem keepMax_eq_zero_iff {maxErr : ℚ} (hMax : 0 ≤ maxErr) (err : ℚ) :
    keepMax maxErr |err| = 0 ↔ maxErr = 0 ∧ err = 0 := by
  unfold keepMax
  split_ifs with hLess
  · constructor
    · intro hZero
      exact absurd (hZero ▸ hLess) hMax.not_gt
    · rintro ⟨hZero, rfl⟩
      exact abs_zero
  · constructor
    · intro hZero
      exact ⟨hZero, abs_nonpos_iff.mp (hZero ▸ not_lt.mp hLess)⟩
    · exact And.left

theorem pairError_eq_zero_iff {maxErr : ℚ} (hMax : 0 ≤ maxErr)
    (value partner : SimComplexDouble ℚ) :
    pairError maxErr value partner = 0 ↔ maxErr = 0 ∧ partner = conj value := by
  rw [pairError, keepMax_eq_zero_iff (keepMax_nonneg hMax), keepMax_eq_zero_iff hMax, sub_eq_zero,
    sub_eq_zero, and_assoc]
  cases partner
  simp [conj]

/-- What one position adds to the error. -/
def visitError (partner : ℕ → ℕ) (data : ℕ → SimComplexDouble ℚ) (maxErr : ℚ) (k : ℕ) : ℚ :=
  if partner k = k then keepMax maxErr |(data k).im|
  else if k < partner k then pairError maxErr (data k) (data (partner k))
  else maxErr

theorem visitError_nonneg {partner : ℕ → ℕ} {data : ℕ → SimComplexDouble ℚ} {maxErr : ℚ}
    (hMax : 0 ≤ maxErr) (k : ℕ) : 0 ≤ visitError partner data maxErr k := by
  unfold visitError
  split_ifs
  · exact keepMax_nonneg hMax
  · exact keepMax_nonneg (keepMax_nonneg hMax)
  · exact hMax

theorem visitError_eq_zero_iff {partner : ℕ → ℕ} {data : ℕ → SimComplexDouble ℚ} {maxErr : ℚ}
    (hMax : 0 ≤ maxErr) (k : ℕ) :
    visitError partner data maxErr k = 0 ↔
      maxErr = 0 ∧ (k ≤ partner k → data (partner k) = conj (data k)) := by
  unfold visitError
  split_ifs with hSelf hLess
  · rw [keepMax_eq_zero_iff hMax, hSelf, eq_conj_iff, self_eq_neg]
    simp
  · rw [pairError_eq_zero_iff hMax]
    simp [hLess.le]
  · have hNot : ¬k ≤ partner k := by omega
    simp [hNot]

theorem foldl_visitError_eq_zero_iff {partner : ℕ → ℕ} {data : ℕ → SimComplexDouble ℚ}
    (items : List ℕ) {maxErr : ℚ} (hMax : 0 ≤ maxErr) :
    items.foldl (visitError partner data) maxErr = 0 ↔
      maxErr = 0 ∧ ∀ k ∈ items, k ≤ partner k → data (partner k) = conj (data k) := by
  induction items generalizing maxErr with
  | nil => simp
  | cons k items ih =>
      rw [List.foldl_cons, ih (visitError_nonneg hMax k), visitError_eq_zero_iff hMax, and_assoc,
        List.forall_mem_cons]

/-- Symmetry need only be checked at the smaller position of each pair. -/
theorem hermitian_iff {partner : ℕ → ℕ} {count : ℕ} (hPairs : PairsOn partner (Set.Iio count))
    (data : ℕ → SimComplexDouble ℚ) :
    Hermitian partner count data ↔
      ∀ k < count, k ≤ partner k → data (partner k) = conj (data k) := by
  constructor
  · intro hData k hK _
    exact hData k hK
  · intro hSmaller k hK
    obtain ⟨hPartner, hBack⟩ := hPairs k hK
    rcases le_total k (partner k) with hLe | hGe
    · exact hSmaller k hK hLe
    · have hPair := hSmaller (partner k) hPartner (by rwa [hBack])
      rw [hBack, eq_conj_iff] at hPair
      rw [eq_conj_iff]
      exact ⟨hPair.1.symm, by rw [hPair.2, neg_neg]⟩

theorem hermitianError1d_eq {n : ℕ} (hPos : n ≠ 0) (data : ℕ → SimComplexDouble ℚ) :
    hermitianError1d data n =
      (0 :: ((if n % 2 = 0 then [n / 2] else []) ++ List.range' 1 ((n - 1) / 2))).foldl
        (visitError (conjIndex n) data) 0 := by
  have hPairs (maxErr : ℚ) : (if n > 1 then
        (List.range' 1 ((n - 1) / 2)).foldl
          (fun maxErr k => pairError maxErr (data k) (data (n - k))) maxErr
      else maxErr) = (List.range' 1 ((n - 1) / 2)).foldl
        (visitError (conjIndex n) data) maxErr := by
    split_ifs with hOne
    · apply List.foldl_ext
      intro maxErr k hK
      rw [List.mem_range'_1] at hK
      have hPartner : conjIndex n k = n - k := if_neg (by omega)
      rw [visitError, hPartner, if_neg (by omega), if_pos (by omega)]
    · rw [show (n - 1) / 2 = 0 by omega]
      rfl
  have hZero : visitError (conjIndex n) data 0 0 = |(data 0).im| := by
    rw [visitError, if_pos (by rfl), keepMax]
    split_ifs with hLess
    · rfl
    · exact le_antisymm (abs_nonneg _) (not_lt.mp hLess)
  rw [hermitianError1d, if_neg hPos, List.foldl_cons, hZero, List.foldl_append, hPairs]
  split_ifs with hEven
  · have hPartner : conjIndex n (n / 2) = n / 2 := by
      unfold conjIndex
      split_ifs <;> omega
    rw [List.foldl_cons, List.foldl_nil, visitError, if_pos hPartner]
  · rfl

/-- The error over one axis is zero exactly when the data are Hermitian. -/
theorem hermitianError1d_eq_zero_iff (data : ℕ → SimComplexDouble ℚ) (n : ℕ) :
    hermitianError1d data n = 0 ↔ Hermitian (conjIndex n) n data := by
  by_cases hPos : n = 0
  · subst hPos
    exact ⟨fun _ k hK => absurd hK (Nat.not_lt_zero k), fun _ => rfl⟩
  · have hMem (k : ℕ) : k ∈ 0 :: ((if n % 2 = 0 then [n / 2] else []) ++
        List.range' 1 ((n - 1) / 2)) ↔ k < n ∧ k ≤ conjIndex n k := by
      rw [← mem_order1d hPos, order1d, List.mem_append, List.mem_cons, List.mem_cons,
        List.mem_append]
      tauto
    rw [hermitianError1d_eq hPos, foldl_visitError_eq_zero_iff _ le_rfl,
      hermitian_iff (conjIndex_pairsOn n)]
    simp only [hMem, true_and]
    exact ⟨fun hAll k hK hLe => hAll k ⟨hK, hLe⟩ hLe, fun hAll k hK => hAll k hK.1⟩

/-- The error over a plane is zero exactly when the data are Hermitian. -/
theorem hermitianError2d_eq_zero_iff (data : ℕ → SimComplexDouble ℚ) (rows cols : ℕ) :
    hermitianError2d data rows cols = 0 ↔
      Hermitian (conjIndex2d rows cols) (rows * cols) data := by
  by_cases hPos : rows = 0 ∨ cols = 0
  · rw [hermitianError2d, if_pos hPos, Nat.mul_eq_zero.mpr hPos]
    exact ⟨fun _ k hK => absurd hK (Nat.not_lt_zero k), fun _ => rfl⟩
  · have hVisits : hermitianError2d data rows cols =
        (List.range (rows * cols)).foldl (visitError (conjIndex2d rows cols) data) 0 := by
      rw [hermitianError2d, if_neg hPos, ← foldl_rows]
      apply List.foldl_ext
      intro maxErr y hY
      apply List.foldl_ext
      intro maxErr x hX
      rw [visitError, conjIndex2d_address (List.mem_range.mp hX)]
    rw [hVisits, foldl_visitError_eq_zero_iff _ le_rfl,
      hermitian_iff (conjIndex2d_pairsOn rows cols)]
    simp only [List.mem_range, true_and]

/-! ### Canonicalisation -/

/-- What follows for a pass which averages every pair: its result is symmetric, and it
changes no symmetric data. -/
theorem canonical_of_apply {partner : ℕ → ℕ} {count : ℕ} (hPairs : PairsOn partner (Set.Iio count))
    {canonicalize : (ℕ → SimComplexDouble ℚ) → ℕ → SimComplexDouble ℚ}
    (hApply : ∀ data k, canonicalize data k =
      if k < count then symmetrized partner data k else data k) (data : ℕ → SimComplexDouble ℚ) :
    Hermitian partner count (canonicalize data) ∧
      (Hermitian partner count data → canonicalize data = data) ∧
        canonicalize (canonicalize data) = canonicalize data := by
  have hHermitian : Hermitian partner count (canonicalize data) := by
    intro k hK
    rw [hApply, hApply, if_pos hK, if_pos (Set.mem_Iio.mp (hPairs k hK).1)]
    exact symmetrized_hermitian hPairs data k hK
  have hFixed (data : ℕ → SimComplexDouble ℚ) (hData : Hermitian partner count data) :
      canonicalize data = data := by
    funext k
    rw [hApply]
    split_ifs with hK
    · exact symmetrized_of_hermitian hData hK
    · rfl
  exact ⟨hHermitian, hFixed data, hFixed _ hHermitian⟩

/-- Canonicalisation of a line or a plane leaves no error, changes no data without one,
replaces every value by the average of the two which the symmetry asks for, and treats a
plane with one row or one column as a line. -/
theorem canonicalizeHermitian_spec (data : ℕ → SimComplexDouble ℚ) :
    (∀ n,
      hermitianError1d (canonicalizeHermitian1d data n) n = 0 ∧
      (hermitianError1d data n = 0 → canonicalizeHermitian1d data n = data) ∧
      canonicalizeHermitian1d (canonicalizeHermitian1d data n) n = canonicalizeHermitian1d data n ∧
      ∀ k, canonicalizeHermitian1d data n k =
        if k < n then average (data k) (data (conjIndex n k)) else data k) ∧
    (∀ rows cols,
      hermitianError2d (canonicalizeHermitian2d data rows cols) rows cols = 0 ∧
      (hermitianError2d data rows cols = 0 → canonicalizeHermitian2d data rows cols = data) ∧
      canonicalizeHermitian2d (canonicalizeHermitian2d data rows cols) rows cols =
        canonicalizeHermitian2d data rows cols ∧
      ∀ k, canonicalizeHermitian2d data rows cols k =
        if k < rows * cols then
          average (data k)
            (data (conjIndex rows (k / cols) * cols + conjIndex cols (k % cols)))
        else data k) ∧
    ∀ n, canonicalizeHermitian2d data 1 n = canonicalizeHermitian1d data n ∧
      canonicalizeHermitian2d data n 1 = canonicalizeHermitian1d data n := by
  refine ⟨fun n => ?_, fun rows cols => ?_, fun n => ⟨?_, ?_⟩⟩
  · obtain ⟨hHermitian, hFixed, hTwice⟩ := canonical_of_apply (conjIndex_pairsOn n)
      (fun data k => canonicalizeHermitian1d_apply data n k) data
    rw [hermitianError1d_eq_zero_iff, hermitianError1d_eq_zero_iff]
    exact ⟨hHermitian, hFixed, hTwice, canonicalizeHermitian1d_apply data n⟩
  · obtain ⟨hHermitian, hFixed, hTwice⟩ := canonical_of_apply (conjIndex2d_pairsOn rows cols)
      (fun data k => canonicalizeHermitian2d_apply data rows cols k) data
    rw [hermitianError2d_eq_zero_iff, hermitianError2d_eq_zero_iff]
    exact ⟨hHermitian, hFixed, hTwice, canonicalizeHermitian2d_apply data rows cols⟩
  · funext k
    rw [canonicalizeHermitian2d_apply, canonicalizeHermitian1d_apply, Nat.one_mul]
    split_ifs with hK
    · rw [symmetrized, symmetrized, conjIndex2d, Nat.div_eq_of_lt hK, Nat.mod_eq_of_lt hK,
        conjIndex, if_pos rfl, Nat.zero_mul, Nat.zero_add]
    · rfl
  · funext k
    rw [canonicalizeHermitian2d_apply, canonicalizeHermitian1d_apply, Nat.mul_one]
    split_ifs with hK
    · rw [symmetrized, symmetrized, conjIndex2d, Nat.div_one, Nat.mod_one, Nat.mul_one,
        conjIndex.eq_def 1, if_pos rfl, Nat.add_zero]
    · rfl

end Oakfield.GraphIR
