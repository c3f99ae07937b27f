import Mathlib.Algebra.BigOperators.Ring.Finset
import Mathlib.Algebra.Field.Basic
import Mathlib.Tactic.Ring

/-! Gauss-Jordan elimination on two square arrays at once: the steps on the rows keep the product
with the array at the start, and a turn completes a column. -/
namespace Library.GaussJordan

open Finset

/-- Two rows exchanged. -/
def swapRows {α : Type*} (size i p : ℕ) (a : ℕ → ℕ → α) (r c : ℕ) : α :=
  if c < size then a (if r = i then p else if r = p then i else r) c else a r c

variable {K : Type*} [Field K] {size i p : ℕ} {start a inv : ℕ → ℕ → K}

/-- A row multiplied by a factor. -/
def scaleRow (size i : ℕ) (factor : K) (a : ℕ → ℕ → K) (r c : ℕ) : K :=
  if r = i ∧ c < size then a r c * factor else a r c

/-- Multiples of a row taken off all the others. -/
def clearRows (size i : ℕ) (factor : ℕ → K) (a : ℕ → ℕ → K) (r c : ℕ) : K :=
  if r ≠ i ∧ r < size ∧ c < size then a r c - factor r * a i c else a r c

/-! ### The product with the array at the start -/

/-- The second array, multiplied by the array at the start, is the first array. -/
def Tracks (size : ℕ) (start a inv : ℕ → ℕ → K) : Prop :=
  ∀ r < size, ∀ c < size, ∑ t ∈ range size, inv r t * start t c = a r c

theorem tracks_one (start : ℕ → ℕ → K) :
    Tracks size start start fun r c => if r = c then 1 else 0 := by
  intro r hRow c _
  dsimp only
  rw [sum_eq_single_of_mem r (mem_range.mpr hRow)]
  · rw [if_pos rfl, one_mul]
  · intro t _ hOther
    rw [if_neg (Ne.symm hOther), zero_mul]

theorem Tracks.swapRows (hTracks : Tracks size start a inv) (hI : i < size) (hP : p < size) :
    Tracks size start (swapRows size i p a) (swapRows size i p inv) := by
  intro r hRow c hColumn
  have hSource : (if r = i then p else if r = p then i else r) < size := by
    split_ifs <;> assumption
  have hSum := hTracks _ hSource c hColumn
  rw [GaussJordan.swapRows, if_pos hColumn, ← hSum]
  refine sum_congr rfl fun t ht => ?_
  rw [GaussJordan.swapRows, if_pos (mem_range.mp ht)]

theorem Tracks.scaleRow (hTracks : Tracks size start a inv) (factor : K) :
    Tracks size start (scaleRow size i factor a) (scaleRow size i factor inv) := by
  intro r hRow c hColumn
  by_cases hHere : r = i
  · rw [GaussJordan.scaleRow, if_pos ⟨hHere, hColumn⟩, ← hTracks r hRow c hColumn, sum_mul]
    refine sum_congr rfl fun t ht => ?_
    rw [GaussJordan.scaleRow, if_pos ⟨hHere, mem_range.mp ht⟩]
    ring
  · rw [GaussJordan.scaleRow, if_neg fun hBoth => hHere hBoth.1, ← hTracks r hRow c hColumn]
    refine sum_congr rfl fun t _ => ?_
    rw [GaussJordan.scaleRow, if_neg fun hBoth => hHere hBoth.1]

theorem Tracks.clearRows (hTracks : Tracks size start a inv) (hI : i < size) (factor : ℕ → K) :
    Tracks size start (clearRows size i factor a) (clearRows size i factor inv) := by
  intro r hRow c hColumn
  by_cases hHere : r = i
  · rw [GaussJordan.clearRows, if_neg fun hAll => hAll.1 hHere, ← hTracks r hRow c hColumn]
    refine sum_congr rfl fun t _ => ?_
    rw [GaussJordan.clearRows, if_neg fun hAll => hAll.1 hHere]
  · rw [GaussJordan.clearRows, if_pos ⟨hHere, hRow, hColumn⟩, ← hTracks r hRow c hColumn,
      ← hTracks i hI c hColumn, mul_sum, ← sum_sub_distrib]
    refine sum_congr rfl fun t ht => ?_
    rw [GaussJordan.clearRows, if_pos ⟨hHere, hRow, mem_range.mp ht⟩]
    ring

/-! ### The columns which are done -/

/-- The first columns are those of the unit array. -/
def UnitColumns (size i : ℕ) (a : ℕ → ℕ → K) : Prop :=
  ∀ r < size, ∀ c < i, a r c = if r = c then 1 else 0

theorem unitColumns_zero (a : ℕ → ℕ → K) : UnitColumns size 0 a :=
  fun _ _ c hNone => absurd hNone (Nat.not_lt_zero c)

/-- A turn of the elimination with a pivot that is not zero completes the next column. -/
theorem UnitColumns.next (hUnit : UnitColumns size i a) (hI : i < size) (hLow : i ≤ p)
    (hP : p < size) (hPivot : a p i ≠ 0) {swapped scaled : ℕ → ℕ → K}
    (hSwapped : swapRows size i p a = swapped)
    (hScaled : GaussJordan.scaleRow size i (1 / swapped i i) swapped = scaled) :
    UnitColumns size (i + 1) (clearRows size i (fun r => scaled r i) scaled) := by
  have hSwap : ∀ r c, c < size →
      swapped r c = a (if r = i then p else if r = p then i else r) c := by
    intro r c hColumn
    rw [← hSwapped]
    exact if_pos hColumn
  have hOld : ∀ r < size, ∀ c < i, scaled r c = if r = c then 1 else 0 := by
    intro r hRow c hColumn
    have hSource : swapped r c = if r = c then 1 else 0 := by
      rw [hSwap r c (by omega)]
      split_ifs with hFirst hSecond hSame hSame <;> rw [hUnit _ (by omega) c hColumn] <;>
        grind
    rw [← hScaled, GaussJordan.scaleRow]
    split_ifs with hHere hSame
    · omega
    · rw [hSource, if_neg hSame, zero_mul]
    · rw [hSource, if_pos (by assumption)]
    · rw [hSource, if_neg (by assumption)]
  have hDiagonal : scaled i i = 1 := by
    have hNonzero : swapped i i ≠ 0 := by
      rw [hSwap i i hI, if_pos rfl]
      exact hPivot
    rw [← hScaled, GaussJordan.scaleRow, if_pos ⟨rfl, hI⟩, mul_one_div_cancel hNonzero]
  intro r hRow c hColumn
  by_cases hHere : r = i
  · rw [GaussJordan.clearRows, if_neg fun hAll => hAll.1 hHere]
    by_cases hLast : c = i
    · rw [hHere, hLast, hDiagonal, if_pos rfl]
    · exact hOld r hRow c (by omega)
  · rw [GaussJordan.clearRows, if_pos ⟨hHere, hRow, by omega⟩]
    by_cases hLast : c = i
    · rw [hLast, hDiagonal, mul_one, sub_self, if_neg hHere]
    · rw [hOld i hI c (by omega), if_neg (by omega), mul_zero, sub_zero]
      exact hOld r hRow c (by omega)

/-- When all columns are done the second array is a left inverse of the array at the start. -/
theorem Tracks.leftInverse (hTracks : Tracks size start a inv) (hUnit : UnitColumns size size a)
    {r c : ℕ} (hRow : r < size) (hColumn : c < size) :
    ∑ t ∈ range size, inv r t * start t c = if r = c then 1 else 0 :=
  (hTracks r hRow c hColumn).trans (hUnit r hRow c hColumn)

end Library.GaussJordan
