import Mathlib.Algebra.BigOperators.Group.Finset.Basic
import Mathlib.Data.Nat.Notation

/-! Shells of signed frequencies: the places of a spectrum with the same absolute wavenumber, and
sums over them. -/
namespace Library.Shells

open Finset

/-- The wavenumber at a place of a spectrum of `n`. -/
def wavenumber (n i : ℕ) : ℤ := if i ≤ n / 2 then i else (i : ℤ) - n

/-- Its absolute value. -/
def shell (n i : ℕ) : ℕ := (wavenumber n i).natAbs

variable {M : Type} [AddCommMonoid M]

/-- The sum over the places of a shell. -/
def shellSum (n : ℕ) (S : ℕ → M) (k : ℕ) : M := ∑ i ∈ range n with shell n i = k, S i

/-- The sum over the places up to a shell. -/
def within (n : ℕ) (S : ℕ → M) (k : ℕ) : M := ∑ i ∈ range n with shell n i ≤ k, S i

variable {n i k : ℕ} {S : ℕ → M}

theorem shell_le (hPlace : i < n) : shell n i ≤ n / 2 := by
  rw [shell, wavenumber]
  split <;> omega

theorem shell_of_le (hHalf : i ≤ n / 2) : shell n i = i := by
  rw [shell, wavenumber, if_pos hHalf, Int.natAbs_natCast]

/-- The mirror place of a shell, where it has one. -/
theorem shell_sub (hPlace : k ≤ n / 2) (hNyquist : ¬ (n % 2 = 0 ∧ k = n / 2)) :
    shell n (n - k) = k := by
  rw [shell, wavenumber, if_neg (by omega)]
  omega

/-- A shell is a place and, but for the mean and the Nyquist place, its mirror. -/
theorem shellSum_eq (hLength : 0 < n) (hPlace : k ≤ n / 2) :
    shellSum n S k =
      if k = 0 ∨ n % 2 = 0 ∧ k = n / 2 then S k else S k + S (n - k) := by
  rw [shellSum]
  by_cases hAlone : k = 0 ∨ n % 2 = 0 ∧ k = n / 2
  · have hFilter : {i ∈ range n | shell n i = k} = {k} := by
      ext i
      rw [mem_filter, mem_range, mem_singleton, shell, wavenumber]
      split <;> omega
    rw [if_pos hAlone, hFilter, sum_singleton]
  · have hFilter : {i ∈ range n | shell n i = k} = {k, n - k} := by
      ext i
      rw [mem_filter, mem_range, mem_insert, mem_singleton, shell, wavenumber]
      split <;> omega
    rw [if_neg hAlone, hFilter, sum_pair (by omega)]

theorem within_zero : within n S 0 = shellSum n S 0 := by
  simp only [within, shellSum, Nat.le_zero]

theorem within_succ : within n S (k + 1) = within n S k + shellSum n S (k + 1) := by
  have hDisjoint : Disjoint {i ∈ range n | shell n i ≤ k} {i ∈ range n | shell n i = k + 1} := by
    rw [disjoint_filter]
    omega
  rw [within, within, shellSum, ← sum_union hDisjoint, ← filter_or]
  refine sum_congr (filter_congr fun i _ => ?_) fun _ _ => rfl
  omega

theorem within_eq_sum (n : ℕ) (S : ℕ → M) (k : ℕ) :
    within n S k = ∑ j ∈ range (k + 1), shellSum n S j := by
  induction k with
  | zero => rw [within_zero, sum_range_one]
  | succ k ih => rw [within_succ, ih, sum_range_succ _ (k + 1)]

/-- No place is beyond the last shell. -/
theorem within_last (n : ℕ) (S : ℕ → M) : within n S (n / 2) = ∑ i ∈ range n, S i := by
  rw [within, filter_true_of_mem]
  intro i hPlace
  exact shell_le (mem_range.mp hPlace)

end Library.Shells
