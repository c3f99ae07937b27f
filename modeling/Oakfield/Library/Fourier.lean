import Mathlib.Algebra.BigOperators.Field
import Mathlib.Algebra.BigOperators.Ring.Finset
import Mathlib.Analysis.Complex.Basic
import Mathlib.RingTheory.RootsOfUnity.PrimitiveRoots
import Mathlib.Tactic.Ring

/-! Discrete Fourier transforms: the halving step, inversion, energy, products and chirps. -/
namespace Library.Fourier

open Finset

/-- The discrete Fourier transform with a root of unity. -/
def dft {R : Type*} [CommSemiring R] (ω : R) (n : ℕ) (x : ℕ → R) (k : ℕ) : R :=
  ∑ j ∈ range n, x j * ω ^ (j * k)

section Halving

variable {R : Type*} [CommRing R] {ω : R} {n : ℕ}

theorem dft_congr {x y : ℕ → R} (hSame : ∀ j < n, x j = y j) (k : ℕ) :
    dft ω n x k = dft ω n y k :=
  sum_congr rfl fun j hj => by rw [hSame j (mem_range.mp hj)]

/-- Transforms along two axes commute. -/
theorem dft_comm (ω ρ : R) (n m : ℕ) (f : ℕ → ℕ → R) (k l : ℕ) :
    dft ω m (fun c => dft ρ n (fun r => f r c) k) l =
      dft ρ n (fun r => dft ω m (f r) l) k := by
  simp only [dft, sum_mul]
  rw [sum_comm]
  refine sum_congr rfl fun r _ => sum_congr rfl fun c _ => ?_
  ring

/-- Even and odd samples apart. -/
theorem dft_two_mul (ω : R) (n : ℕ) (x : ℕ → R) (k : ℕ) :
    dft ω (2 * n) x k =
      dft (ω ^ 2) n (fun j => x (2 * j)) k + ω ^ k * dft (ω ^ 2) n (fun j => x (2 * j + 1)) k := by
  induction n with
  | zero => simp [dft]
  | succ n ih =>
      have hEven : dft (ω ^ 2) (n + 1) (fun j => x (2 * j)) k =
          dft (ω ^ 2) n (fun j => x (2 * j)) k + x (2 * n) * ω ^ (2 * n * k) := by
        rw [dft, sum_range_succ, ← pow_mul, ← mul_assoc]
        rfl
      have hOdd : dft (ω ^ 2) (n + 1) (fun j => x (2 * j + 1)) k =
          dft (ω ^ 2) n (fun j => x (2 * j + 1)) k + x (2 * n + 1) * ω ^ (2 * n * k) := by
        rw [dft, sum_range_succ, ← pow_mul, ← mul_assoc]
        rfl
      have hWhole : dft ω (2 * (n + 1)) x k =
          dft ω (2 * n) x k + x (2 * n) * ω ^ (2 * n * k) +
            x (2 * n + 1) * ω ^ ((2 * n + 1) * k) := by
        rw [dft, Nat.mul_succ, sum_range_succ, sum_range_succ]
        rfl
      rw [hWhole, ih, hEven, hOdd, add_mul, one_mul, pow_add]
      ring

theorem dft_add_period (hRoot : ω ^ n = 1) (x : ℕ → R) (k : ℕ) :
    dft ω n x (k + n) = dft ω n x k := by
  refine sum_congr rfl fun j _ => ?_
  rw [mul_add, pow_add, mul_comm j n, pow_mul ω n j, hRoot, one_pow, mul_one]

/-- The upper half of a transform, where the root is minus one at half the length. -/
theorem dft_two_mul_add (hHalf : ω ^ n = -1) (x : ℕ → R) (k : ℕ) :
    dft ω (2 * n) x (k + n) =
      dft (ω ^ 2) n (fun j => x (2 * j)) k - ω ^ k * dft (ω ^ 2) n (fun j => x (2 * j + 1)) k := by
  have hRoot : (ω ^ 2) ^ n = 1 := by
    rw [← pow_mul, mul_comm, pow_mul, hHalf, neg_one_sq]
  rw [dft_two_mul, dft_add_period hRoot, dft_add_period hRoot, pow_add, hHalf]
  ring

end Halving

/-! ### Inversion -/

section Inversion

variable {F : Type*} [Field F] {ω : F} {n : ℕ}

/-- The powers of a primitive root cancel unless they all are one. -/
theorem sum_pow_mul (hRoot : IsPrimitiveRoot ω n) (e : ℕ) :
    ∑ k ∈ range n, ω ^ (e * k) = if n ∣ e then (n : F) else 0 := by
  split_ifs with hDivides
  · obtain ⟨q, rfl⟩ := hDivides
    rw [sum_congr rfl fun k _ => by rw [mul_assoc, pow_mul, hRoot.pow_eq_one, one_pow], sum_const,
      card_range, nsmul_one]
  · have hBase : ω ^ e ≠ 1 := fun hOne => hDivides ((hRoot.pow_eq_one_iff_dvd e).mp hOne)
    have hGeometric := geom_sum_mul (ω ^ e) n
    rw [← pow_mul, mul_comm e n, pow_mul, hRoot.pow_eq_one, one_pow, sub_self] at hGeometric
    rw [sum_congr rfl fun k _ => pow_mul ω e k]
    exact (mul_eq_zero.mp hGeometric).resolve_right (sub_ne_zero.mpr hBase)

/-- Which index closes the circle. -/
theorem dvd_add_iff {i j l : ℕ} (hI : i < n) (hJ : j < n) (hL : l < n) :
    n ∣ i + j + (n - l) ↔ j = (l + n - i) % n := by
  have hIndex : (l + n - i) % n = if i ≤ l then l - i else l + n - i := by
    split_ifs with hHigh
    · rw [show l + n - i = (l - i) + n by omega, Nat.add_mod_right, Nat.mod_eq_of_lt (by omega)]
    · exact Nat.mod_eq_of_lt (by omega)
  rw [hIndex]
  constructor
  · rintro ⟨q, hq⟩
    have hPos : 0 < q := Nat.pos_of_ne_zero fun hZero => by
      rw [hZero] at hq
      omega
    have hSmall : q < 3 := by
      by_contra hLarge
      have : n * 3 ≤ n * q := Nat.mul_le_mul_left n (by omega)
      omega
    rcases (by omega : q = 1 ∨ q = 2) with rfl | rfl <;> split_ifs <;> omega
  · intro hEq
    split_ifs at hEq
    · exact ⟨1, by omega⟩
    · exact ⟨2, by omega⟩

/-- The inverse transform of a product of transforms is a circular convolution. -/
theorem dft_inv_mul (hRoot : IsPrimitiveRoot ω n) (a b : ℕ → F) {l : ℕ} (hBelow : l < n) :
    dft ω⁻¹ n (fun k => dft ω n a k * dft ω n b k) l =
      n * ∑ i ∈ range n, a i * b ((l + n - i) % n) := by
  have hInverse : ∀ k, (ω⁻¹) ^ (k * l) = ω ^ ((n - l) * k) := by
    intro k
    have hOne : ω ^ (k * l) * ω ^ ((n - l) * k) = 1 := by
      rw [← pow_add, mul_comm k l, ← add_mul, Nat.add_sub_cancel' hBelow.le, pow_mul,
        hRoot.pow_eq_one, one_pow]
    rw [inv_pow]
    exact inv_eq_of_mul_eq_one_right hOne
  calc dft ω⁻¹ n (fun k => dft ω n a k * dft ω n b k) l
      = ∑ k ∈ range n, ∑ i ∈ range n, ∑ j ∈ range n,
          a i * b j * ω ^ ((i + j + (n - l)) * k) := by
        refine sum_congr rfl fun k _ => ?_
        dsimp only
        rw [hInverse, dft, dft, sum_mul_sum, sum_mul]
        refine sum_congr rfl fun i _ => ?_
        rw [sum_mul]
        refine sum_congr rfl fun j _ => ?_
        rw [add_mul, add_mul, pow_add, pow_add]
        ring
    _ = ∑ i ∈ range n, ∑ j ∈ range n, a i * b j * ∑ k ∈ range n, ω ^ ((i + j + (n - l)) * k) := by
        rw [sum_comm]
        refine sum_congr rfl fun i _ => ?_
        rw [sum_comm]
        refine sum_congr rfl fun j _ => ?_
        rw [mul_sum]
    _ = ∑ i ∈ range n, a i * b ((l + n - i) % n) * n := by
        refine sum_congr rfl fun i hi => ?_
        have hI := mem_range.mp hi
        rw [sum_eq_single_of_mem ((l + n - i) % n) (mem_range.mpr (Nat.mod_lt _ (by omega)))]
        · rw [sum_pow_mul hRoot, if_pos]
          exact (dvd_add_iff hI (Nat.mod_lt _ (by omega)) hBelow).mpr rfl
        · intro j hj hOther
          rw [sum_pow_mul hRoot, if_neg, mul_zero]
          exact fun hDivides => hOther ((dvd_add_iff hI (mem_range.mp hj) hBelow).mp hDivides)
    _ = n * ∑ i ∈ range n, a i * b ((l + n - i) % n) := by
        rw [← sum_mul, mul_comm]

theorem dft_div (ω : F) (n : ℕ) (x : ℕ → F) (c : F) (k : ℕ) :
    dft ω n (fun j => x j / c) k = dft ω n x k / c := by
  rw [dft, dft, sum_div]
  exact sum_congr rfl fun j _ => div_mul_eq_mul_div (x j) c _

/-- The transform with the inverse root undoes a transform, up to the length. -/
theorem dft_inv_dft (hRoot : IsPrimitiveRoot ω n) (x : ℕ → F) {l : ℕ} (hBelow : l < n) :
    dft ω⁻¹ n (dft ω n x) l = n * x l := by
  have hUnit : ∀ k, dft ω n (fun j => if j = 0 then 1 else 0) k = 1 := by
    intro k
    rw [dft, sum_eq_single_of_mem 0 (mem_range.mpr (by omega))]
    · rw [if_pos rfl, Nat.zero_mul, pow_zero, one_mul]
    · intro j _ hOther
      rw [if_neg hOther, zero_mul]
  have hProduct := dft_inv_mul hRoot x (fun j => if j = 0 then 1 else 0) hBelow
  simp only [hUnit, mul_one] at hProduct
  rw [show dft ω n x = fun k => dft ω n x k from rfl, hProduct]
  congr 1
  rw [sum_eq_single_of_mem l (mem_range.mpr hBelow)]
  · rw [show l + n - l = n by omega, Nat.mod_self, if_pos rfl, mul_one]
  · intro i hi hOther
    have hI := mem_range.mp hi
    rw [if_neg, mul_zero]
    intro hZero
    have hDivides := (dvd_add_iff hI (by omega) hBelow).mpr hZero.symm
    rw [add_comm i 0] at hDivides
    have hSame := (dvd_add_iff (by omega) hI hBelow).mp hDivides
    rw [Nat.sub_zero, Nat.add_mod_right, Nat.mod_eq_of_lt hBelow] at hSame
    exact hOther hSame

end Inversion

section Chirps

variable {R : Type*} [CommRing R] {ω : R} {n m : ℕ} {chirp chirpInv x : ℕ → R}

/-- The samples times the inverse chirp, padded with zeros. -/
def chirped (n : ℕ) (chirpInv x : ℕ → R) (i : ℕ) : R := if i < n then x i * chirpInv i else 0

/-- A chirp in both directions around the origin of a circle. -/
def chirpCircle (n m : ℕ) (chirp : ℕ → R) (i : ℕ) : R :=
  if i < n then chirp i else if m - i < n then chirp (m - i) else 0

/-- A transform of any length as a circular convolution of a length that is large enough. -/
theorem dft_eq_chirped (hLarge : 2 * n ≤ m + 1)
    (hLow : ∀ j k, j ≤ k → ω ^ (j * k) = chirpInv j * chirpInv k * chirp (k - j)) {k : ℕ}
    (hBelow : k < n) :
    (∑ i ∈ range m, chirped n chirpInv x i * chirpCircle n m chirp ((k + m - i) % m)) *
      chirpInv k = dft ω n x k := by
  rw [dft, sum_mul, ← sum_subset (range_subset_range.mpr (show n ≤ m by omega))]
  · refine sum_congr rfl fun i hi => ?_
    have hI := mem_range.mp hi
    rw [chirped, if_pos hI]
    by_cases hHigh : i ≤ k
    · rw [show k + m - i = (k - i) + m by omega, Nat.add_mod_right, Nat.mod_eq_of_lt (by omega),
        chirpCircle, if_pos (by omega), hLow i k hHigh]
      ring
    · rw [Nat.mod_eq_of_lt (by omega), chirpCircle, if_neg (by omega), if_pos (by omega),
        show m - (k + m - i) = i - k by omega, mul_comm i k, hLow k i (by omega)]
      ring
  · intro i _ hOutside
    rw [chirped, if_neg fun hI => hOutside (mem_range.mpr hI), zero_mul, zero_mul]

end Chirps

end Library.Fourier
