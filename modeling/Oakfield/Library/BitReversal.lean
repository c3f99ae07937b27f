import Mathlib.Data.Nat.Bitwise
import Oakfield.Library.Fourier

/-! Transforms whose length is a power of two: bit reversal, exchanges in place and the stages of
butterflies. -/
namespace Library.BitReversal

open Finset Fourier

/-! ### Reversal -/

/-- The lowest bits in reverse order. -/
def reverse : ℕ → ℕ → ℕ
  | 0, _ => 0
  | l + 1, n => n % 2 * 2 ^ l + reverse l (n / 2)

theorem reverse_lt (l n : ℕ) : reverse l n < 2 ^ l := by
  induction l generalizing n with
  | zero => exact Nat.one_pos
  | succ l ih =>
      have hLow := ih (n / 2)
      have hBit : n % 2 * 2 ^ l ≤ 1 * 2 ^ l := Nat.mul_le_mul_right _ (by omega)
      rw [reverse, pow_succ]
      omega

theorem testBit_reverse (l n i : ℕ) :
    (reverse l n).testBit i = (decide (i < l) && n.testBit (l - 1 - i)) := by
  induction l generalizing n i with
  | zero => simp [reverse]
  | succ l ih =>
      rw [reverse, mul_comm, Nat.testBit_two_pow_mul_add _ (reverse_lt l (n / 2)), ih]
      by_cases hLow : i < l
      · rw [if_pos hLow, decide_eq_true hLow, decide_eq_true (by omega), Nat.testBit_div_two,
          show l - 1 - i + 1 = l + 1 - 1 - i by omega]
      · rw [if_neg hLow]
        by_cases hTop : i = l
        · rw [hTop, Nat.sub_self, decide_eq_true (Nat.lt_succ_self l), Bool.true_and,
            Nat.add_sub_cancel, Nat.sub_self]
          simp
        · rw [decide_eq_false (by omega), Bool.false_and]
          by_cases hOutside : l < i
          · exact Nat.testBit_lt_two_pow
              ((Nat.mod_lt n (by omega)).trans_le (Nat.le_self_pow (by omega) 2))
          · omega

theorem reverse_reverse {l n : ℕ} (hBelow : n < 2 ^ l) : reverse l (reverse l n) = n := by
  refine Nat.eq_of_testBit_eq fun i => ?_
  rw [testBit_reverse, testBit_reverse]
  by_cases hLow : i < l
  · rw [decide_eq_true hLow, decide_eq_true (by omega), Bool.true_and, Bool.true_and,
      show l - 1 - (l - 1 - i) = i by omega]
  · rw [decide_eq_false hLow, Bool.false_and]
    exact (Nat.testBit_lt_two_pow
      (hBelow.trans_le (Nat.pow_le_pow_right (by omega) (by omega)))).symm

/-! ### Exchanges -/

section Exchanges

variable {α : Type*} {σ : ℕ → ℕ} {n : ℕ}

/-- Two entries exchanged. -/
def exchange (i j : ℕ) (x : ℕ → α) (p : ℕ) : α :=
  if p = i then x j else if p = j then x i else x p

/-- The first rounds of a loop which exchanges each entry with a later one. -/
def exchangeLoop (σ : ℕ → ℕ) (x : ℕ → α) : ℕ → ℕ → α
  | 0 => x
  | i + 1 =>
      if i < σ i then exchange i (σ i) (exchangeLoop σ x i) else exchangeLoop σ x i

/-- For an involution the loop permutes the entries. -/
theorem exchangeLoop_apply (hInvolution : ∀ i < n, σ i < n ∧ σ (σ i) = i) (x : ℕ → α)
    {count : ℕ} (hCount : count ≤ n) (p : ℕ) :
    exchangeLoop σ x count p =
      if p < n ∧ (p < count ∨ σ p < count) then x (σ p) else x p := by
  induction count generalizing p with
  | zero => rw [exchangeLoop, if_neg (by omega)]
  | succ count ih =>
      have hRest := ih (by omega)
      obtain ⟨hTarget, hBack⟩ := hInvolution count (by omega)
      have hFixed : ∀ q < n, σ q = count → q = σ count := fun q hq hEq => by
        rw [← (hInvolution q hq).2, hEq]
      rw [exchangeLoop]
      by_cases hLater : count < σ count
      · rw [if_pos hLater, exchange]
        by_cases hHere : p = count
        · rw [if_pos hHere, hRest, hBack, if_neg (by omega), hHere, if_pos (by omega)]
        · rw [if_neg hHere]
          by_cases hThere : p = σ count
          · rw [if_pos hThere, hRest, if_neg (by omega), hThere, hBack, if_pos (by omega)]
          · have hOther : p < n → σ p ≠ count := fun hp hEq => hThere (hFixed p hp hEq)
            rw [if_neg hThere, hRest]
            exact if_congr (by omega) rfl rfl
      · rw [if_neg hLater, hRest]
        by_cases hHere : p = count
        · subst hHere
          rw [if_pos (show p < n ∧ (p < p + 1 ∨ σ p < p + 1) by omega)]
          by_cases hSame : σ p = p
          · rw [hSame, if_neg (by omega)]
          · rw [if_pos (by omega)]
        · have hOther : p < n → σ p = count → p = σ count := hFixed p
          exact if_congr (by omega) rfl rfl

end Exchanges

/-! ### Stages -/

section Stages

variable {R : Type*} [CommRing R]

/-- A stage of butterflies on blocks of twice the given length. -/
def stage (half : ℕ) (w : R) (x : ℕ → R) (p : ℕ) : R :=
  if p % (2 * half) < half then x p + w ^ (p % (2 * half)) * x (p + half)
  else x (p - half) - w ^ (p % (2 * half) - half) * x p

/-- A stage on whole blocks stays within them. -/
theorem stage_congr {half n p : ℕ} {w : R} {x y : ℕ → R} (hBlocks : 2 * half ∣ n) (hBelow : p < n)
    (hSame : ∀ q < n, x q = y q) : stage half w x p = stage half w y p := by
  obtain ⟨count, rfl⟩ := hBlocks
  rw [stage, stage, hSame p hBelow, hSame (p - half) (by omega)]
  by_cases hLow : p % (2 * half) < half
  · have hNext : p + half < 2 * half * count := by
      have hBlock : p / (2 * half) < count := Nat.div_lt_of_lt_mul hBelow
      have hEnd := Nat.mul_le_mul_left (2 * half) (Nat.succ_le_of_lt hBlock)
      have hParts := Nat.div_add_mod p (2 * half)
      rw [Nat.mul_succ] at hEnd
      omega
    rw [if_pos hLow, if_pos hLow, hSame _ hNext]
  · rw [if_neg hLow, if_neg hLow]

/-- Transforms of blocks, of samples in the order of reversed bits. -/
def blocks (l s : ℕ) (ω : R) (x : ℕ → R) (p : ℕ) : R :=
  dft ω (2 ^ s) (fun j => x (2 ^ l * j + reverse l (p / 2 ^ s))) (p % 2 ^ s)

theorem blocks_zero (l : ℕ) (ω : R) (x : ℕ → R) (p : ℕ) : blocks l 0 ω x p = x (reverse l p) := by
  rw [blocks, dft, pow_zero, sum_range_one, Nat.div_one]
  simp

/-- A stage joins neighbouring blocks. -/
theorem stage_blocks {ω : R} {s : ℕ} (hHalf : ω ^ 2 ^ s = -1) (l : ℕ) (x : ℕ → R) (p : ℕ) :
    stage (2 ^ s) ω (blocks (l + 1) s (ω ^ 2) x) p = blocks l (s + 1) ω x p := by
  have hPos : 0 < 2 ^ s := Nat.two_pow_pos s
  have hBlock : ∀ b c r, c < 2 → r < 2 ^ s →
      blocks (l + 1) s (ω ^ 2) x (2 ^ s * (2 * b + c) + r) =
        dft (ω ^ 2) (2 ^ s) (fun j => x (2 ^ l * (2 * j + c) + reverse l b)) r := by
    intro b c r hC hR
    rw [blocks, Nat.mul_add_div hPos, Nat.div_eq_of_lt hR, add_zero, Nat.mul_add_mod,
      Nat.mod_eq_of_lt hR]
    refine dft_congr (fun j _ => ?_) r
    rw [reverse, show (2 * b + c) % 2 = c by omega, show (2 * b + c) / 2 = b by omega, pow_succ]
    congr 1
    ring
  generalize hB : p / (2 * 2 ^ s) = b
  generalize hR : p % (2 * 2 ^ s) = r
  have hWhole : p = 2 ^ s * (2 * b) + r := by
    rw [← hB, ← hR, ← mul_assoc, mul_comm (2 ^ s) 2, Nat.div_add_mod]
  have hBelow : r < 2 * 2 ^ s := hR ▸ Nat.mod_lt p (by omega)
  have hJoined : blocks l (s + 1) ω x p =
      dft ω (2 * 2 ^ s) (fun j => x (2 ^ l * j + reverse l b)) r := by
    rw [blocks, pow_succ, mul_comm (2 ^ s) 2, hB, hR]
  rw [stage, hR, hJoined]
  split_ifs with hLow
  · rw [dft_two_mul, hWhole]
    have hEven := hBlock b 0 r (by omega) hLow
    have hOdd := hBlock b 1 r (by omega) hLow
    rw [mul_add, mul_one, add_right_comm] at hOdd
    rw [add_zero] at hEven
    rw [hEven, hOdd]
    rfl
  · obtain ⟨k, rfl⟩ := Nat.exists_eq_add_of_le (Nat.not_lt.mp hLow)
    rw [add_comm (2 ^ s) k, dft_two_mul_add hHalf, Nat.add_sub_cancel, hWhole]
    have hEven := hBlock b 0 k (by omega) (by omega)
    have hOdd := hBlock b 1 k (by omega) (by omega)
    rw [add_zero] at hEven
    rw [show 2 ^ s * (2 * b) + (2 ^ s + k) - 2 ^ s = 2 ^ s * (2 * b) + k by omega, hEven,
      show 2 ^ s * (2 * b) + (2 ^ s + k) = 2 ^ s * (2 * b + 1) + k by ring, hOdd]
    rfl

end Stages

end Library.BitReversal
