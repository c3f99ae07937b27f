import Mathlib.Data.BitVec
import Mathlib.SetTheory.Cardinal.Finite

/-! Bijective mixing steps on words. -/
namespace Library.WordMixing

variable {w : ℕ}

/-- The word with its own bits shifted into the lower ones. -/
def xorShift (shift : ℕ) (x : BitVec w) : BitVec w := x ^^^ x >>> shift

theorem eq_zero_of_eq_shift {shift : ℕ} (hShift : 0 < shift) {x : BitVec w}
    (hEq : x = x >>> shift) : x = 0 := by
  have hNat : x.toNat = x.toNat / 2 ^ shift := by
    conv_lhs => rw [hEq]
    rw [BitVec.toNat_ushiftRight, Nat.shiftRight_eq_div_pow]
  by_contra hZero
  have hPos : 0 < x.toNat := Nat.pos_of_ne_zero fun hNone => hZero (BitVec.eq_of_toNat_eq hNone)
  have hSmaller := Nat.div_lt_self hPos (Nat.one_lt_two_pow hShift.ne')
  omega

theorem xorShift_injective {shift : ℕ} (hShift : 0 < shift) :
    Function.Injective (xorShift shift : BitVec w → BitVec w) := by
  intro x y hEq
  have hDifference : x ^^^ y = (x ^^^ y) >>> shift := by
    unfold xorShift at hEq
    rw [BitVec.ushiftRight_xor_distrib]
    calc
      x ^^^ y = (x ^^^ x >>> shift) ^^^ (x >>> shift ^^^ y) := by
        rw [BitVec.xor_assoc, ← BitVec.xor_assoc (x >>> shift), BitVec.xor_self,
          BitVec.zero_xor]
      _ = x >>> shift ^^^ y >>> shift := by
        rw [hEq, BitVec.xor_comm (x >>> shift), ← BitVec.xor_assoc,
          BitVec.xor_comm (y ^^^ y >>> shift), ← BitVec.xor_assoc, BitVec.xor_self,
          BitVec.zero_xor, BitVec.xor_comm]
  exact BitVec.xor_eq_zero_iff.mp (eq_zero_of_eq_shift hShift hDifference)

/-- A factor with an inverse can be divided out. -/
theorem timesFactor_injective {factor inverse : BitVec w} (hInverse : factor * inverse = 1#w) :
    Function.Injective fun x : BitVec w => x * factor := by
  intro x y hEq
  have hProducts : x * factor * inverse = y * factor * inverse := congrArg (· * inverse) hEq
  rwa [BitVec.mul_assoc, BitVec.mul_assoc, hInverse, BitVec.mul_one, BitVec.mul_one] at hProducts

theorem plusOffset_injective (offset : BitVec w) :
    Function.Injective fun x : BitVec w => x + offset :=
  fun _ _ hEq => (BitVec.add_left_inj offset).mp hEq

theorem xorMask_injective (mask : BitVec w) : Function.Injective fun x : BitVec w => mask ^^^ x :=
  fun _ _ hEq => (BitVec.xor_right_inj mask).mp hEq

theorem rotateRight_injective (amount : ℕ) :
    Function.Injective fun word : BitVec w => word.rotateRight amount := by
  intro first second hEq
  refine BitVec.eq_of_getLsbD_eq fun i hi => ?_
  have hBound : amount % w < w := Nat.mod_lt _ (by omega)
  by_cases hLow : i < amount % w
  · have hBit := congrArg (fun word => word.getLsbD (w - amount % w + i)) hEq
    simp only [BitVec.getLsbD_rotateRight] at hBit
    have hWrapped : ¬w - amount % w + i < w - amount % w := by omega
    have hInside : w - amount % w + i < w := by omega
    simpa [hWrapped, hInside] using hBit
  · have hBit := congrArg (fun word => word.getLsbD (i - amount % w)) hEq
    simp only [BitVec.getLsbD_rotateRight] at hBit
    have hInside : i - amount % w < w - amount % w := by omega
    have hBack : amount % w + (i - amount % w) = i := by omega
    simpa [hInside, hBack] using hBit

theorem lor_one (n : ℕ) : n ||| 1 = 2 * (n / 2) + 1 := by
  refine Nat.eq_of_testBit_eq fun i => ?_
  cases i with
  | zero => simp
  | succ i =>
      have hHalf : (2 * (n / 2) + 1) / 2 = n / 2 := by omega
      rw [Nat.testBit_or, Nat.testBit_succ n, Nat.testBit_succ (2 * (n / 2) + 1), hHalf]
      simp [Nat.testBit_succ]

/-- Setting the last bit makes a word odd. -/
theorem or_one_odd (hWidth : 1 < w) (word : BitVec w) : ∃ q, word ||| 1 = 1 + 2 * q := by
  refine ⟨word >>> 1, BitVec.eq_of_toNat_eq ?_⟩
  have hEven : 2 * 2 ^ (w - 1) = 2 ^ w := by
    rw [← Nat.pow_succ', Nat.succ_eq_add_one, Nat.sub_add_cancel (Nat.le_of_lt hWidth)]
  have hLarge : 2 < 2 ^ w := by
    calc
      2 < 2 ^ 2 := by decide
      _ ≤ 2 ^ w := Nat.pow_le_pow_right (by decide) hWidth
  have hOne : (1 : BitVec w).toNat = 1 := Nat.mod_eq_of_lt (lt_trans (by decide) hLarge)
  have hTwo : (2 : BitVec w).toNat = 2 := Nat.mod_eq_of_lt hLarge
  have hWord := word.isLt
  have hHalf : 2 * (word.toNat / 2) + 1 < 2 ^ w := by omega
  rw [BitVec.toNat_or, BitVec.toNat_add, BitVec.toNat_mul, BitVec.toNat_ushiftRight, hOne, hTwo,
    lor_one, Nat.shiftRight_eq_div_pow, Nat.pow_one, Nat.add_mod_mod, Nat.add_comm 1,
    Nat.mod_eq_of_lt hHalf]

theorem two_pow_eq (k : ℕ) : (2 : BitVec w) ^ k = BitVec.ofNat w (2 ^ k) :=
  (Nat.cast_pow 2 k).symm

instance finite_words : Finite (BitVec w) :=
  .of_injective BitVec.toFin fun _ _ hEq => BitVec.eq_of_toFin_eq hEq

theorem card_words (w : ℕ) : Nat.card (BitVec w) = 2 ^ w := by
  rw [Nat.card_congr BitVec.equivFin.toEquiv, Nat.card_fin]

theorem bijective_of_injective {mix : BitVec w → BitVec w} (hMix : Function.Injective mix) :
    Function.Bijective mix :=
  Finite.injective_iff_bijective.mp hMix

end Library.WordMixing
