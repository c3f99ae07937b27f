import Mathlib.Data.Int.Notation
import Mathlib.Data.Nat.Notation
import Mathlib.Data.Int.ModEq
import Mathlib.Tactic.Ring
import Mathlib.Tactic.Positivity

/-! Fixed-width integers inside a wider machine word: the representative of a
residue class modulo `2 ^ w`, and the words which denote it. -/
namespace Library.FixedWidth

/-- Representative of `z` modulo `2 ^ w`: balanced for signed integers, in
`[0, 2 ^ w)` for unsigned ones. -/
def wrap (signed : Bool) (w : ℕ) (z : ℤ) : ℤ :=
  if signed then Int.bmod z (2 ^ w) else z % 2 ^ w

variable {signed : Bool} {w : ℕ}

theorem wrap_emod (z : ℤ) : wrap signed w z % 2 ^ w = z % 2 ^ w := by
  unfold wrap
  split
  · simpa using Int.bmod_emod (x := z) (m := 2 ^ w)
  · exact Int.emod_emod_of_dvd z (dvd_refl _)

/-- The representative depends on the residue class alone. -/
theorem wrap_congr {a b : ℤ} (hMod : a % 2 ^ w = b % 2 ^ w) : wrap signed w a = wrap signed w b := by
  unfold wrap
  split
  · have hA := Int.emod_bmod (x := a) (n := 2 ^ w)
    have hB := Int.emod_bmod (x := b) (n := 2 ^ w)
    push_cast at hA hB
    rw [← hA, ← hB, hMod]
  · exact hMod

@[simp]
theorem wrap_wrap (z : ℤ) : wrap signed w (wrap signed w z) = wrap signed w z :=
  wrap_congr (wrap_emod z)

theorem wrap_add (a b : ℤ) :
    wrap signed w (wrap signed w a + wrap signed w b) = wrap signed w (a + b) :=
  wrap_congr ((Int.ModEq.add (wrap_emod a) (wrap_emod b) :))

theorem wrap_sub (a b : ℤ) :
    wrap signed w (wrap signed w a - wrap signed w b) = wrap signed w (a - b) :=
  wrap_congr ((Int.ModEq.sub (wrap_emod a) (wrap_emod b) :))

theorem wrap_mul (a b : ℤ) :
    wrap signed w (wrap signed w a * wrap signed w b) = wrap signed w (a * b) :=
  wrap_congr ((Int.ModEq.mul (wrap_emod a) (wrap_emod b) :))

/-- A product with a power depends on the residue classes of both factors. -/
theorem wrap_mul_pow {a a' b b' : ℤ} (hA : a % 2 ^ w = a' % 2 ^ w) (hB : b % 2 ^ w = b' % 2 ^ w)
    (k : ℕ) : wrap signed w (a * b ^ k) = wrap signed w (a' * b' ^ k) :=
  wrap_congr ((Int.ModEq.mul hA (Int.ModEq.pow k hB) :))

/-- A signed representative is between the extreme values of the width. -/
theorem wrap_signed_bounds (hPos : 0 < w) (z : ℤ) :
    -2 ^ (w - 1) ≤ wrap true w z ∧ wrap true w z < 2 ^ (w - 1) := by
  have hHalf : (2 : ℤ) ^ w = 2 * 2 ^ (w - 1) := by
    rw [← pow_succ', Nat.sub_add_cancel hPos]
  have hNat : 0 < 2 ^ w := Nat.two_pow_pos w
  have hLow := Int.le_bmod (x := z) (m := 2 ^ w) hNat
  have hHigh := Int.bmod_lt (x := z) (m := 2 ^ w) hNat
  push_cast at hLow hHigh
  simp only [wrap, if_true]
  omega

theorem wrap_unsigned_bounds (z : ℤ) : 0 ≤ wrap false w z ∧ wrap false w z < 2 ^ w := by
  have hPos : (0 : ℤ) < 2 ^ w := by positivity
  exact ⟨Int.emod_nonneg z hPos.ne', Int.emod_lt_of_pos z hPos⟩

/-- An integer in the range of the width is its own representative. -/
theorem wrap_signed_eq_self (hPos : 0 < w) {z : ℤ} (hLow : -2 ^ (w - 1) ≤ z)
    (hHigh : z < 2 ^ (w - 1)) : wrap true w z = z := by
  have hHalf : (2 : ℤ) ^ w = 2 * 2 ^ (w - 1) := by
    rw [← pow_succ', Nat.sub_add_cancel hPos]
  simp only [wrap, if_true]
  refine Int.bmod_eq_of_le ?_ ?_ <;> push_cast <;> omega

theorem wrap_unsigned_eq_self {z : ℤ} (hLow : 0 ≤ z) (hHigh : z < 2 ^ w) : wrap false w z = z :=
  Int.emod_eq_of_lt hLow hHigh

/-! ### Words of a wider machine -/

variable {n : ℕ}

/-- The integer of width `w` denoted by the low bits of a word. -/
def wordValue (signed : Bool) (w : ℕ) (x : BitVec n) : ℤ := wrap signed w x.toNat

theorem two_pow_dvd (hWidth : w ≤ n) : (2 : ℤ) ^ w ∣ 2 ^ n := pow_dvd_pow 2 hWidth

/-- Reducing first modulo the machine width is harmless. -/
theorem wrap_emod_machine (hWidth : w ≤ n) (z : ℤ) :
    wrap signed w (z % 2 ^ n) = wrap signed w z :=
  wrap_congr (Int.emod_emod_of_dvd z (two_pow_dvd hWidth))

theorem wrap_bmod_machine (hWidth : w ≤ n) (z : ℤ) :
    wrap signed w (z.bmod (2 ^ n)) = wrap signed w z := by
  have hMod := Int.bmod_emod (x := z) (m := 2 ^ n)
  push_cast at hMod
  refine wrap_congr ?_
  rw [← Int.emod_emod_of_dvd (z.bmod (2 ^ n)) (two_pow_dvd hWidth), hMod,
    Int.emod_emod_of_dvd z (two_pow_dvd hWidth)]

theorem wordValue_add (hWidth : w ≤ n) (x y : BitVec n) :
    wordValue signed w (x + y) = wrap signed w (wordValue signed w x + wordValue signed w y) := by
  rw [wordValue, wordValue, wordValue, wrap_add, BitVec.toNat_add]
  push_cast
  exact wrap_emod_machine hWidth _

theorem wordValue_sub (hWidth : w ≤ n) (x y : BitVec n) :
    wordValue signed w (x - y) = wrap signed w (wordValue signed w x - wordValue signed w y) := by
  rw [wordValue, wordValue, wordValue, wrap_sub, BitVec.toNat_sub]
  have hLt := y.isLt
  push_cast [Nat.cast_sub hLt.le]
  rw [wrap_emod_machine hWidth]
  refine wrap_congr ?_
  rw [show (2 : ℤ) ^ n - y.toNat + x.toNat = (x.toNat - y.toNat) + 2 ^ n by ring]
  obtain ⟨k, hk⟩ := two_pow_dvd hWidth
  rw [hk, Int.add_mul_emod_self_left]

theorem wordValue_mul (hWidth : w ≤ n) (x y : BitVec n) :
    wordValue signed w (x * y) = wrap signed w (wordValue signed w x * wordValue signed w y) := by
  rw [wordValue, wordValue, wordValue, wrap_mul, BitVec.toNat_mul]
  push_cast
  exact wrap_emod_machine hWidth _

/-- The machine word may be read as signed or unsigned. -/
theorem wordValue_eq_wrap_toInt (hWidth : w ≤ n) (x : BitVec n) :
    wordValue signed w x = wrap signed w x.toInt := by
  rw [wordValue, ← wrap_emod_machine hWidth x.toInt]
  refine congrArg _ ?_
  rw [BitVec.toInt_eq_toNat_bmod]
  have := Int.bmod_emod (x := (x.toNat : ℤ)) (m := 2 ^ n)
  push_cast at this
  rw [this, Int.emod_eq_of_lt (by positivity)]
  exact_mod_cast x.isLt

/-- The low-bit mask of width `w`. -/
theorem toNat_mask (hWidth : w < n) : ((1#n <<< w) - 1#n).toNat = 2 ^ w - 1 := by
  have hPow : 2 ^ w < 2 ^ n := Nat.pow_lt_pow_right (by omega) hWidth
  have hOne : 1 < 2 ^ n := Nat.one_lt_two_pow (by omega)
  have hPos : 0 < 2 ^ w := Nat.two_pow_pos w
  rw [BitVec.toNat_sub, BitVec.toNat_shiftLeft, BitVec.toNat_ofNat, Nat.mod_eq_of_lt hOne,
    Nat.one_shiftLeft, Nat.mod_eq_of_lt hPow]
  rw [show 2 ^ n - 1 + 2 ^ w = (2 ^ w - 1) + 2 ^ n by omega, Nat.add_mod_right,
    Nat.mod_eq_of_lt (by omega)]

theorem toNat_and_mask (hWidth : w < n) (x : BitVec n) :
    (x &&& ((1#n <<< w) - 1#n)).toNat = x.toNat % 2 ^ w := by
  rw [BitVec.toNat_and, toNat_mask hWidth, Nat.and_two_pow_sub_one_eq_mod]

theorem getLsbD_mask (hWidth : w < n) (i : ℕ) :
    ((1#n <<< w) - 1#n).getLsbD i = decide (i < w) := by
  rw [BitVec.getLsbD, toNat_mask hWidth, Nat.testBit_two_pow_sub_one]

/-- Masking and filling the upper bits with the sign bit is sign extension. -/
theorem signExtend_eq (hPos : 0 < w) (hWidth : w < n) (x : BitVec n) :
    (if (x &&& ((1#n <<< w) - 1#n)) &&& (1#n <<< (w - 1)) ≠ 0 then
      (x &&& ((1#n <<< w) - 1#n)) ||| ~~~((1#n <<< w) - 1#n)
    else x &&& ((1#n <<< w) - 1#n)) = (x.setWidth w).signExtend n := by
  have hTwoPow : 1#n <<< (w - 1) = BitVec.twoPow n (w - 1) := rfl
  have hSign : (x &&& ((1#n <<< w) - 1#n)).getLsbD (w - 1) = x.getLsbD (w - 1) := by
    rw [BitVec.getLsbD_and, getLsbD_mask hWidth]
    simp [hPos]
  have hNonzero : BitVec.twoPow n (w - 1) ≠ 0 := by
    intro hZero
    have := congrArg (fun v => v.getLsbD (w - 1)) hZero
    simp [BitVec.getLsbD_twoPow] at this
    omega
  rw [hTwoPow, BitVec.and_twoPow, hSign]
  apply BitVec.eq_of_getLsbD_eq
  intro i hi
  rw [BitVec.getLsbD_signExtend, BitVec.msb_setWidth, BitVec.getLsbD_setWidth]
  cases hCase : x.getLsbD (w - 1) with
  | true =>
      simp only [if_true, ne_eq, hNonzero, not_false_eq_true, BitVec.getLsbD_or,
        BitVec.getLsbD_and, BitVec.getLsbD_not, getLsbD_mask hWidth, hi, decide_true]
      by_cases hLow : i < w <;> simp [hLow, hPos]
  | false =>
      rw [if_neg (by simp), BitVec.getLsbD_and, getLsbD_mask hWidth]
      by_cases hLow : i < w <;> simp [hi, hLow]

/-- The sign-extended low bits denote the signed value of width `w`. -/
theorem toInt_signExtend_low (hWidth : w ≤ n) (x : BitVec n) :
    ((x.setWidth w).signExtend n).toInt = wordValue true w x := by
  rw [BitVec.toInt_signExtend_of_le hWidth, BitVec.toInt_setWidth]
  simp [wordValue, wrap]

end Library.FixedWidth
