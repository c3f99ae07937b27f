import Mathlib.Algebra.Order.Field.Basic
import Mathlib.Data.Rat.Floor
import Mathlib.Data.Rat.Sqrt
import Oakfield.KernelIR.CDouble

/-! Exact arithmetic: doubles which are the elements of an ordered field. -/
namespace Oakfield

/-- Literals `2` of an exact type rest on this fact. -/
theorem two_atLeastTwo : Nat.AtLeastTwo 2 := ⟨Nat.le_refl 2⟩

/-- A signed, and an unsigned, integer as a `double`. -/
def doubleOfInt {D : Type} [CDouble D] (x : ℤ) : D := CDouble.ofI64 (BitVec.ofInt 64 x)

def doubleOfUint {D : Type} [CDouble D] (n : ℕ) : D := CDouble.ofU64 (BitVec.ofNat 64 n)

/-- The arithmetic and the comparisons on doubles are those of the field. -/
class ExactDouble (K : Type) [Field K] [LinearOrder K] [CDouble K] : Prop where
  lit_eq (mantissa exponent : ℤ) :
    (CDouble.lit mantissa exponent : K) = mantissa * 10 ^ exponent
  add_eq (a b : K) : CDouble.add a b = a + b
  sub_eq (a b : K) : CDouble.sub a b = a - b
  mul_eq (a b : K) : CDouble.mul a b = a * b
  div_eq (a b : K) : CDouble.div a b = a / b
  neg_eq (a : K) : CDouble.neg a = -a
  eq_iff (a b : K) : CDouble.eq a b = true ↔ a = b
  lt_iff (a b : K) : CDouble.lt a b = true ↔ a < b
  le_iff (a b : K) : CDouble.le a b = true ↔ a ≤ b

attribute [simp] ExactDouble.add_eq ExactDouble.sub_eq ExactDouble.mul_eq ExactDouble.div_eq
  ExactDouble.neg_eq ExactDouble.eq_iff ExactDouble.lt_iff ExactDouble.le_iff

namespace ExactDouble

variable {K : Type} [Field K] [LinearOrder K] [CDouble K] [ExactDouble K]

theorem lit_zero (mantissa : ℤ) : (CDouble.lit mantissa 0 : K) = mantissa := by
  rw [lit_eq, zpow_zero, mul_one]

@[simp] theorem zero_eq : (CDouble.zero : K) = 0 := by
  rw [CDouble.zero, lit_zero, Int.cast_zero]

@[simp] theorem one_eq : (CDouble.one : K) = 1 := by
  rw [CDouble.one, lit_zero, Int.cast_one]

@[simp] theorem two_eq : (CDouble.two : K) = 2 := by
  rw [CDouble.two, lit_zero, Int.cast_ofNat]

@[simp] theorem half_eq [CharZero K] : (CDouble.half : K) = 1 / 2 := by
  rw [CDouble.half, lit_eq, zpow_neg_one]
  norm_num

end ExactDouble

/-- Absolute values, natural powers and converted integers are exact as well, and no value is out
of range. -/
class ExactPower (K : Type) [Field K] [LinearOrder K] [CDouble K] : Prop where
  fabs_eq (a : K) : CDouble.fabs a = |a|
  pow_natCast (a : K) (n : ℕ) : CDouble.pow a n = a ^ n
  ofU64_eq (x : BitVec 64) : (CDouble.ofU64 x : K) = x.toNat
  ofI64_eq (x : BitVec 64) : (CDouble.ofI64 x : K) = x.toInt
  isfinite_eq (a : K) : CDouble.isfinite a = true

section Conversions

variable {K : Type} [Field K] [LinearOrder K] [CDouble K] [ExactPower K]

theorem doubleOfInt_eq {x : ℤ} (hLow : -2 ^ 63 ≤ x) (hHigh : x < 2 ^ 63) :
    (doubleOfInt x : K) = x := by
  rw [doubleOfInt, ExactPower.ofI64_eq, BitVec.toInt_ofInt_eq_self (by decide) hLow hHigh]

theorem doubleOfUint_eq {n : ℕ} (hFits : n < 2 ^ 64) : (doubleOfUint n : K) = n := by
  rw [doubleOfUint, ExactPower.ofU64_eq, BitVec.toNat_ofNat, Nat.mod_eq_of_lt hFits]

end Conversions

/-- Doubles which hold exact rationals, with simple total functions for the primitives
which lead out of them. -/
instance : CDouble ℚ where
  lit mantissa exponent := mantissa * 10 ^ exponent
  nan := 0
  pi := 355 / 113
  add a b := a + b
  sub a b := a - b
  mul a b := a * b
  div a b := a / b
  neg a := -a
  eq a b := a == b
  lt a b := decide (a < b)
  le a b := decide (a ≤ b)
  isfinite _ := true
  sin a := a
  cos a := a + 1
  exp a := a + 2
  fabs a := |a|
  log a := a + 3
  tanh a := a + 4
  sinh a := a + 5
  sqrt a := Rat.sqrt a
  floor a := ⌊a⌋
  trunc a := if 0 ≤ a then ⌊a⌋ else ⌈a⌉
  pow a b := a ^ ⌊b⌋
  fmod a b := a - b * ⌊a / b⌋
  copysign a b := if b < 0 then -|a| else |a|
  cpow a _ := a
  ofI64 x := x.toInt
  ofU64 x := x.toNat
  toI64 a := BitVec.ofInt 64 ⌊a⌋
  toU64 a := BitVec.ofInt 64 ⌊a⌋
  toU32 a := BitVec.ofInt 32 ⌊a⌋
  ofBits x := x.toInt
  toBits a := BitVec.ofInt 64 ⌊a⌋
  digamma a := a
  trigamma a := a
  digamma7 a := a
  digamma5 a := a
  digammaTail a _ := a
  digammaMortici a := a
  indeterminate := 0

instance : ExactDouble ℚ where
  lit_eq _ _ := rfl
  add_eq _ _ := rfl
  sub_eq _ _ := rfl
  mul_eq _ _ := rfl
  div_eq _ _ := rfl
  neg_eq _ := rfl
  eq_iff _ _ := beq_iff_eq
  lt_iff _ _ := decide_eq_true_iff
  le_iff _ _ := decide_eq_true_iff

instance : ExactPower ℚ where
  fabs_eq _ := rfl
  pow_natCast a n := by
    show a ^ ⌊(n : ℚ)⌋ = a ^ n
    rw [Int.floor_natCast, zpow_natCast]
  ofU64_eq _ := rfl
  ofI64_eq _ := rfl
  isfinite_eq _ := rfl

end Oakfield
