import Mathlib.Tactic.NormNum
import Oakfield.KernelIR.CDouble
import Oakfield.Library.ExtendedRational

/-! Doubles which are rationals extended with infinities and a NaN. -/
namespace Oakfield

open Library
open Library.ExtendedRational (number nan)

/-- The arithmetic and the comparisons on doubles are those of extended rationals. -/
class ExtendedDouble [CDouble ExtendedRational] : Prop where
  lit_eq (mantissa exponent : ℤ) :
    (CDouble.lit mantissa exponent : ExtendedRational) = number (mantissa * 10 ^ exponent)
  nan_eq : (CDouble.nan : ExtendedRational) = nan
  add_eq (a b : ExtendedRational) : CDouble.add a b = a.add b
  sub_eq (a b : ExtendedRational) : CDouble.sub a b = a.sub b
  mul_eq (a b : ExtendedRational) : CDouble.mul a b = a.mul b
  div_eq (a b : ExtendedRational) : CDouble.div a b = a.div b
  neg_eq (a : ExtendedRational) : CDouble.neg a = a.neg
  eq_eq (a b : ExtendedRational) : CDouble.eq a b = a.eq b
  lt_iff (a b : ExtendedRational) : CDouble.lt a b = true ↔ a < b
  le_iff (a b : ExtendedRational) : CDouble.le a b = true ↔ a ≤ b
  isfinite_eq (a : ExtendedRational) : CDouble.isfinite a = a.isFinite
  fabs_eq (a : ExtendedRational) : CDouble.fabs a = a.abs

namespace ExtendedDouble

variable [CDouble ExtendedRational] [ExtendedDouble]

theorem lit_zero (mantissa : ℤ) : (CDouble.lit mantissa 0 : ExtendedRational) =
    number mantissa := by
  rw [lit_eq, zpow_zero, mul_one]

theorem zero_eq : (CDouble.zero : ExtendedRational) = number 0 := by
  rw [CDouble.zero, lit_zero, Int.cast_zero]

theorem two_eq : (CDouble.two : ExtendedRational) = number 2 := by
  rw [CDouble.two, lit_zero, Int.cast_ofNat]

theorem half_eq : (CDouble.half : ExtendedRational) = number (1 / 2) := by
  rw [CDouble.half, lit_eq, zpow_neg_one]
  norm_num

theorem gt_iff (a b : ExtendedRational) : CDouble.gt a b = true ↔ b < a := lt_iff b a

theorem ge_iff (a b : ExtendedRational) : CDouble.ge a b = true ↔ b ≤ a := le_iff b a

/-- Of a number and a NaN, `fmax` is the number. -/
theorem le_fmax_left {a : ExtendedRational} (hNumber : a ≠ nan) (b : ExtendedRational) :
    a ≤ CDouble.fmax a b := by
  rw [CDouble.fmax]
  split_ifs with hLt hSelf
  · exact ExtendedRational.le_of_lt ((lt_iff a b).mp hLt)
  · exact ExtendedRational.le_self hNumber
  · rw [eq_eq] at hSelf
    exact absurd (ExtendedRational.eq_self hNumber) hSelf

omit [ExtendedDouble] in
theorem fmax_le {a b c : ExtendedRational} (hLeft : a ≤ c) (hRight : b ≤ c) :
    CDouble.fmax a b ≤ c := by
  rw [CDouble.fmax]
  split_ifs
  · exact hRight
  · exact hLeft
  · exact hRight

omit [ExtendedDouble] in
theorem fmax_lt {a b c : ExtendedRational} (hLeft : a < c) (hRight : b < c) :
    CDouble.fmax a b < c := by
  rw [CDouble.fmax]
  split_ifs
  · exact hRight
  · exact hLeft
  · exact hRight

end ExtendedDouble

/-- Extended rationals as doubles. The results of `pow` and of the other functions that
lead out of the rationals are simple ones. -/
@[reducible]
def extendedArithmetic : CDouble ExtendedRational where
  lit mantissa exponent := number (mantissa * 10 ^ exponent)
  nan := nan
  pi := number (355 / 113)
  add := .add
  sub := .sub
  mul := .mul
  div := .div
  neg := .neg
  eq := ExtendedRational.eq
  lt := ExtendedRational.lt
  le := ExtendedRational.le
  isfinite := ExtendedRational.isFinite
  sin a := a
  cos a := a
  exp a := a
  fabs := .abs
  log a := a
  tanh a := a
  sinh a := a
  sqrt a := a
  floor a := a
  trunc a := a
  pow a _ := a
  fmod a _ := a
  copysign a _ := a
  cpow a _ := a
  ofI64 x := number x.toInt
  ofU64 x := number x.toNat
  toI64 _ := 0
  toU64 _ := 0
  toU32 _ := 0
  ofBits x := number x.toNat
  toBits _ := 0
  digamma a := a
  trigamma a := a
  digamma7 a := a
  digamma5 a := a
  digammaTail a _ := a
  digammaMortici a := a
  indeterminate := nan

theorem extendedArithmetic_lawful : @ExtendedDouble extendedArithmetic :=
  @ExtendedDouble.mk extendedArithmetic (fun _ _ => rfl) rfl (fun _ _ => rfl) (fun _ _ => rfl)
    (fun _ _ => rfl) (fun _ _ => rfl) (fun _ => rfl) (fun _ _ => rfl) (fun _ _ => Iff.rfl)
    (fun _ _ => Iff.rfl) (fun _ => rfl) (fun _ => rfl)

end Oakfield
