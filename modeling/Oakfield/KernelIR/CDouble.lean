import Oakfield.Result
import Mathlib.Data.Int.Notation
import Mathlib.Data.Nat.Sqrt

/-! The C type `double` and the library functions on it, as uninterpreted
primitives. Nothing is assumed of them here; a result that needs a property of
the arithmetic says so. -/
namespace Oakfield

/-- Primitives of `double` which the kernel code calls. -/
class CDouble (D : Type) where
  /-- A decimal literal, `mantissa * 10 ^ exponent`. -/
  lit : ℤ → ℤ → D
  nan : D
  pi : D
  add : D → D → D
  sub : D → D → D
  mul : D → D → D
  div : D → D → D
  neg : D → D
  /-- The C comparisons `==`, `<` and `<=`. -/
  eq : D → D → Bool
  lt : D → D → Bool
  le : D → D → Bool
  isfinite : D → Bool
  sin : D → D
  cos : D → D
  exp : D → D
  fabs : D → D
  log : D → D
  tanh : D → D
  sinh : D → D
  sqrt : D → D
  floor : D → D
  trunc : D → D
  pow : D → D → D
  fmod : D → D → D
  copysign : D → D → D
  /-- Real and imaginary part of `cpow`. -/
  cpow : D × D → D × D → D × D
  /-- Conversions between `double` and the 64-bit integer types. -/
  ofI64 : BitVec 64 → D
  ofU64 : BitVec 64 → D
  toI64 : D → BitVec 64
  toU64 : D → BitVec 64
  toU32 : D → BitVec 32
  /-- The object representation, as read through a union. -/
  ofBits : BitVec 64 → D
  toBits : D → BitVec 64
  /-- `sim_special_digamma` and the other warp profiles. -/
  digamma : D → D
  trigamma : D → D
  digamma7 : D → D
  digamma5 : D → D
  digammaTail : D → D → D
  digammaMortici : D → D
  /-- What a read of a lane that was never written may yield. -/
  indeterminate : D

namespace CDouble

variable {D : Type} [CDouble D]

/-- The literals `0.0`, `1.0` and `2.0`. -/
def zero : D := lit 0 0

def one : D := lit 1 0

def two : D := lit 2 0

/-- The literal `0.5`. -/
def half : D := lit 5 (-1)

/-- The C comparisons `>` and `>=`. -/
def gt (a b : D) : Bool := lt b a

def ge (a b : D) : Bool := le b a

def ne (a b : D) : Bool := !eq a b

/-- `fmax`, which ignores a NaN argument. -/
def fmax (a b : D) : D := if lt a b then b else if eq a a then a else b

end CDouble

/-- Doubles which hold exact integers, with simple total functions for the other
primitives: a finite interpretation to evaluate kernels on. -/
instance : CDouble ℤ where
  lit mantissa exponent := if exponent < 0 then 0 else mantissa * 10 ^ exponent.toNat
  nan := 0
  pi := 3
  add a b := a + b
  sub a b := a - b
  mul a b := a * b
  div a b := a / b
  neg a := -a
  eq a b := a == b
  lt a b := decide (a < b)
  le a b := decide (a ≤ b)
  isfinite _ := true
  sin a := a
  cos a := a + 1
  exp a := a + 2
  fabs a := a.natAbs
  log a := a + 3
  tanh a := a + 4
  sinh a := a + 5
  sqrt a := a.toNat.sqrt
  floor a := a
  trunc a := a
  pow a b := a ^ b.toNat
  fmod a b := a.tmod b
  copysign a b := if b < 0 then -a.natAbs else a.natAbs
  cpow a _ := a
  ofI64 x := x.toInt
  ofU64 x := x.toNat
  toI64 a := BitVec.ofInt 64 a
  toU64 a := BitVec.ofInt 64 a
  toU32 a := BitVec.ofInt 32 a
  ofBits x := x.toInt
  toBits a := BitVec.ofInt 64 a
  digamma a := a
  trigamma a := a
  digamma7 a := a
  digamma5 a := a
  digammaTail a _ := a
  digammaMortici a := a
  indeterminate := 0

end Oakfield
