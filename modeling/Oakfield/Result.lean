import Mathlib.Algebra.Group.Int.Defs
import Mathlib.Algebra.Group.Nat.Defs
import Mathlib.Tactic.TypeStar
import Mathlib.Data.Nat.Notation

/-! Result codes and machine sizes shared by all components. -/
namespace Oakfield

/-- `SimResult` without its success code, which is `Except.ok`. -/
inductive SimError where
  | invalidArgument
  | invalidState
  | outOfMemory
  | notFound
  | notSupported
  | dependencyError
  | typeMismatch
deriving DecidableEq, Repr

/-- `size_t` on the 64-bit targets: additions wrap. -/
abbrev SizeT := BitVec 64

instance : LawfulBEq SizeT := inferInstance

/-- `SIZE_MAX`, which the C code also writes `(size_t) -1`. -/
def sizeMax : SizeT := 0xFFFFFFFFFFFFFFFF#64

/-- The overflow check of `calloc`: the byte count fits in a `size_t`. -/
def callocFits (count : SizeT) (size : ℕ) : Bool := decide (count.toNat * size < 2 ^ 64)

theorem lt_add_one_of_le {field bound : SizeT} (hLe : field ≤ bound) (hMax : bound ≠ sizeMax) :
    field < bound + 1 := by
  unfold sizeMax at hMax
  bv_omega

end Oakfield
