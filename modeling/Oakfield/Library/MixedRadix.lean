import Mathlib.Algebra.BigOperators.Ring.List
import Mathlib.Algebra.GroupWithZero.Nat
import Mathlib.Data.List.Forall2
import Mathlib.Data.Nat.Notation
import Mathlib.Data.Set.Function
import Mathlib.Order.Interval.Set.Defs

/-! Mixed radix numbers: row-major addresses of index tuples below a list of extents. -/
namespace Library.MixedRadix

/-- The weight of each digit, the product of the extents to its right. -/
def strides : List ℕ → List ℕ
  | [] => []
  | _ :: shape => shape.prod :: strides shape

/-- One digit below each extent. -/
abbrev InRange (indices shape : List ℕ) : Prop := List.Forall₂ (· < ·) indices shape

/-- The number whose digits are the given tuple. -/
def address : List ℕ → List ℕ → ℕ
  | index :: indices, stride :: strides => index * stride + address indices strides
  | _, _ => 0

/-- The digits of a number. -/
def digits : List ℕ → ℕ → List ℕ
  | [], _ => []
  | _ :: shape, k => k / shape.prod :: digits shape (k % shape.prod)

theorem strides_cons (extent : ℕ) (shape : List ℕ) :
    strides (extent :: shape) = shape.prod :: strides shape := rfl

theorem address_cons (index stride : ℕ) (indices strides : List ℕ) :
    address (index :: indices) (stride :: strides) = index * stride + address indices strides := rfl

theorem digits_cons (extent : ℕ) (shape : List ℕ) (k : ℕ) :
    digits (extent :: shape) k = k / shape.prod :: digits shape (k % shape.prod) := rfl

theorem prod_pos {shape : List ℕ} (hPos : 0 ∉ shape) : 0 < shape.prod :=
  Nat.pos_of_ne_zero (List.prod_ne_zero hPos)

theorem length_strides (shape : List ℕ) : (strides shape).length = shape.length := by
  induction shape with
  | nil => rfl
  | cons extent shape ih => rw [strides_cons, List.length_cons, List.length_cons, ih]

theorem address_lt {indices shape : List ℕ} (hRange : InRange indices shape) :
    address indices (strides shape) < shape.prod := by
  induction hRange with
  | nil => exact Nat.zero_lt_one
  | @cons index extent indices shape hLt hRest ih =>
      rw [strides_cons, address_cons, List.prod_cons]
      calc
        index * shape.prod + address indices (strides shape)
            < index * shape.prod + shape.prod := Nat.add_lt_add_left ih _
        _ = (index + 1) * shape.prod := (Nat.succ_mul index shape.prod).symm
        _ ≤ extent * shape.prod := Nat.mul_le_mul_right _ hLt

/-- Reading the digits back gives the tuple. -/
theorem digits_address {indices shape : List ℕ} (hRange : InRange indices shape) :
    digits shape (address indices (strides shape)) = indices := by
  induction hRange with
  | nil => rfl
  | @cons index extent indices shape hLt hRest ih =>
      have hBelow := address_lt hRest
      have hDiv : (index * shape.prod + address indices (strides shape)) / shape.prod = index := by
        rw [Nat.add_comm, Nat.add_mul_div_right _ _ (by omega), Nat.div_eq_of_lt hBelow,
          Nat.zero_add]
      have hMod : (index * shape.prod + address indices (strides shape)) % shape.prod =
          address indices (strides shape) := by
        rw [Nat.add_comm, Nat.add_mul_mod_self_right, Nat.mod_eq_of_lt hBelow]
      rw [strides_cons, address_cons, digits_cons, hDiv, hMod, ih]

theorem inRange_digits {shape : List ℕ} (hPos : 0 ∉ shape) {k : ℕ} (hLt : k < shape.prod) :
    InRange (digits shape k) shape := by
  induction shape generalizing k with
  | nil => exact List.Forall₂.nil
  | cons extent shape ih =>
      rw [List.mem_cons, not_or] at hPos
      rw [List.prod_cons] at hLt
      apply List.Forall₂.cons
      · exact Nat.div_lt_of_lt_mul (by rwa [Nat.mul_comm])
      · exact ih hPos.2 (Nat.mod_lt _ (prod_pos hPos.2))

/-- The digits of the last axes, from the whole number. -/
theorem digits_cons_mod (extent : ℕ) (shape : List ℕ) (k : ℕ) :
    digits (extent :: shape) (k % (extent :: shape).prod) =
      k / shape.prod % extent :: digits shape (k % shape.prod) := by
  rw [digits_cons, List.prod_cons, Nat.mod_mul_left_div_self, Nat.mod_mul_left_mod]

theorem address_digits {shape : List ℕ} (hPos : 0 ∉ shape) {k : ℕ} (hLt : k < shape.prod) :
    address (digits shape k) (strides shape) = k := by
  induction shape generalizing k with
  | nil =>
      rw [List.prod_nil] at hLt
      exact (Nat.lt_one_iff.mp hLt).symm
  | cons extent shape ih =>
      rw [List.mem_cons, not_or] at hPos
      rw [digits_cons, strides_cons, address_cons, ih hPos.2 (Nat.mod_lt _ (prod_pos hPos.2)),
        Nat.mul_comm]
      exact Nat.div_add_mod k shape.prod

/-- Addressing is a bijection from the tuples in range onto the numbers below
the number of elements. -/
theorem bijOn_address {shape : List ℕ} (hPos : 0 ∉ shape) :
    Set.BijOn (fun indices => address indices (strides shape)) {indices | InRange indices shape}
      (Set.Iio shape.prod) := by
  refine ⟨fun indices hRange => address_lt hRange, ?_, ?_⟩
  · intro indices hRange other hOther hEq
    rw [← digits_address hRange, ← digits_address hOther]
    exact congrArg (digits shape) hEq
  · intro k hLt
    exact ⟨digits shape k, inRange_digits hPos hLt, address_digits hPos hLt⟩

end Library.MixedRadix
