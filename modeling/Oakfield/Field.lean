import Oakfield.KernelIR.ScalarDomain
import Oakfield.KernelIR.CDouble
import Mathlib.Logic.Function.Basic

/-! Simulation fields: layout, representation metadata and element storage. -/
namespace Oakfield

open KernelIR

inductive SimFieldDomain where
  | unknown
  | physical
  | spectral
  | hybrid
deriving DecidableEq, Repr

inductive SimFieldValueKind where
  | realScalar
  | complexScalar
  | complexRealConstraint
  | complexImagZeroConstraint
  | unknown
deriving DecidableEq, Repr

structure SimFieldRepresentation where
  domain : SimFieldDomain
  valueKind : SimFieldValueKind
deriving DecidableEq, Repr

def SimFieldValueKind.isComplexValued : SimFieldValueKind → Bool
  | .complexScalar | .complexRealConstraint | .complexImagZeroConstraint => true
  | .realScalar | .unknown => false

/-- The data buffer: lanes of `double`, or integer elements as raw words. The
buffer of an element count and size is an initial part of it. -/
inductive FieldData (D : Type) where
  | lanes (lane : ℕ → D)
  | words (word : ℕ → BitVec 64)

/-- `SimField`; the data pointer may be null. -/
structure SimField (D : Type) where
  initialized : Bool
  shape : List ℕ
  strides : List ℕ
  contiguous : Bool := true
  elementSize : ℕ
  data : Option (FieldData D)
  complexMode : Bool
  repr : SimFieldRepresentation
  scalarDomain : SimScalarDomain

namespace SimField

variable {D : Type}

/-- `sim_field_representation`. -/
def representation (field : SimField D) : SimFieldRepresentation :=
  if !field.initialized then ⟨.unknown, .unknown⟩
  else
    { domain := if field.repr.domain = .unknown then .physical else field.repr.domain
      valueKind :=
        if field.repr.valueKind = .realScalar ∧ field.elementSize = 16 then .complexScalar
        else field.repr.valueKind }

/-- `sim_scalar_domain_from_field_representation`. -/
def domainOfRepresentation (repr : SimFieldRepresentation) : SimScalarDomain :=
  if repr.valueKind = .realScalar then simScalarDomainF64
  else if repr.valueKind.isComplexValued then simScalarDomainC64
  else simScalarDomainUnknown

/-- `sim_scalar_domain_from_field`. -/
def domain (field : SimField D) : SimScalarDomain :=
  if !field.initialized then simScalarDomainUnknown
  else if field.scalarDomain.validate && field.scalarDomain.kind != .unknown then
    field.scalarDomain
  else if (domainOfRepresentation field.representation).kind ≠ .unknown then
    domainOfRepresentation field.representation
  else if field.complexMode then simScalarDomainC64
  else if field.elementSize = 8 then simScalarDomainF64
  else if field.elementSize = 16 then simScalarDomainC64
  else simScalarDomainUnknown

/-- `sim_field_element_count` of a shape, a product in `size_t`. -/
def elementCount (shape : List ℕ) : ℕ :=
  if shape = [] ∨ 0 ∈ shape then 0 else shape.foldl (fun n extent => n * extent % 2 ^ 64) 1

/-- `sim_field_bytes`. -/
def bytes (field : SimField D) : ℕ :=
  if !field.initialized then 0 else elementCount field.shape * field.elementSize % 2 ^ 64

/-- `sim_field_data`. -/
def buffer (field : SimField D) : Option (FieldData D) :=
  if !field.initialized then none else field.data

end SimField

section Lanes

variable {D : Type} [CDouble D]

/-- Lane `k` of a buffer read as `double`. -/
def FieldData.lane : FieldData D → ℕ → D
  | .lanes lane, k => lane k
  | .words word, k => CDouble.ofBits (word k)

/-- Element `k` of a buffer read as raw bits. -/
def FieldData.word : FieldData D → ℕ → BitVec 64
  | .lanes lane, k => CDouble.toBits (lane k)
  | .words word, k => word k

/-- Write lane `k`, all lanes being read as `double` before and after. -/
def FieldData.setLane (data : FieldData D) (k : ℕ) (value : D) : FieldData D :=
  .lanes (Function.update data.lane k value)

/-- Write element `k` as raw bits. -/
def FieldData.setWord (data : FieldData D) (k : ℕ) (value : BitVec 64) : FieldData D :=
  .words (Function.update data.word k value)

@[simp]
theorem FieldData.lane_setLane (data : FieldData D) (k j : ℕ) (value : D) :
    (data.setLane k value).lane j = if j = k then value else data.lane j := by
  simp [setLane, lane, Function.update_apply]

@[simp]
theorem FieldData.word_setWord (data : FieldData D) (k j : ℕ) (raw : BitVec 64) :
    (data.setWord k raw).word j = if j = k then raw else data.word j := by
  simp [setWord, word, Function.update_apply]

/-- Store a row of lanes from a lane on. -/
def FieldData.storeRow (data : FieldData D) : ℕ → List D → FieldData D
  | _, [] => data
  | k, value :: row => (data.setLane k value).storeRow (k + 1) row

theorem FieldData.lane_storeRow (data : FieldData D) (k : ℕ) (row : List D) (i : ℕ) :
    (data.storeRow k row).lane i = if k ≤ i then row.getD (i - k) (data.lane i) else data.lane i := by
  induction row generalizing data k with
  | nil => simp [storeRow]
  | cons value row ih =>
      rw [storeRow, ih, FieldData.lane_setLane]
      rcases Nat.lt_trichotomy i k with hLt | hEq | hGt
      · rw [if_neg (by omega), if_neg (Nat.ne_of_lt hLt), if_neg (by omega)]
      · rw [if_neg (by omega), if_pos hEq, if_pos (by omega), hEq, Nat.sub_self]
        rfl
      · rw [if_pos (by omega), if_neg (Nat.ne_of_gt hGt), if_pos (by omega),
          show i - k = (i - (k + 1)) + 1 by omega]
        rfl

end Lanes

end Oakfield
