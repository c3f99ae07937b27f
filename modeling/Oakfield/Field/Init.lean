import Oakfield.Field

/-! Creation of fields: layouts, allocation, and the initial description of the
element type. -/
namespace Oakfield

open KernelIR

/-! ### Element types of buffers -/

inductive SimBufferDataType where
  | double
  | complexDouble
  | i8
  | u8
  | i32
  | i64
  | u32
  | u64
  | unknown
deriving DecidableEq, Repr

/-- `sim_buffer_element_size`. -/
def SimBufferDataType.elementSize : SimBufferDataType → ℕ
  | .double => 8
  | .complexDouble => 16
  | .i8 | .u8 => 1
  | .i32 | .u32 => 4
  | .i64 | .u64 => 8
  | .unknown => 0

/-- `sim_buffer_data_type_from_element_size`. -/
def SimBufferDataType.fromElementSize (elementSize : ℕ) : SimBufferDataType :=
  if elementSize = 8 then .double
  else if elementSize = 16 then .complexDouble
  else .unknown

/-- `sim_buffer_data_type_from_scalar_domain`. -/
def SimBufferDataType.fromScalarDomain (domain : SimScalarDomain) : SimBufferDataType :=
  if !domain.validate then .unknown
  else
    match domain.kind with
    | .real => if domain.bitWidth = 64 then .double else .unknown
    | .complex => if domain.bitWidth = 64 then .complexDouble else .unknown
    | .integer =>
        if domain.bitWidth = 8 then if domain.isSigned then .i8 else .u8
        else if domain.bitWidth = 32 then if domain.isSigned then .i32 else .u32
        else if domain.bitWidth = 64 then if domain.isSigned then .i64 else .u64
        else .unknown
    | .unknown | .modular => .unknown

/-- `sim_buffer_data_type_to_scalar_domain`. -/
def SimBufferDataType.toScalarDomain : SimBufferDataType → SimScalarDomain
  | .double => simScalarDomainF64
  | .complexDouble => simScalarDomainC64
  | .i8 => simScalarDomainI8
  | .u8 => simScalarDomainU8
  | .i32 => simScalarDomainI32
  | .i64 => simScalarDomainI64
  | .u32 => simScalarDomainU32
  | .u64 => simScalarDomainU64
  | .unknown => simScalarDomainUnknown

/-- `sim_field_default_scalar_domain`. -/
def simFieldDefaultScalarDomain (elementSize : ℕ) : SimScalarDomain :=
  (SimBufferDataType.fromElementSize elementSize).toScalarDomain

/-- `sim_field_element_size_for_scalar_domain`. -/
def simFieldElementSizeForScalarDomain (domain : SimScalarDomain) : ℕ :=
  (SimBufferDataType.fromScalarDomain domain).elementSize

/-! ### Layouts -/

/-- The C heap, by the byte counts it grants. -/
structure Heap where
  grants : ℕ → Bool

/-- `calloc` refuses counts whose product with the size does not fit. -/
def Heap.calloc (heap : Heap) (count size : ℕ) : Bool :=
  decide (count * size < 2 ^ 64) && heap.grants (count * size)

structure SimFieldLayout where
  shape : List ℕ
  strides : List ℕ
  contiguous : Bool

/-- The stride loop of `sim_field_layout_init`, last axis first: the strides,
and the running product in `size_t`. -/
def layoutStrides : List ℕ → List ℕ × ℕ
  | [] => ([], 1)
  | extent :: shape =>
      let (strides, stride) := layoutStrides shape
      (stride :: strides, stride * (if 0 < extent then extent else 1) % 2 ^ 64)

/-- `sim_field_layout_init`; the rank is the length of the shape. -/
def simFieldLayoutInit (heap : Heap) (shape : List ℕ) : Except SimError SimFieldLayout :=
  if shape = [] then .error .invalidArgument
  else if !heap.calloc shape.length 8 then .error .outOfMemory
  else .ok ⟨shape, (layoutStrides shape).1, true⟩

/-! ### Constructors -/

/-- `SimFieldAllocator`: the byte counts which `allocate` grants, when it is
set, and whether `release` is set. -/
structure SimFieldAllocator where
  allocate : Option (ℕ → Bool)
  release : Bool

/-- `sim_field_allocator_default`. -/
def simFieldAllocatorDefault (heap : Heap) : SimFieldAllocator := ⟨some heap.grants, true⟩

/-- The description of the element type which both constructors derive from
the element size. -/
def SimField.ofElementSize {D : Type} (layout : SimFieldLayout) (elementSize : ℕ)
    (data : FieldData D) : SimField D where
  initialized := true
  shape := layout.shape
  strides := layout.strides
  contiguous := layout.contiguous
  elementSize := elementSize
  data := some data
  complexMode := false
  repr := ⟨.physical, if elementSize = 16 then .complexScalar else .realScalar⟩
  scalarDomain := simFieldDefaultScalarDomain elementSize

/-- `sim_field_init`. The data starts as zero bytes. -/
def simFieldInit {D : Type} (heap : Heap) (shape : List ℕ) (elementSize : ℕ)
    (allocator : Option SimFieldAllocator) : Except SimError (SimField D) :=
  if elementSize = 0 then .error .invalidArgument
  else
    match simFieldLayoutInit heap shape with
    | .error failure => .error failure
    | .ok layout =>
        let allocator := allocator.getD (simFieldAllocatorDefault heap)
        match allocator.allocate with
        | none => .error .invalidArgument
        | some allocate =>
            let totalElements := SimField.elementCount layout.shape
            if !allocator.release then .error .invalidArgument
            else if totalElements = 0 then .error .invalidArgument
            else if (2 ^ 64 - 1) / elementSize < totalElements then .error .invalidArgument
            else if !allocate (totalElements * elementSize % 2 ^ 64) then .error .outOfMemory
            else .ok (SimField.ofElementSize layout elementSize (.words fun _ => 0))

/-- `sim_field_wrap` of a buffer owned by the caller. -/
def simFieldWrap {D : Type} (heap : Heap) (layout : SimFieldLayout) (elementSize : ℕ)
    (data : FieldData D) : Except SimError (SimField D) :=
  if elementSize = 0 then .error .invalidArgument
  else
    match simFieldLayoutInit heap layout.shape with
    | .error failure => .error failure
    | .ok _ => .ok (SimField.ofElementSize layout elementSize data)

/-! ### What the constructors establish -/

section Constructors

variable {D : Type} {heap : Heap} {elementSize : ℕ} {field : SimField D}

theorem simFieldLayoutInit_ok {shape : List ℕ} {layout : SimFieldLayout}
    (hRun : simFieldLayoutInit heap shape = .ok layout) :
    shape ≠ [] ∧ layout = ⟨shape, (layoutStrides shape).1, true⟩ := by
  rw [simFieldLayoutInit] at hRun
  split at hRun
  case isTrue => cases hRun
  case isFalse hRank =>
    split at hRun
    case isTrue => cases hRun
    case isFalse =>
      cases hRun
      exact ⟨hRank, rfl⟩

/-- A created field is described by its element size, and its byte count, the
amount passed to the allocator, did not wrap. -/
theorem simFieldInit_ok {shape : List ℕ} {allocator : Option SimFieldAllocator}
    (hRun : simFieldInit heap shape elementSize allocator = .ok field) :
    elementSize ≠ 0 ∧ shape ≠ [] ∧ SimField.elementCount shape ≠ 0 ∧
      SimField.elementCount shape ≤ (2 ^ 64 - 1) / elementSize ∧
      field = SimField.ofElementSize ⟨shape, (layoutStrides shape).1, true⟩ elementSize
        (.words fun _ => 0) := by
  rw [simFieldInit] at hRun
  split at hRun
  case isTrue => cases hRun
  case isFalse hSize =>
    split at hRun
    case h_1 => cases hRun
    case h_2 layout hLayout =>
      obtain ⟨hRank, rfl⟩ := simFieldLayoutInit_ok hLayout
      dsimp only at hRun
      split at hRun
      case h_1 => cases hRun
      case h_2 =>
        split_ifs at hRun with hRelease hCount hBytes hGranted
        cases hRun
        exact ⟨hSize, hRank, hCount, Nat.le_of_not_lt hBytes, rfl⟩

theorem simFieldWrap_ok {layout : SimFieldLayout} {data : FieldData D}
    (hRun : simFieldWrap heap layout elementSize data = .ok field) :
    elementSize ≠ 0 ∧ layout.shape ≠ [] ∧
      field = SimField.ofElementSize layout elementSize data := by
  rw [simFieldWrap] at hRun
  split at hRun
  case isTrue => cases hRun
  case isFalse hSize =>
    split at hRun
    case h_1 => cases hRun
    case h_2 hLayout =>
      cases hRun
      exact ⟨hSize, (simFieldLayoutInit_ok hLayout).1, rfl⟩

end Constructors

end Oakfield
