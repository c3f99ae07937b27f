import Oakfield.Field.Init

/-! Changes of the element type of a field: representation, scalar domain and
promotion to complex storage. -/
namespace Oakfield

open KernelIR

/-- The result code of a call, and the field it leaves. -/
abbrev FieldCall (D : Type) := SimField D × Except SimError Unit

namespace SimField

variable {D : Type}

/-- `sim_field_storage_is_complex`. -/
def storageIsComplex (field : SimField D) : Bool :=
  field.initialized && decide (field.elementSize = 16)

/-- `sim_field_real_data`. -/
def realData (field : SimField D) : Option (FieldData D) :=
  if !field.initialized then none
  else if field.domain.kind = .integer ∨ field.domain.kind = .modular ∨
      field.domain.isComplex ∨ field.elementSize = 0 ∨ field.elementSize % 8 ≠ 0 then none
  else field.data

/-- `sim_field_complex_data`. -/
def complexData (field : SimField D) : Option (FieldData D) :=
  if !field.initialized || !field.storageIsComplex then none else field.data

/-- `sim_field_complex_mode`. -/
def complexModeSet (field : SimField D) : Bool :=
  if !field.initialized then false
  else field.representation.valueKind.isComplexValued || field.complexMode

/-- `sim_field_validate_representation`. -/
def validateRepresentation (field : SimField D) (repr : SimFieldRepresentation) :
    Except SimError Unit :=
  if !field.initialized then .error .invalidArgument
  else if repr.domain = .hybrid then .error .notSupported
  else if repr.domain = .unknown then .error .invalidArgument
  else if repr.valueKind = .unknown then .error .invalidArgument
  else if repr.valueKind = .complexRealConstraint ∧ repr.domain ≠ .spectral then
    .error .invalidArgument
  else if repr.domain = .spectral ∧ repr.valueKind = .realScalar then .error .typeMismatch
  else if field.scalarDomain.validate ∧ field.scalarDomain.kind ≠ .unknown ∧
      field.scalarDomain.isComplex ≠ repr.valueKind.isComplexValued then .error .typeMismatch
  else if repr.valueKind.isComplexValued ≠ field.storageIsComplex then .error .typeMismatch
  else .ok ()

/-- `sim_field_set_representation`. -/
def setRepresentation (repr : SimFieldRepresentation) (field : SimField D) : FieldCall D :=
  if !field.initialized then (field, .error .invalidArgument)
  else
    match field.validateRepresentation repr with
    | .error failure => (field, .error failure)
    | .ok _ =>
        ({ field with repr := repr, complexMode := repr.valueKind.isComplexValued }, .ok ())

/-- `sim_field_set_scalar_domain`. -/
def setScalarDomain (domain : SimScalarDomain) (field : SimField D) : FieldCall D :=
  if !field.initialized || !domain.validate then (field, .error .invalidArgument)
  else if domain.kind ≠ .unknown ∧ !domain.matchesStorage field.elementSize then
    (field, .error .typeMismatch)
  else if domain.kind ≠ .unknown ∧
      domain.isComplex ≠ field.representation.valueKind.isComplexValued then
    (field, .error .typeMismatch)
  else ({ field with scalarDomain := domain }, .ok ())

/-- `sim_field_promotion_source_domain`. -/
def promotionSourceDomain (field : SimField D) : SimScalarDomain :=
  if !field.initialized then simScalarDomainUnknown
  else if (domainOfRepresentation field.representation).kind ≠ .unknown then
    domainOfRepresentation field.representation
  else simFieldDefaultScalarDomain field.elementSize

/-- Both promotion functions accept real, complex and unknown source algebras. -/
def promotable (field : SimField D) : Bool :=
  match field.promotionSourceDomain.kind with
  | .real | .complex | .unknown => true
  | .integer | .modular => false

/-- The representation written by both promotion functions. -/
def complexRepresentation (field : SimField D) : SimFieldRepresentation :=
  let repr := field.representation
  { domain := if repr.domain = .unknown then .physical else repr.domain
    valueKind := if repr.valueKind.isComplexValued then repr.valueKind else .complexScalar }

/-- Copy of real elements into complex ones. -/
def interleave [CDouble D] (data : FieldData D) : FieldData D :=
  .lanes fun k => if k % 2 = 0 then data.lane (k / 2) else CDouble.zero

/-- The assignments at the end of both promotion functions. -/
def describeComplex (field : SimField D) : SimField D :=
  let repr := field.complexRepresentation
  { field with
    repr := repr
    complexMode := repr.valueKind.isComplexValued
    scalarDomain := simScalarDomainC64 }

/-- `sim_field_promote_inplace_to_complex`; `allocate` grants or refuses the
complex buffer. -/
def promoteInplaceToComplex [CDouble D] (allocate : ℕ → Bool) (field : SimField D) :
    FieldCall D :=
  match field.initialized, field.data with
  | false, _ | _, none => (field, .error .invalidArgument)
  | true, some data =>
      let n := elementCount field.shape
      if field.elementSize = 16 then (field, .ok ())
      else if n = 0 then (field, .ok ())
      else if !field.contiguous then (field, .error .invalidState)
      else if !field.promotable then (field, .error .dependencyError)
      else if field.elementSize ≠ 8 then (field, .error .dependencyError)
      else if !allocate (n * 16 % 2 ^ 64) then (field, .error .outOfMemory)
      else
        ({ field with data := some (interleave data), elementSize := 16 }.describeComplex, .ok ())

/-- `sim_field_require_complex`. -/
def requireComplex [CDouble D] (allocate : ℕ → Bool) (field : SimField D) : FieldCall D :=
  match field.initialized, field.data with
  | false, _ | _, none => (field, .error .invalidArgument)
  | true, some _ =>
      if !field.promotable then (field, .error .dependencyError)
      else if field.storageIsComplex then (field.describeComplex, .ok ())
      else
        match field.promoteInplaceToComplex allocate with
        | (field, .error failure) => (field, .error failure)
        | (field, .ok _) => (field.describeComplex, .ok ())

end SimField

/-- `sim_field_init_typed`. -/
def simFieldInitTyped {D : Type} (heap : Heap) (shape : List ℕ) (domain : SimScalarDomain)
    (allocator : Option SimFieldAllocator) : Except SimError (SimField D) :=
  let elementSize := simFieldElementSizeForScalarDomain domain
  if !domain.validate || domain.kind == .unknown then .error .invalidArgument
  else if elementSize = 0 then .error .notSupported
  else
    match simFieldInit heap shape elementSize allocator with
    | .error failure => .error failure
    | .ok field =>
        match field.setScalarDomain domain with
        | (_, .error failure) => .error failure
        | (field, .ok _) => .ok field

end Oakfield
