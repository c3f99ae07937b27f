import Oakfield.Operators.FftPlan
import Oakfield.Operators.MinimalConvolution

/-! What the linear spectral operators have in common: wave numbers, plans and their work arrays,
and the pass through the modes of a field. -/
namespace Oakfield

open KernelIR CDouble

variable {D : Type} [CDouble D]

/-! ### Wave numbers -/

/-- `linear_dissipative_axis_index`, `dispersion_axis_index` and `linear_spectral_axis_index`. -/
def spectralAxisIndex (index count : ℕ) : D :=
  if index ≤ count / 2 then doubleOfUint index else neg (doubleOfUint (count - index))

/-- `linear_dissipative_resolve_spacing`, `dispersion_resolve_spacing` and `resolve_spacing`. -/
def spectralResolveSpacing (spacing : D) : D :=
  if gt spacing zero && isfinite spacing then spacing else one

/-- The wave number of the first mode along an axis. -/
def spectralBaseK (spacing : D) (extent : ℕ) : D :=
  let length := mul spacing (doubleOfUint extent)
  if 0 < extent ∧ gt length zero then div (mul two pi) length else zero

/-- The absolute wave number of a mode; the modes of a field of one axis are one row. -/
def spectralWaveNumber (rank : ℕ) (spacing : D) (height width y x : ℕ) : D :=
  let spacing := spectralResolveSpacing spacing
  let kx := mul (spectralAxisIndex x width) (spectralBaseK spacing width)
  if rank = 1 then fabs kx
  else
    let ky := mul (spectralAxisIndex y height) (spectralBaseK spacing height)
    sqrt (add (mul kx kx) (mul ky ky))

/-! ### Fields -/

/-- `linear_dissipative_describe_field` and its siblings: the representation of a field, and
whether its storage is complex. -/
def spectralDescribeField (field : SimField D) :
    Except SimError (SimFieldRepresentation × Bool) :=
  if field.elementSize ≠ (if field.storageIsComplex then 16 else 8) then .error .typeMismatch
  else .ok (field.representation, field.storageIsComplex)

/-- `sim_field_representation_has_imag_zero_constraint`. -/
def SimFieldRepresentation.hasImagZeroConstraint (repr : SimFieldRepresentation) : Bool :=
  decide (repr.valueKind = .complexImagZeroConstraint)

/-- `sim_field_representation_has_spectral_real_constraint`. -/
def SimFieldRepresentation.hasSpectralRealConstraint (repr : SimFieldRepresentation) : Bool :=
  decide (repr.domain = .spectral ∧ repr.valueKind = .complexRealConstraint)

/-- The extents and the strides of a layout; one axis is a plane of one row. -/
def spectralPlane (shape strides : List ℕ) : Option PlaneLayout :=
  match shape, strides with
  | [rows], [stride0] => some ⟨rows, 1, stride0, 0⟩
  | [rows, cols], [stride0, stride1] => some ⟨cols, rows, stride1, stride0⟩
  | _, _ => none

/-- The positions of its elements in the work arrays. -/
def PlaneLayout.packed (plane : PlaneLayout) : PlaneLayout :=
  ⟨plane.width, plane.height, 1, plane.width⟩

/-- The pointer to the elements. -/
def spectralData (isComplex : Bool) (field : SimField D) : Option (FieldData D) :=
  if isComplex then field.complexData else field.realData

/-- The elements as complex numbers, `CMPLX(data[idx], 0.0)` in real storage, and the lanes in
which they are stored. -/
def spectralRead (isComplex : Bool) (lane : ℕ → D) : ComplexArray D :=
  if isComplex then complexSamples.read lane else fun i => ⟨lane i, zero⟩

def spectralLanes (isComplex : Bool) (values : ComplexArray D) : ℕ → D :=
  if isComplex then complexSamples.lanes values else fun k => (values k).re

/-- A value whose imaginary part is left out under a constraint. -/
def SimComplexDouble.constrained (imagZero : Bool) (value : SimComplexDouble D) :
    SimComplexDouble D :=
  ⟨value.re, if imagZero then CDouble.zero else value.im⟩

/-! ### Plans and work arrays -/

/-- The plans and the work arrays in the state of an operator; a destroyed plan is `none`. -/
structure SpectralWork (D : Type) where
  capacity : ℕ
  plan : Option (FFTPlan D)
  plan2d : Option (FFTPlan2D D)
  planRank : ℕ
  planRows : ℕ
  planCols : ℕ
  timeBuffer : Option (ComplexArray D)
  freqBuffer : Option (ComplexArray D)

namespace SpectralWork

/-- The work of a new operator. -/
def empty : SpectralWork D := ⟨0, none, none, 0, 0, 0, none, none⟩

variable (work : SpectralWork D)

/-- `shape_match` and the comparison of the capacity. -/
def fits (shape : List ℕ) : Bool :=
  decide (work.capacity = SimField.elementCount shape ∧ work.planRank = shape.length ∧
    work.planRows = shape.getD 0 0 ∧ (shape.length = 1 ∨ work.planCols = shape.getD 1 0))

/-- The work without its plans and arrays. -/
def dropped : SpectralWork D :=
  { work with plan := none, plan2d := none, timeBuffer := none, freqBuffer := none }

/-- The plan for a layout. A number of elements for which there is none does not fit into
memory. -/
def initPlan (heap : Heap) (shape : List ℕ) : Except SimError (SpectralWork D) :=
  if shape.length = 1 then
    match fftPlanInit heap (SimField.elementCount shape) with
    | some (.ok plan) => .ok { work with plan := some plan }
    | some (.error failure) => .error failure
    | none => .error .outOfMemory
  else
    match fftPlan2dInit heap (shape.getD 0 0) (shape.getD 1 0) (shape.getD 1 0) 1 with
    | some (.ok plan) => .ok { work with plan2d := some plan }
    | some (.error failure) => .error failure
    | none => .error .outOfMemory

/-- The work after its arrays have been allocated for a layout. -/
def sized (shape : List ℕ) : SpectralWork D :=
  { work with
    capacity := SimField.elementCount shape
    planRank := shape.length
    planRows := shape.getD 0 0
    planCols := if shape.length = 2 then shape.getD 1 0 else 0
    timeBuffer := some fun _ => SimComplexDouble.zero
    freqBuffer := some fun _ => SimComplexDouble.zero }

/-- `fft_plan_forward` and `fft_plan_inverse`, or those of the plan for planes. -/
def transform (rank : ℕ) (inverse : Bool) (input output : ComplexArray D) :
    Except SimError (ComplexArray D) :=
  if rank = 1 then
    match work.plan with
    | some plan => fftPlanLine plan inverse input output
    | none => .error .invalidArgument
  else
    match work.plan2d with
    | some plan => fftPlan2dExecute plan inverse false input output
    | none => .error .invalidArgument

/-- The branch for fields which are not spectral: the elements are gathered and transformed, their
modes are scaled, and what the inverse transform makes of them is stored. -/
def pass (rank : ℕ) (plane : PlaneLayout) (readImagZero storeImagZero : Bool)
    (scale : ComplexArray D → ComplexArray D) (time freq values : ComplexArray D) :
    SpectralWork D × Except SimError (ComplexArray D) :=
  let time := plane.packed.replace
    (fun y x _ => SimComplexDouble.constrained readImagZero (values (plane.address y x))) time
  match work.transform rank false time freq with
  | .error failure => ({ work with timeBuffer := some time }, .error failure)
  | .ok freq =>
      let freq := scale freq
      match work.transform rank true freq time with
      | .error failure =>
          ({ work with timeBuffer := some time, freqBuffer := some freq }, .error failure)
      | .ok time =>
          ({ work with timeBuffer := some time, freqBuffer := some freq },
            .ok (plane.replace (fun y x _ =>
              SimComplexDouble.constrained storeImagZero (time (plane.packed.address y x))) values))

end SpectralWork

/-- The writes of an operator which leaves values in its field. -/
def spectralWrites (fieldIndex : ℕ) (isComplex : Bool) (field : SimField D)
    (values : ComplexArray D) (k : ℕ) : Option (FieldWrite D) :=
  if k = fieldIndex then
    some ⟨.lanes (spectralLanes isComplex values), field.repr, field.complexMode⟩
  else none

/-- The writes of an operator which has changed the representation of its field only. -/
def spectralKept (fieldIndex : ℕ) (field : SimField D) (k : ℕ) : Option (FieldWrite D) :=
  if k = fieldIndex then field.data.map fun data => ⟨data, field.repr, field.complexMode⟩ else none

/-- The tail of the operators, behind their checks: the branch for spectral fields, whose elements
are the modes, and the pass for the others. -/
def spectralApply {μ : Type} (fieldIndex : ℕ) (isComplex isSpectral : Bool) (field : SimField D)
    (kept : ℕ → Option (FieldWrite D)) (state : μ) (storeWork : SpectralWork D → μ)
    (inPlace : ComplexArray D → ComplexArray D)
    (pass : ComplexArray D → SpectralWork D × Except SimError (ComplexArray D)) :
    CallbackOutcome D μ :=
  match spectralData isComplex field with
  | none => ⟨kept, state, .error .invalidArgument⟩
  | some data =>
      let values := spectralRead isComplex data.lane
      if isSpectral then
        ⟨spectralWrites fieldIndex isComplex field (inPlace values), state, .ok ()⟩
      else
        match pass values with
        | (work, .error failure) => ⟨kept, storeWork work, .error failure⟩
        | (work, .ok values) =>
            ⟨spectralWrites fieldIndex isComplex field values, storeWork work, .ok ()⟩

end Oakfield
