import Oakfield.Operators.SpectralApply

/-! The `dispersion` operator: every mode turns at a rate which depends on its wave number. -/
namespace Oakfield

open KernelIR Library Library.SpectralFlow

section Code

open CDouble

variable {D : Type} [CDouble D]

/-! ### Configuration -/

structure DispersionOperatorConfig (D : Type) where
  fieldIndex : ℕ
  coefficient : D
  order : D
  spacing : D
  referenceK : D

namespace DispersionOperatorConfig

variable (config : DispersionOperatorConfig D)

/-- The checks of `sim_add_dispersion_operator`, and those of `sim_dispersion_update`, which fall
back to the values in use. -/
def normalize (fallback : DispersionOperatorConfig D) : DispersionOperatorConfig D :=
  { config with
    coefficient := if isfinite config.coefficient then config.coefficient else fallback.coefficient
    order :=
      if !isfinite config.order || lt config.order zero then fallback.order else config.order
    spacing := if le config.spacing zero then fallback.spacing else config.spacing
    referenceK :=
      if !isfinite config.referenceK || lt config.referenceK zero then fallback.referenceK
      else config.referenceK }

/-- The values which `sim_add_dispersion_operator` falls back to. -/
def defaults : DispersionOperatorConfig D := ⟨0, zero, one, one, zero⟩

/-- `dispersion_has_phase_term`. -/
def hasPhaseTerm : Bool := ne config.coefficient zero

/-- The angle by which a mode turns. -/
def phase (rank height width : ℕ) (dtSafe : D) (y x : ℕ) : D :=
  let kAbs := spectralWaveNumber rank config.spacing height width y x
  mul (mul dtSafe config.coefficient) (pow (fabs (sub kAbs config.referenceK)) config.order)

end DispersionOperatorConfig

/-! ### State -/

/-- `DispersionState`, without the cache of the kernel path. -/
structure DispersionState (D : Type) where
  config : DispersionOperatorConfig D
  work : SpectralWork D

namespace DispersionState

/-- The state which `sim_add_dispersion_operator` registers. -/
def added (config : DispersionOperatorConfig D) : DispersionState D :=
  ⟨config.normalize .defaults, .empty⟩

variable (state : DispersionState D)

/-- `sim_dispersion_update`: the configuration is stored before the field is looked at. -/
def update (fields : List (SimField D)) (config : DispersionOperatorConfig D) :
    DispersionState D × Except SimError Unit :=
  let state := { state with config := config.normalize state.config }
  match fields[state.config.fieldIndex]? with
  | none => (state, .error .invalidArgument)
  | some field => (state, (spectralDescribeField field).map fun _ => ())

/-- `dispersion_ensure_capacity`. -/
def ensureCapacity (heap : Heap) (shape : List ℕ) : DispersionState D × Except SimError Unit :=
  let count := SimField.elementCount shape
  if shape = [] ∨ 2 < shape.length then (state, .error .notSupported)
  else if state.work.fits shape then (state, .ok ())
  else
    let failed := { state with work := .empty }
    if count = 0 then (failed, .ok ())
    else
      match SpectralWork.empty.initPlan heap shape with
      | .error failure => (failed, .error failure)
      | .ok work =>
          if !heap.calloc count 16 then (failed, .error .outOfMemory)
          else ({ state with work := work.sized shape }, .ok ())

/-- `dispersion_output_value_kind`. -/
def outputValueKind (repr : SimFieldRepresentation) (needsComplex : Bool) : SimFieldValueKind :=
  if repr.valueKind = .unknown then if needsComplex then .complexScalar else .realScalar
  else if repr.hasImagZeroConstraint && state.config.hasPhaseTerm then .complexScalar
  else repr.valueKind

/-- The turn of an element of a spectral field, whose storage is complex. -/
def turn (phase : D) (projectReal imagZero : Bool) (value : SimComplexDouble D) :
    SimComplexDouble D :=
  if projectReal then
    let scale := cos phase
    ⟨mul value.re scale, mul (if imagZero then zero else value.im) scale⟩
  else SimComplexDouble.times (SimComplexDouble.constrained imagZero value)
    (SimComplexDouble.cis phase)

/-- A mode of a field which is not spectral. -/
def scaleMode (phase : D) (projectReal : Bool) (mode : SimComplexDouble D) : SimComplexDouble D :=
  if projectReal then SimComplexDouble.timesReal mode (cos phase)
  else SimComplexDouble.times mode (SimComplexDouble.cis phase)

end DispersionState

/-! ### Application -/

/-- `dispersion_apply`, behind the change of the representation. The constraint is the one of the
field before that. A spectral field in real storage is left alone. -/
def dispersionApplyTo (heap : Heap) (dtSafe : D) (field : SimField D)
    (kept : ℕ → Option (FieldWrite D)) (repr : SimFieldRepresentation)
    (needsComplex projectReal imagZero : Bool) (plane : PlaneLayout) (state : DispersionState D) :
    CallbackOutcome D (DispersionState D) :=
  let rank := field.shape.length
  let phase := state.config.phase rank plane.height plane.width dtSafe
  if repr.domain = .spectral then
    if !needsComplex then ⟨kept, state, .ok ()⟩
    else
      spectralApply state.config.fieldIndex true true field kept state
        (fun work => { state with work := work })
        (plane.replace fun y x => DispersionState.turn (phase y x) projectReal imagZero)
        fun values => (state.work, .ok values)
  else
    match state.ensureCapacity heap field.shape with
    | (state, .error failure) => ⟨kept, state, .error failure⟩
    | (state, .ok _) =>
        match state.work.timeBuffer, state.work.freqBuffer with
        | some time, some freq =>
            spectralApply state.config.fieldIndex needsComplex false field kept state
              (fun work => { state with work := work }) id
              (state.work.pass rank plane imagZero false
                (plane.packed.replace fun y x =>
                  DispersionState.scaleMode (phase y x) projectReal) time freq)
        | _, _ => ⟨kept, state, .error .outOfMemory⟩

/-- `dispersion_apply`. A layout has as many strides as extents. -/
def dispersionApply (heap : Heap) (dt : D) : Callback D (DispersionState D) :=
    fun fields _ state =>
  let unchanged (result : Except SimError Unit) : CallbackOutcome D (DispersionState D) :=
    ⟨fun _ => none, state, result⟩
  match fields[state.config.fieldIndex]? with
  | none => unchanged (.error .invalidArgument)
  | some field =>
      match spectralDescribeField field with
      | .error failure => unchanged (.error failure)
      | .ok (repr, needsComplex) =>
          let projectReal := !needsComplex || repr.hasSpectralRealConstraint
          let imagZero := repr.hasImagZeroConstraint
          let dtSafe := if isfinite dt then dt else zero
          if SimField.elementCount field.shape = 0 then unchanged (.ok ())
          else if eq state.config.coefficient zero then unchanged (.ok ())
          else
            match spectralPlane field.shape field.strides with
            | none => unchanged (.error .notSupported)
            | some plane =>
                let updated : SimFieldRepresentation :=
                  { repr with valueKind := state.outputValueKind repr needsComplex }
                if imagZero ∧ updated.valueKind ≠ repr.valueKind then
                  match field.setRepresentation updated with
                  | (_, .error failure) => unchanged (.error failure)
                  | (field, .ok _) =>
                      dispersionApplyTo heap dtSafe field
                        (spectralKept state.config.fieldIndex field) updated needsComplex
                        projectReal imagZero plane state
                else
                  dispersionApplyTo heap dtSafe field (fun _ => none) repr needsComplex projectReal
                    imagZero plane state

end Code

/-! ### Memory -/

namespace DispersionState

variable {D : Type} [CDouble D] {state : DispersionState D}

/-- What a call keeps of a state. -/
def Kept (state after : DispersionState D) : Prop := after.work.Sound ∧ after.config = state.config

end DispersionState

/-! ### Application -/

section Application

variable [CDouble ℝ] [ExactDouble ℝ] [ExactPower ℝ] [ExactAnalysis]

/-- The rates at which the modes grow: they turn. -/
noncomputable def DispersionOperatorConfig.rate (config : DispersionOperatorConfig ℝ) (rank : ℕ)
    (plane : PlaneLayout) (k : Fin plane.height × Fin plane.width) : ℂ :=
  (config.phase rank plane.height plane.width 1 k.1 k.2 : ℝ) * Complex.I

namespace DispersionOperatorConfig

variable (config : DispersionOperatorConfig ℝ) (rank : ℕ) (plane : PlaneLayout)

end DispersionOperatorConfig

variable {state : DispersionState ℝ} {fields : List (SimField ℝ)} {field changed : SimField ℝ}
variable {isComplex : Bool} {plane : PlaneLayout}

end Application

end Oakfield
