import Oakfield.Operators.SpectralApply

/-! The `linear_dissipative` operator: every mode decays at the rate of a power of its wave
number. -/
namespace Oakfield

open KernelIR Library Library.SpectralFlow

section Code

open CDouble

variable {D : Type} [CDouble D]

/-! ### Configuration -/

structure LinearDissipativeOperatorConfig (D : Type) where
  fieldIndex : ℕ
  viscosity : D
  alpha : D
  spacing : D

namespace LinearDissipativeOperatorConfig

variable (config : LinearDissipativeOperatorConfig D)

/-- The checks of `sim_add_linear_dissipative_operator` and `sim_linear_dissipative_update`. -/
def normalize : LinearDissipativeOperatorConfig D :=
  { config with
    alpha := if le config.alpha zero then two else config.alpha
    spacing := if le config.spacing zero then one else config.spacing }

/-- An entry of `lambda`. -/
def lambda (rank height width y x : ℕ) : D :=
  let k := spectralWaveNumber rank config.spacing height width y x
  mul config.viscosity
    (if gt k zero && gt config.alpha zero then neg (pow k config.alpha) else zero)

end LinearDissipativeOperatorConfig

/-! ### State -/

/-- `LinearDissipativeOperatorState`, without the cache of the kernel path. -/
structure LinearDissipativeOperatorState (D : Type) where
  config : LinearDissipativeOperatorConfig D
  work : SpectralWork D
  lambda : Option (ℕ → D)
  lambdaDirty : Bool

namespace LinearDissipativeOperatorState

/-- The state which `sim_add_linear_dissipative_operator` registers. -/
def added (config : LinearDissipativeOperatorConfig D) : LinearDissipativeOperatorState D :=
  ⟨config.normalize, .empty, none, true⟩

variable (state : LinearDissipativeOperatorState D)

/-- `sim_linear_dissipative_update`, with the configuration if there is one. -/
def update (config : Option (LinearDissipativeOperatorConfig D)) :
    LinearDissipativeOperatorState D :=
  { state with config := (config.getD state.config).normalize, lambdaDirty := true }

/-- `linear_dissipative_ensure_capacity`. A refused aligned allocation leaves a null pointer. -/
def ensureCapacity (heap : Heap) (shape : List ℕ) :
    LinearDissipativeOperatorState D × Except SimError Unit :=
  let count := SimField.elementCount shape
  if shape = [] ∨ 2 < shape.length then (state, .error .notSupported)
  else if count = 0 then
    ({ state with work := .empty, lambda := none, lambdaDirty := true }, .ok ())
  else if state.work.fits shape then (state, .ok ())
  else
    let failed := { state with work := { state.work.dropped with capacity := 0 } }
    if !heap.grants (count * 8 % 2 ^ 64) && !heap.calloc count 8 then (failed, .error .outOfMemory)
    else if !heap.calloc count 16 then (failed, .error .outOfMemory)
    else
      match state.work.dropped.initPlan heap shape with
      | .error failure => (failed, .error failure)
      | .ok work =>
          ({ state with
            work := work.sized shape
            lambda := some fun _ => zero
            lambdaDirty := true }, .ok ())

/-- `linear_dissipative_update_lambda`. -/
def updateLambda (rank : ℕ) (plane : PlaneLayout) : LinearDissipativeOperatorState D :=
  match state.lambda with
  | none => state
  | some lambda =>
      { state with
        lambda := some (plane.packed.replace
          (fun y x _ => state.config.lambda rank plane.height plane.width y x) lambda)
        lambdaDirty := false }

/-- The decay of an element of a spectral field. -/
def damp (lambda : ℕ → D) (imagZero : Bool) (dt : D) (p : ℕ) (value : SimComplexDouble D) :
    SimComplexDouble D :=
  let factor := exp (mul dt (lambda p))
  ⟨mul value.re factor, if imagZero then zero else mul value.im factor⟩

/-- The loop over the modes of a field which is not spectral. -/
def scaleModes (lambda : ℕ → D) (count : ℕ) (dt : D) (freq : ComplexArray D) : ComplexArray D :=
  fun i =>
    if i < count then SimComplexDouble.timesReal (freq i) (exp (mul dt (lambda i))) else freq i

end LinearDissipativeOperatorState

/-! ### Application -/

/-- `linear_dissipative_apply`. A layout has as many strides as extents. -/
def linearDissipativeApply (heap : Heap) (dt : D) :
    Callback D (LinearDissipativeOperatorState D) := fun fields _ state =>
  let unchanged (state : LinearDissipativeOperatorState D) (result : Except SimError Unit) :
      CallbackOutcome D (LinearDissipativeOperatorState D) := ⟨fun _ => none, state, result⟩
  if eq state.config.viscosity zero then unchanged state (.ok ())
  else
    match fields[state.config.fieldIndex]? with
    | none => unchanged state (.error .invalidArgument)
    | some field =>
        match spectralDescribeField field with
        | .error failure => unchanged state (.error failure)
        | .ok (repr, needsComplex) =>
            let imagZero := repr.hasImagZeroConstraint
            let count := SimField.elementCount field.shape
            if count = 0 then unchanged state (.ok ())
            else
              match spectralPlane field.shape field.strides with
              | none => unchanged state (.error .notSupported)
              | some plane =>
                  match state.ensureCapacity heap field.shape with
                  | (state, .error failure) => unchanged state (.error failure)
                  | (state, .ok _) =>
                      let state :=
                        if state.lambdaDirty then state.updateLambda field.shape.length plane
                        else state
                      match state.lambda, state.work.timeBuffer, state.work.freqBuffer with
                      | some lambda, some time, some freq =>
                          spectralApply state.config.fieldIndex needsComplex
                            (decide (repr.domain = .spectral)) field (fun _ => none) state
                            (fun work => { state with work := work })
                            (plane.replace fun y x =>
                              LinearDissipativeOperatorState.damp lambda imagZero dt
                                (plane.packed.address y x))
                            (state.work.pass field.shape.length plane imagZero imagZero
                              (LinearDissipativeOperatorState.scaleModes lambda count dt) time freq)
                      | _, _, _ => unchanged state (.error .outOfMemory)

end Code

/-! ### Memory -/

namespace LinearDissipativeOperatorState

variable {D : Type} [CDouble D] {state : LinearDissipativeOperatorState D}

/-- What every call keeps: plans and arrays are there for the shape on record, and a table which
is not to be renewed holds the rates of the configuration. -/
structure Sound (state : LinearDissipativeOperatorState D) : Prop where
  work : state.work.Sound
  lambda : state.work.capacity ≠ 0 → ∃ table, state.lambda = some table ∧
    (state.lambdaDirty = false → HoldsRates state.work state.config.lambda table)

theorem sound_of_capacity (hNone : state.work.capacity = 0) : state.Sound :=
  ⟨SpectralWork.sound_of_capacity hNone, fun hSome => absurd hNone hSome⟩

theorem Sound.update (hSound : state.Sound) (config : Option (LinearDissipativeOperatorConfig D)) :
    (state.update config).Sound := by
  refine ⟨hSound.work, fun hSome => ?_⟩
  obtain ⟨table, hTable, -⟩ := hSound.lambda hSome
  exact ⟨table, hTable, fun hClean => absurd hClean.symm Bool.false_ne_true⟩

/-- What a call keeps of a state. -/
def Kept (state after : LinearDissipativeOperatorState D) : Prop :=
  after.Sound ∧ after.config = state.config

end LinearDissipativeOperatorState

/-! ### Application -/

section Application

variable [CDouble ℝ] [ExactDouble ℝ] [ExactPower ℝ] [ExactAnalysis]

/-- The rates at which the modes grow. -/
def LinearDissipativeOperatorConfig.rate (config : LinearDissipativeOperatorConfig ℝ) (rank : ℕ)
    (plane : PlaneLayout) (k : Fin plane.height × Fin plane.width) : ℂ :=
  (config.lambda rank plane.height plane.width k.1 k.2 : ℝ)

namespace LinearDissipativeOperatorConfig

variable (config : LinearDissipativeOperatorConfig ℝ) (rank : ℕ) (plane : PlaneLayout)

end LinearDissipativeOperatorConfig

variable {state : LinearDissipativeOperatorState ℝ} {fields : List (SimField ℝ)}
variable {field : SimField ℝ} {isComplex : Bool} {plane : PlaneLayout}

end Application

end Oakfield
