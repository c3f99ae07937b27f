import Oakfield.Operators.SpectralApply

/-! The `linear_spectral_fusion` operator: decay, dispersion and a common phase in one pass. -/
namespace Oakfield

open KernelIR Library Library.SpectralFlow

section Code

open CDouble

variable {D : Type} [CDouble D]

/-! ### Configuration -/

structure LinearSpectralFusionOperatorConfig (D : Type) where
  fieldIndex : ℕ
  viscosity : D
  alpha : D
  dissipationSpacing : D
  dispersionCoefficient : D
  dispersionOrder : D
  dispersionReferenceK : D
  dispersionSpacing : D
  phaseRate : D

namespace LinearSpectralFusionOperatorConfig

variable (config : LinearSpectralFusionOperatorConfig D)

/-- `linear_spectral_normalize_config` of a given configuration. -/
def normalize (fallback : LinearSpectralFusionOperatorConfig D) :
    LinearSpectralFusionOperatorConfig D :=
  let rate (value fallback : D) : D := if !isfinite value then fallback else value
  let nonNegative (value fallback : D) : D :=
    if !isfinite value || lt value zero then fallback else value
  let positive (value fallback : D) : D :=
    if !isfinite value || le value zero then fallback else value
  { config with
    viscosity := rate config.viscosity fallback.viscosity
    alpha := nonNegative config.alpha fallback.alpha
    dissipationSpacing := positive config.dissipationSpacing fallback.dissipationSpacing
    dispersionCoefficient := rate config.dispersionCoefficient fallback.dispersionCoefficient
    dispersionOrder := nonNegative config.dispersionOrder fallback.dispersionOrder
    dispersionSpacing := positive config.dispersionSpacing fallback.dispersionSpacing
    dispersionReferenceK := nonNegative config.dispersionReferenceK fallback.dispersionReferenceK
    phaseRate := rate config.phaseRate fallback.phaseRate }

/-- What it falls back to without another configuration. -/
def defaults : LinearSpectralFusionOperatorConfig D :=
  ⟨0, zero, two, one, zero, one, zero, one, zero⟩

/-- `linear_spectral_has_phase_term`. -/
def hasPhaseTerm : Bool := ne config.dispersionCoefficient zero || ne config.phaseRate zero

/-- An entry of `lambda`. -/
def lambda (rank height width y x : ℕ) : D :=
  let k := spectralWaveNumber rank config.dissipationSpacing height width y x
  mul config.viscosity
    (if gt k zero && ge config.alpha zero && isfinite config.alpha then neg (pow k config.alpha)
      else zero)

/-- An entry of `omega`. -/
def omega (rank height width y x : ℕ) : D :=
  let referenceK :=
    if isfinite config.dispersionReferenceK && ge config.dispersionReferenceK zero then
      config.dispersionReferenceK
    else zero
  let k := spectralWaveNumber rank config.dispersionSpacing height width y x
  let omega :=
    mul config.dispersionCoefficient (pow (fabs (sub k referenceK)) config.dispersionOrder)
  if isfinite omega then omega else zero

end LinearSpectralFusionOperatorConfig

/-! ### State -/

/-- `LinearSpectralState`, without the nodes of the kernel path. -/
structure LinearSpectralState (D : Type) where
  config : LinearSpectralFusionOperatorConfig D
  work : SpectralWork D
  lambda : Option (ℕ → D)
  omega : Option (ℕ → D)
  lambdaDirty : Bool
  omegaDirty : Bool

namespace LinearSpectralState

/-- The state which `sim_add_linear_spectral_fusion_operator` registers. -/
def added (config : LinearSpectralFusionOperatorConfig D) : LinearSpectralState D :=
  ⟨config.normalize .defaults, .empty, none, none, true, true⟩

variable (state : LinearSpectralState D)

/-- `sim_linear_spectral_fusion_update`. The field stays the same. -/
def update (fields : List (SimField D)) (config : LinearSpectralFusionOperatorConfig D) :
    LinearSpectralState D × Except SimError Unit :=
  let old := state.config
  let config := { config.normalize old with fieldIndex := old.fieldIndex }
  let lambdaChanged := ne config.viscosity old.viscosity || ne config.alpha old.alpha ||
    ne config.dissipationSpacing old.dissipationSpacing
  let omegaChanged := ne config.dispersionCoefficient old.dispersionCoefficient ||
    ne config.dispersionOrder old.dispersionOrder ||
    ne config.dispersionSpacing old.dispersionSpacing ||
    ne config.dispersionReferenceK old.dispersionReferenceK
  let state := { state with
    config := config
    lambdaDirty := lambdaChanged || state.lambdaDirty
    omegaDirty := omegaChanged || state.omegaDirty }
  match fields[state.config.fieldIndex]? with
  | none => (state, .error .invalidArgument)
  | some field => (state, (spectralDescribeField field).map fun _ => ())

/-- `linear_spectral_ensure_capacity`. Where an array is refused the plan for planes is not
destroyed. -/
def ensureCapacity (heap : Heap) (shape : List ℕ) : LinearSpectralState D × Except SimError Unit :=
  let count := SimField.elementCount shape
  if shape = [] ∨ 2 < shape.length then (state, .error .notSupported)
  else if count = 0 then
    ({ state with
      work := .empty
      lambda := none
      omega := none
      lambdaDirty := true
      omegaDirty := true }, .ok ())
  else if state.work.fits shape then (state, .ok ())
  else
    let failed := { state with
      work := { state.work.dropped with capacity := 0 }
      lambda := none
      omega := none }
    match failed.work.initPlan heap shape with
    | .error failure => (failed, .error failure)
    | .ok work =>
        if !heap.calloc count 16 || !heap.calloc count 8 then
          ({ failed with work := { failed.work with plan2d := work.plan2d } }, .error .outOfMemory)
        else
          ({ state with
            work := work.sized shape
            lambda := some fun _ => zero
            omega := some fun _ => zero
            lambdaDirty := true
            omegaDirty := true }, .ok ())

/-- `linear_spectral_update_lambda`. -/
def updateLambda (rank : ℕ) (plane : PlaneLayout) : LinearSpectralState D :=
  match state.lambda with
  | none => state
  | some lambda =>
      { state with
        lambda := some (plane.packed.replace
          (fun y x _ => state.config.lambda rank plane.height plane.width y x) lambda)
        lambdaDirty := false }

/-- `linear_spectral_update_omega`. -/
def updateOmega (rank : ℕ) (plane : PlaneLayout) : LinearSpectralState D :=
  { state with
    omega := state.omega.map fun omega => plane.packed.replace
      (fun y x _ => state.config.omega rank plane.height plane.width y x) omega
    omegaDirty := false }

/-- The tables of both rates, brought up to date. -/
def refresh (rank : ℕ) (plane : PlaneLayout) : LinearSpectralState D :=
  let state := if state.lambdaDirty then state.updateLambda rank plane else state
  if state.omegaDirty then state.updateOmega rank plane else state

/-- The change of an element of a spectral field, in storage of either kind. -/
def evolve (config : LinearSpectralFusionOperatorConfig D) (lambda omega : ℕ → D)
    (isComplex projectReal preserveImagZero : Bool) (dtSafe : D) (p : ℕ)
    (value : SimComplexDouble D) : SimComplexDouble D :=
  let factor := exp (mul dtSafe (lambda p))
  let theta := add (mul dtSafe (omega p)) (mul dtSafe config.phaseRate)
  if !isComplex then
    ⟨mul value.re (if config.hasPhaseTerm then mul factor (cos theta) else factor), zero⟩
  else
    let re := value.re
    let im := if preserveImagZero then zero else value.im
    if projectReal && config.hasPhaseTerm then
      let scale := mul factor (cos theta)
      ⟨mul scale re, mul scale im⟩
    else if config.hasPhaseTerm then
      let s := sin theta
      let c := cos theta
      ⟨mul factor (sub (mul re c) (mul im s)), mul factor (add (mul re s) (mul im c))⟩
    else ⟨mul factor re, if preserveImagZero then zero else mul factor im⟩

/-- The change of a mode of a field which is not spectral. -/
def scaleMode (config : LinearSpectralFusionOperatorConfig D) (lambda omega : ℕ → D)
    (projectReal : Bool) (dtSafe : D) (p : ℕ) (mode : SimComplexDouble D) : SimComplexDouble D :=
  let factor := exp (mul dtSafe (lambda p))
  let theta := add (mul dtSafe (omega p)) (mul dtSafe config.phaseRate)
  if projectReal && config.hasPhaseTerm then
    SimComplexDouble.timesReal mode (mul factor (cos theta))
  else if config.hasPhaseTerm then
    let s := sin theta
    let c := cos theta
    ⟨mul factor (sub (mul mode.re c) (mul mode.im s)),
      mul factor (add (mul mode.re s) (mul mode.im c))⟩
  else SimComplexDouble.timesReal mode factor

end LinearSpectralState

/-! ### Application -/

/-- `linear_spectral_apply`, behind the change of the representation. -/
def linearSpectralApplyTo (heap : Heap) (dt : D) (field : SimField D)
    (kept : ℕ → Option (FieldWrite D)) (repr : SimFieldRepresentation)
    (needsComplex projectReal preserveImagZero : Bool) (plane : PlaneLayout)
    (state : LinearSpectralState D) : CallbackOutcome D (LinearSpectralState D) :=
  let rank := field.shape.length
  let count := SimField.elementCount field.shape
  let dtSafe := if isfinite dt then dt else zero
  match state.ensureCapacity heap field.shape with
  | (state, .error failure) => ⟨kept, state, .error failure⟩
  | (state, .ok _) =>
      match state.work.timeBuffer, state.work.freqBuffer, state.lambda, state.omega with
      | some time, some freq, some _, some _ =>
          let state := state.refresh rank plane
          match state.lambda, state.omega with
          | some lambda, some omega =>
              spectralApply state.config.fieldIndex needsComplex
                (decide (repr.domain = .spectral)) field kept state
                (fun work => { state with work := work })
                (plane.replace fun y x =>
                  LinearSpectralState.evolve state.config lambda omega needsComplex projectReal
                    preserveImagZero dtSafe (plane.packed.address y x))
                (state.work.pass rank plane preserveImagZero preserveImagZero
                  (fun freq i =>
                    if i < count then
                      LinearSpectralState.scaleMode state.config lambda omega projectReal dtSafe i
                        (freq i)
                    else freq i) time freq)
          | _, _ => ⟨kept, state, .error .outOfMemory⟩
      | _, _, _, _ => ⟨kept, state, .error .outOfMemory⟩

/-- `linear_spectral_apply`. A layout has as many strides as extents. -/
def linearSpectralApply (heap : Heap) (dt : D) : Callback D (LinearSpectralState D) :=
    fun fields _ state =>
  let unchanged (result : Except SimError Unit) : CallbackOutcome D (LinearSpectralState D) :=
    ⟨fun _ => none, state, result⟩
  match fields[state.config.fieldIndex]? with
  | none => unchanged (.error .invalidArgument)
  | some field =>
      match spectralDescribeField field with
      | .error failure => unchanged (.error failure)
      | .ok (repr, needsComplex) =>
          let projectReal := !needsComplex || repr.hasSpectralRealConstraint
          let imagZero := repr.hasImagZeroConstraint
          let hasPhaseTerm := state.config.hasPhaseTerm
          if SimField.elementCount field.shape = 0 then unchanged (.ok ())
          else
            match spectralPlane field.shape field.strides with
            | none => unchanged (.error .notSupported)
            | some plane =>
                if !hasPhaseTerm && eq state.config.viscosity zero then unchanged (.ok ())
                else if imagZero && hasPhaseTerm then
                  let updated : SimFieldRepresentation :=
                    { repr with valueKind := .complexScalar }
                  match field.setRepresentation updated with
                  | (_, .error failure) => unchanged (.error failure)
                  | (field, .ok _) =>
                      linearSpectralApplyTo heap dt field
                        (spectralKept state.config.fieldIndex field) updated needsComplex
                        projectReal (imagZero && !hasPhaseTerm) plane state
                else
                  linearSpectralApplyTo heap dt field (fun _ => none) repr needsComplex projectReal
                    (imagZero && !hasPhaseTerm) plane state

end Code

/-! ### Memory -/

namespace LinearSpectralState

section Memory

variable {D : Type} [CDouble D] {state : LinearSpectralState D} {shape : List ℕ}
variable {plane : PlaneLayout}

/-- What every call keeps: plans and arrays are there for the shape on record, and a table which
is not to be renewed holds the rates of the configuration. -/
structure Sound (state : LinearSpectralState D) : Prop where
  work : state.work.Sound
  lambda : state.work.capacity ≠ 0 → ∃ table, state.lambda = some table ∧
    (state.lambdaDirty = false → HoldsRates state.work state.config.lambda table)
  omega : state.work.capacity ≠ 0 → ∃ table, state.omega = some table ∧
    (state.omegaDirty = false → HoldsRates state.work state.config.omega table)

theorem sound_of_capacity (hNone : state.work.capacity = 0) : state.Sound :=
  ⟨SpectralWork.sound_of_capacity hNone, fun hSome => absurd hNone hSome,
    fun hSome => absurd hNone hSome⟩

/-- What a call keeps of a state. -/
def Kept (state after : LinearSpectralState D) : Prop :=
  after.Sound ∧ after.config = state.config

end Memory

/-- Tables which an update keeps are those of the new configuration as well. -/
theorem Sound.update [CDouble ℝ] [ExactDouble ℝ] {state : LinearSpectralState ℝ}
    (hSound : state.Sound) (fields : List (SimField ℝ))
    (config : LinearSpectralFusionOperatorConfig ℝ) : (state.update fields config).1.Sound := by
  have hSame : ∀ a b : ℝ, CDouble.ne a b = false → a = b := by
    intro a b hNe
    rwa [CDouble.ne, Bool.not_eq_false', ExactDouble.eq_iff] at hNe
  unfold LinearSpectralState.update
  dsimp only
  generalize config.normalize state.config = config
  have hUpdated : Sound { state with
      config := { config with fieldIndex := state.config.fieldIndex }
      lambdaDirty := CDouble.ne config.viscosity state.config.viscosity ||
        CDouble.ne config.alpha state.config.alpha ||
        CDouble.ne config.dissipationSpacing state.config.dissipationSpacing || state.lambdaDirty
      omegaDirty := CDouble.ne config.dispersionCoefficient state.config.dispersionCoefficient ||
        CDouble.ne config.dispersionOrder state.config.dispersionOrder ||
        CDouble.ne config.dispersionSpacing state.config.dispersionSpacing ||
        CDouble.ne config.dispersionReferenceK state.config.dispersionReferenceK ||
        state.omegaDirty } := by
    refine ⟨hSound.work, fun hSome => ?_, fun hSome => ?_⟩
    · obtain ⟨table, hTable, hRates⟩ := hSound.lambda hSome
      refine ⟨table, hTable, fun hClean => ?_⟩
      simp only [Bool.or_eq_false_iff] at hClean
      obtain ⟨⟨⟨hViscosity, hAlpha⟩, hSpacing⟩, hOld⟩ := hClean
      intro shape plane hShape hFits y hY x hX
      rw [hRates hOld shape plane hShape hFits y hY x hX,
        LinearSpectralFusionOperatorConfig.lambda, LinearSpectralFusionOperatorConfig.lambda,
        hSame _ _ hViscosity, hSame _ _ hAlpha, hSame _ _ hSpacing]
    · obtain ⟨table, hTable, hRates⟩ := hSound.omega hSome
      refine ⟨table, hTable, fun hClean => ?_⟩
      simp only [Bool.or_eq_false_iff] at hClean
      obtain ⟨⟨⟨⟨hCoefficient, hOrder⟩, hSpacing⟩, hReference⟩, hOld⟩ := hClean
      intro shape plane hShape hFits y hY x hX
      rw [hRates hOld shape plane hShape hFits y hY x hX,
        LinearSpectralFusionOperatorConfig.omega, LinearSpectralFusionOperatorConfig.omega,
        hSame _ _ hCoefficient, hSame _ _ hOrder, hSame _ _ hSpacing, hSame _ _ hReference]
  split
  · exact hUpdated
  · exact hUpdated

end LinearSpectralState

/-! ### Application -/

section Application

variable [CDouble ℝ] [ExactDouble ℝ] [ExactPower ℝ] [ExactAnalysis]

namespace LinearSpectralFusionOperatorConfig

variable (config : LinearSpectralFusionOperatorConfig ℝ) (rank : ℕ) (plane : PlaneLayout)

/-- The speed at which a mode turns. -/
def turn (k : Fin plane.height × Fin plane.width) : ℝ :=
  config.omega rank plane.height plane.width k.1 k.2 + config.phaseRate

/-- The rates at which the modes grow: they decay and turn. -/
noncomputable def rate (k : Fin plane.height × Fin plane.width) : ℂ :=
  (config.lambda rank plane.height plane.width k.1 k.2 : ℝ) +
    (config.turn rank plane k : ℝ) * Complex.I

end LinearSpectralFusionOperatorConfig

namespace LinearSpectralState

variable {config : LinearSpectralFusionOperatorConfig ℝ} {lambda omega : ℕ → ℝ} {p : ℕ} {dt : ℝ}
variable {isComplex projectReal preserveImagZero : Bool}

end LinearSpectralState

variable {state : LinearSpectralState ℝ} {fields : List (SimField ℝ)} {field changed : SimField ℝ}
variable {isComplex projectReal preserveImagZero : Bool} {plane : PlaneLayout}

end Application

end Oakfield
