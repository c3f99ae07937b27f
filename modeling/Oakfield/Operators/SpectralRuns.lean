import Oakfield.Library.Run
import Oakfield.Operators.Dispersion
import Oakfield.Operators.LinearDissipative
import Oakfield.Operators.LinearSpectralFusion

/-! Runs of the linear spectral operators, with reconfigurations between the applications. -/
namespace Oakfield

open KernelIR Library Library.SpectralFlow

/-! ### Operators -/

/-- The configuration of one of the operators. -/
inductive SpectralConfig (D : Type) where
  | linearDissipative (config : LinearDissipativeOperatorConfig D)
  | dispersion (config : DispersionOperatorConfig D)
  | linearSpectralFusion (config : LinearSpectralFusionOperatorConfig D)

/-- The state of one of the operators. -/
inductive SpectralOperator (D : Type) where
  | linearDissipative (state : LinearDissipativeOperatorState D)
  | dispersion (state : DispersionState D)
  | linearSpectralFusion (state : LinearSpectralState D)

section Operators

variable {D : Type} [CDouble D]

namespace SpectralConfig

omit [CDouble D] in
def fieldIndex : SpectralConfig D → ℕ
  | linearDissipative config => config.fieldIndex
  | dispersion config => config.fieldIndex
  | linearSpectralFusion config => config.fieldIndex

/-- Whether modes turn. -/
def turns : SpectralConfig D → Bool
  | linearDissipative _ => false
  | dispersion config => config.hasPhaseTerm
  | linearSpectralFusion config => config.hasPhaseTerm

end SpectralConfig

/-- An outcome with the memory in another place. -/
def CallbackOutcome.mapMemory {μ ν : Type} (place : μ → ν) (outcome : CallbackOutcome D μ) :
    CallbackOutcome D ν := ⟨outcome.writes, place outcome.memory, outcome.result⟩

namespace SpectralOperator

omit [CDouble D] in
def config : SpectralOperator D → SpectralConfig D
  | linearDissipative state => .linearDissipative state.config
  | dispersion state => .dispersion state.config
  | linearSpectralFusion state => .linearSpectralFusion state.config

/-- The step of the operator over a time. -/
def apply (heap : Heap) (dt : D) : Callback D (SpectralOperator D) := fun fields runtime operator =>
  match operator with
  | linearDissipative state =>
      (linearDissipativeApply heap dt fields runtime state).mapMemory linearDissipative
  | dispersion state => (dispersionApply heap dt fields runtime state).mapMemory dispersion
  | linearSpectralFusion state =>
      (linearSpectralApply heap dt fields runtime state).mapMemory linearSpectralFusion

/-- The update of the operator. A configuration of another kind is not meant for it. -/
def update (fields : List (SimField D)) :
    SpectralConfig D → SpectralOperator D → SpectralOperator D
  | .linearDissipative config, linearDissipative state =>
      linearDissipative (state.update (some config))
  | .dispersion config, dispersion state => dispersion (state.update fields config).1
  | .linearSpectralFusion config, linearSpectralFusion state =>
      linearSpectralFusion (state.update fields config).1
  | _, operator => operator

/-- What every call keeps of the operator. -/
def Sound : SpectralOperator D → Prop
  | linearDissipative state => state.Sound
  | dispersion state => state.work.Sound
  | linearSpectralFusion state => state.Sound

end SpectralOperator

end Operators

/-! ### Calls -/

/-- Fields, and operators by their index. -/
structure SpectralSystem (D : Type) where
  fields : List (SimField D)
  operators : List (SpectralOperator D)

/-- The application of an operator over a time. -/
structure SpectralApplication (D : Type) where
  index : ℕ
  heap : Heap
  runtime : SimRuntimeState D
  dt : D

/-- A call which applies an operator, or which updates one. -/
inductive SpectralCall (D : Type) where
  | apply (application : SpectralApplication D)
  | update (index : ℕ) (config : SpectralConfig D)

namespace SpectralSystem

variable {D : Type} [CDouble D]

/-- The outcome of an application, when there is such an operator. -/
def outcome (system : SpectralSystem D) (application : SpectralApplication D) :
    Option (CallbackOutcome D (SpectralOperator D)) :=
  system.operators[application.index]?.map fun operator =>
    operator.apply application.heap application.dt system.fields application.runtime

/-- The system after a call. -/
def step (system : SpectralSystem D) (call : SpectralCall D) : SpectralSystem D :=
  match call with
  | .apply application =>
      match system.outcome application with
      | none => system
      | some outcome =>
          ⟨writeFields outcome.writes system.fields,
            system.operators.set application.index outcome.memory⟩
  | .update index config =>
      { system with operators := system.operators.modify index (.update system.fields config) }

end SpectralSystem

/-! ### Growth -/

section Growth

variable [CDouble ℝ] [ExactDouble ℝ]

/-- The rates at which the modes grow. -/
noncomputable def SpectralConfig.rate (config : SpectralConfig ℝ) (rank : ℕ) (plane : PlaneLayout) :
    Fin plane.height × Fin plane.width → ℂ :=
  match config with
  | linearDissipative config => config.rate rank plane
  | dispersion config => config.rate rank plane
  | linearSpectralFusion config => config.rate rank plane

/-- The field of a configuration is one to work on, and is not to be projected where modes turn. -/
def SpectralConfig.Targets (config : SpectralConfig ℝ) (fields : List (SimField ℝ)) : Prop :=
  ∃ field isComplex plane, fields[config.fieldIndex]? = some field ∧
    SpectralField field isComplex plane ∧
    (isComplex = false ∨ field.representation.hasSpectralRealConstraint = true →
      config.turns = false)

variable {fields : List (SimField ℝ)} {field field' : SimField ℝ} {fieldIndex : ℕ}
variable {isComplex : Bool} {plane : PlaneLayout}
variable {exponent : Fin plane.height × Fin plane.width → ℂ}

omit [ExactDouble ℝ] in
/-- The description of a field is known from the field. -/
theorem SpectralField.unique {isComplex' : Bool} {plane' : PlaneLayout}
    (hField : SpectralField field isComplex plane)
    (hOther : SpectralField field isComplex' plane') : isComplex' = isComplex ∧ plane' = plane :=
  ⟨hOther.storageIsComplex_eq.symm.trans hField.storageIsComplex_eq,
    Option.some.inj (hOther.layout.symm.trans hField.layout)⟩

omit [ExactDouble ℝ] in
/-- Fields are still there to work on after one of them has evolved. -/
theorem SpectralConfig.Targets.set {config : SpectralConfig ℝ} (hTargets : config.Targets fields)
    (hHere : fields[fieldIndex]? = some field) (hField : SpectralField field isComplex plane)
    (hEvolved : Evolved isComplex plane exponent field field') :
    config.Targets (fields.set fieldIndex field') := by
  obtain ⟨target, isComplex', plane', hTarget, hOther, hWhole⟩ := hTargets
  by_cases hSame : config.fieldIndex = fieldIndex
  · obtain ⟨hBelow, -⟩ := List.getElem?_eq_some_iff.mp hHere
    rw [hSame, hHere] at hTarget
    obtain rfl := Option.some.inj hTarget
    obtain ⟨rfl, rfl⟩ := hField.unique hOther
    refine ⟨field', isComplex', plane', ?_, hEvolved.ready, fun hReal => hWhole ?_⟩
    · rw [hSame, List.getElem?_set_self hBelow]
    · rwa [hEvolved.projected] at hReal
  · refine ⟨target, isComplex', plane', ?_, hOther, hWhole⟩
    rw [List.getElem?_set_ne (Ne.symm hSame), hTarget]

omit [ExactDouble ℝ] in
theorem Applied.mapMemory {μ ν : Type} {Kept : μ → Prop} {Kept' : ν → Prop} 
    {outcome : CallbackOutcome ℝ μ}
    (hApplied : Applied Kept heap fields fieldIndex isComplex plane exponent field outcome)
    {place : μ → ν} (hPlace : ∀ memory, Kept memory → Kept' (place memory)) :
    Applied Kept' heap fields fieldIndex isComplex plane exponent field (outcome.mapMemory place) :=
  ⟨hPlace _ hApplied.memory, hApplied.succeeds, hApplied.evolved⟩

namespace SpectralOperator

variable {operator : SpectralOperator ℝ}

/-- What a call keeps of an operator. -/
def Kept (operator after : SpectralOperator ℝ) : Prop :=
  after.Sound ∧ after.config = operator.config

end SpectralOperator

/-! ### Steps -/

namespace SpectralSystem

variable {system : SpectralSystem ℝ} {application : SpectralApplication ℝ} {call : SpectralCall ℝ}

/-- Every operator is sound and has a field to work on. -/
def Ready (system : SpectralSystem ℝ) : Prop :=
  ∀ operator ∈ system.operators, operator.Sound ∧ operator.config.Targets system.fields

variable [ExactPower ℝ] [ExactAnalysis]

end SpectralSystem

/-! ### Exponents -/

namespace SpectralSystem

variable {system : SpectralSystem ℝ} {application : SpectralApplication ℝ} {call : SpectralCall ℝ}

variable [ExactPower ℝ] [ExactAnalysis]

end SpectralSystem

end Growth

end Oakfield
