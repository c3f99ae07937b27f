import Oakfield.Field.Representation
import Oakfield.Operator.Plan

/-! The simulation context: fields, operators with their callbacks, the cached
plan, memory limits and the runtime state. -/
namespace Oakfield

open Operator (SimOperator SimOperatorRegistry)

/-! ### Runtime state -/

/-- `SIM_RUNTIME_DEFAULT_DT`, the float literal `0.0166667f`. -/
def simRuntimeDefaultDt {D : Type} [CDouble D] : D := CDouble.lit 166667 (-7)

/-- The part of `SimRuntimeState` which operators and drift evaluations see.
A counter list is empty while the C array is null. -/
structure SimRuntimeState (D : Type) where
  dt : D
  timeAccumulated : D
  driftModeDepth : ℕ
  driftTimeOverride : D
  driftTimeOverrideActive : Bool
  fieldDirtyCounts : List (BitVec 64)
  fieldStableCounts : List (BitVec 64)
  currentStepWarpMask : BitVec 32

/-! ### Operator records -/

inductive SimContinuityMode where
  | none
  | strict
  | clamped
  | limited
deriving DecidableEq, Repr

inductive SimWarpLevel where
  | none
  | level0
  | level1
  | level2
deriving DecidableEq, Repr

structure SimOperatorConfig (D : Type) where
  continuity : SimContinuityMode
  normBudget : D

structure SimOperatorRepresentation where
  requiresComplexInput : Bool
  requiresComplexRepresentation : Bool
  valueKind : SimFieldValueKind
deriving DecidableEq, Repr

/-- What a callback leaves in a field: contents, and how it describes them. -/
structure FieldWrite (D : Type) where
  data : FieldData D
  repr : SimFieldRepresentation
  complexMode : Bool

structure CallbackOutcome (D μ : Type) where
  writes : ℕ → Option (FieldWrite D)
  memory : μ
  result : Except SimError Unit

/-- A callback of an operator: it reads the fields, the runtime state and the
memory `μ` of all operators, and may write fields and memory. -/
abbrev Callback (D μ : Type) :=
  List (SimField D) → SimRuntimeState D → μ → CallbackOutcome D μ

/-- `SimSplitOperatorRef`, with the address of the shared record. -/
structure SimSplitOperatorRef where
  shared : ℕ
  substepIndex : ℕ
deriving DecidableEq, Repr

/-- `SimOperator`, and the descriptor it is registered from. The payload is kept for split operators only, other
payloads are part of the memory of the callbacks. -/
structure SimOperatorRecord (D μ : Type) extends SimOperator where
  representation : SimOperatorRepresentation
  config : SimOperatorConfig D
  warpLevel : SimWarpLevel
  kernel : Option (Callback D μ)
  evaluate : Option (Callback D μ)
  saveState : Option (Callback D μ)
  restoreState : Option (Callback D μ)
  userdata : Option SimSplitOperatorRef

/-- `SimSplitShared`; `hasDestroy` stands for `desc->destroy`. The last three
fields are not in the C record: whether it is allocated, how often it passed the
caller's state to `desc->destroy`, and how often it released its budget. -/
structure SimSplitShared where
  refcount : ℕ
  scratchSize : ℕ
  scratchAccounted : Bool
  hasDestroy : Bool
  live : Bool
  destroyCalls : ℕ
  scratchReleases : ℕ
deriving DecidableEq, Repr

/-! ### Context -/

/-- `SimContextMemoryLimits`; zero is no limit. -/
structure SimContextMemoryLimits where
  maxFields : ℕ
  maxFieldElements : ℕ
  maxFieldBytes : ℕ
  maxTotalFieldBytes : ℕ
  maxScratchBytesPerOperator : ℕ
deriving DecidableEq, Repr

/-- `SimContext`. Shared records of split operators are listed by address. -/
structure SimContext (D μ : Type) where
  fields : List (SimField D)
  operators : List (SimOperatorRecord D μ)
  plan : List ℕ
  planValid : Bool
  memoryLimits : SimContextMemoryLimits
  bytesFieldsInUse : ℕ
  bytesScratchInUse : ℕ
  bytesTotalInUse : ℕ
  continuityOverride : Option (SimOperatorConfig D)
  runtime : SimRuntimeState D
  memory : μ
  splits : List SimSplitShared

/-- The result code of a call, and the context it leaves. -/
abbrev ContextCall (D μ : Type) := SimContext D μ × Except SimError Unit

namespace SimContext

variable {D μ : Type}

/-- A context as initialisation leaves it, with the limits set by the caller. -/
def init [CDouble D] (limits : SimContextMemoryLimits) (memory : μ) : SimContext D μ where
  fields := []
  operators := []
  plan := []
  planValid := false
  memoryLimits := limits
  bytesFieldsInUse := 0
  bytesScratchInUse := 0
  bytesTotalInUse := 0
  continuityOverride := none
  runtime :=
    { dt := simRuntimeDefaultDt
      timeAccumulated := CDouble.zero
      driftModeDepth := 0
      driftTimeOverride := CDouble.zero
      driftTimeOverrideActive := false
      fieldDirtyCounts := []
      fieldStableCounts := []
      currentStepWarpMask := 0 }
  memory := memory
  splits := []

/-- The registry as plan resolution reads it. -/
def registry (context : SimContext D μ) : SimOperatorRegistry :=
  ⟨context.operators.map (·.toSimOperator)⟩

@[simp]
theorem count_registry (context : SimContext D μ) :
    context.registry.count = context.operators.length := by
  simp [registry, SimOperatorRegistry.count]

/-- `sim_context_in_drift`. -/
def inDrift (context : SimContext D μ) : Bool := decide (0 < context.runtime.driftModeDepth)

/-- `sim_scheduler_plan_invalidate` of the context's scheduler. -/
def planInvalidate (context : SimContext D μ) : SimContext D μ :=
  { context with planValid := false }

end SimContext

end Oakfield
