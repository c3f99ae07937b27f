import Oakfield.Context.PreparePlan

/-! Drift mode of a context: its depth, the time override of nested drift
evaluations, and the timestep. -/
namespace Oakfield

variable {D μ : Type} [CDouble D]

/-- `UINT32_MAX`, where the depth of drift mode stops. -/
def driftDepthLimit : ℕ := 2 ^ 32 - 1

namespace SimRuntimeState

/-- `sim_context_time`. -/
def time (runtime : SimRuntimeState D) : D :=
  if runtime.driftTimeOverrideActive then runtime.driftTimeOverride else runtime.timeAccumulated

omit [CDouble D] in
/-- `sim_context_begin_drift`. -/
def beginDrift (runtime : SimRuntimeState D) : SimRuntimeState D :=
  if runtime.driftModeDepth < driftDepthLimit then
    { runtime with driftModeDepth := runtime.driftModeDepth + 1 }
  else runtime

/-- `sim_context_clear_drift_time_override`. -/
def clearDriftTimeOverride (runtime : SimRuntimeState D) : SimRuntimeState D :=
  { runtime with driftTimeOverrideActive := false, driftTimeOverride := CDouble.zero }

/-- `sim_context_end_drift`. -/
def endDrift (runtime : SimRuntimeState D) : SimRuntimeState D :=
  if 0 < runtime.driftModeDepth then
    let runtime := { runtime with driftModeDepth := runtime.driftModeDepth - 1 }
    if runtime.driftModeDepth = 0 then runtime.clearDriftTimeOverride else runtime
  else runtime

omit [CDouble D] in
/-- `sim_context_set_drift_time_override`. -/
def setDriftTimeOverride (value : D) (runtime : SimRuntimeState D) : SimRuntimeState D :=
  if runtime.driftModeDepth = 0 then runtime
  else { runtime with driftTimeOverride := value, driftTimeOverrideActive := true }

/-- `sim_context_set_timestep`. -/
def setTimestep (dt : D) (runtime : SimRuntimeState D) : SimRuntimeState D :=
  { runtime with dt := if CDouble.gt dt CDouble.zero then dt else simRuntimeDefaultDt }

end SimRuntimeState

namespace SimContext

omit [CDouble D] in
/-- Change the runtime state only. -/
def modifyRuntime (change : SimRuntimeState D → SimRuntimeState D) (context : SimContext D μ) :
    SimContext D μ :=
  { context with runtime := change context.runtime }

omit [CDouble D] in
def beginDrift (context : SimContext D μ) : SimContext D μ :=
  context.modifyRuntime SimRuntimeState.beginDrift

def endDrift (context : SimContext D μ) : SimContext D μ :=
  context.modifyRuntime SimRuntimeState.endDrift

omit [CDouble D] in
theorem inDrift_beginDrift (context : SimContext D μ) : context.beginDrift.inDrift = true := by
  rw [inDrift, beginDrift, modifyRuntime, SimRuntimeState.beginDrift, decide_eq_true_iff]
  split
  case isTrue => exact Nat.succ_pos _
  case isFalse hLimit =>
    rw [driftDepthLimit] at hLimit
    dsimp only
    omega

end SimContext

end Oakfield
