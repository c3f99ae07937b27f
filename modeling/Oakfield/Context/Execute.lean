import Oakfield.Context

/-! Execution of the cached plan, in and out of drift. -/
namespace Oakfield

open KernelIR

variable {D μ : Type}

/-! ### Callbacks -/

def SimField.write (write : FieldWrite D) (field : SimField D) : SimField D :=
  { field with
    data := field.data.map fun _ => write.data
    repr := write.repr
    complexMode := write.complexMode }

/-- The fields after a callback. -/
def writeFields (writes : ℕ → Option (FieldWrite D)) (fields : List (SimField D)) :
    List (SimField D) :=
  fields.mapIdx fun i field =>
    match writes i with
    | none => field
    | some write => field.write write

/-- Call a callback of an operator. -/
def SimContext.call (callback : Callback D μ) (context : SimContext D μ) : ContextCall D μ :=
  let outcome := callback context.fields context.runtime context.memory
  ({ context with
      fields := writeFields outcome.writes context.fields
      memory := outcome.memory }, outcome.result)

/-! ### Effects of a committed application -/

section NormBudget

variable [CDouble D]

/-- `sim_field_components`. -/
def SimField.components (field : SimField D) : ℕ :=
  if !field.initialized || field.elementSize == 0 then 0
  else if field.domain.isComplex then 2
  else if field.domain.kind = .integer ∨ field.domain.kind = .modular then 1
  else if field.elementSize % 8 = 0 then field.elementSize / 8
  else 1

/-- One iteration of the loop of `sim_context_apply_norm_budget`. -/
def SimField.applyNormBudget (budget : D) (field : SimField D) : SimField D :=
  let comps := field.components
  let total := SimField.elementCount field.shape * comps
  if comps = 0 ∨ (field.elementSize ≠ 8 ∧ field.elementSize ≠ 16) then field
  else if SimField.elementCount field.shape = 0 then field
  else
    match field.realData with
    | none => field
    | some data =>
        let sumSq := (List.range total).foldl
          (fun sum j => CDouble.add sum (CDouble.mul (data.lane j) (data.lane j))) CDouble.zero
        let norm := CDouble.sqrt sumSq
        if CDouble.gt norm budget && CDouble.gt norm CDouble.zero then
          let scale := CDouble.div budget norm
          { field with
            data := some (.lanes fun j =>
              if j < total then CDouble.mul (data.lane j) scale else data.lane j) }
        else field

/-- `sim_context_collect_unique_fields`. -/
def SimOperatorRecord.uniqueFields (op : SimOperatorRecord D μ) : List SizeT :=
  let mask := if op.writeMask ≠ 0 then op.writeMask else op.readMask
  (Operator.maskFields mask ++ op.readIndices ++ op.writeIndices).foldl
    (fun indices field => if field ∈ indices then indices else indices ++ [field]) []

/-- `sim_context_apply_norm_budget`. -/
def SimContext.applyNormBudget (op : SimOperatorRecord D μ) (context : SimContext D μ) :
    SimContext D μ :=
  if !CDouble.gt op.config.normBudget CDouble.zero then context
  else
    { context with
      fields := op.uniqueFields.foldl
        (fun fields i => fields.modify i.toNat fun field =>
          field.applyNormBudget op.config.normBudget) context.fields }

end NormBudget

/-- `sim_context_record_continuity_hit`; the masks track 64 fields. -/
def SimContext.recordContinuityHit (op : SimOperatorRecord D μ) (context : SimContext D μ) :
    SimContext D μ :=
  let hit (counts : List (BitVec 64)) := counts.mapIdx fun bit count =>
    if bit < 64 ∧ op.writeMask.getLsbD bit ∧ bit < context.fields.length then count + 1 else count
  let runtime := context.runtime
  if runtime.fieldDirtyCounts = [] ∨ runtime.fieldStableCounts = [] then context
  else
    match op.config.continuity with
    | .clamped | .limited =>
        { context with
          runtime := { runtime with fieldStableCounts := hit runtime.fieldStableCounts } }
    | .none | .strict =>
        { context with
          runtime := { runtime with fieldDirtyCounts := hit runtime.fieldDirtyCounts } }

/-- `sim_context_warp_level_bit`. -/
def simContextWarpLevelBit : SimWarpLevel → BitVec 32
  | .none => 0
  | .level0 => 2
  | .level1 => 4
  | .level2 => 8

/-- Update of `current_step_warp_mask`. -/
def SimContext.recordWarpLevel (op : SimOperatorRecord D μ) (context : SimContext D μ) :
    SimContext D μ :=
  { context with
    runtime := { context.runtime with
      currentStepWarpMask :=
        context.runtime.currentStepWarpMask ||| simContextWarpLevelBit op.warpLevel } }

/-! ### Operators and plans -/

namespace SimContext

variable [CDouble D]

omit [CDouble D] in
/-- The kernel of an operator, or else its evaluation callback. -/
def runOperator (op : SimOperatorRecord D μ) (context : SimContext D μ) : ContextCall D μ :=
  match op.kernel, op.evaluate with
  | some kernel, _ => context.call kernel
  | none, some evaluate => context.call evaluate
  | none, none => (context, .error .invalidArgument)

omit [CDouble D] in
/-- The call of `save_state` in drift, and `did_save` behind it. -/
def saveOperator (op : SimOperatorRecord D μ) (context : SimContext D μ) :
    ContextCall D μ × Bool :=
  match op.saveState with
  | none => ((context, .ok ()), false)
  | some save => if context.inDrift then (context.call save, true) else ((context, .ok ()), false)

omit [CDouble D] in
/-- The call of `restore_state` behind the operator, whose own error wins. -/
def restoreOperator (op : SimOperatorRecord D μ) (didSave : Bool) (ran : ContextCall D μ) :
    ContextCall D μ :=
  match op.restoreState with
  | none => ran
  | some restore =>
      if ran.1.inDrift && didSave then
        let restored := ran.1.call restore
        (restored.1, match ran.2 with | .ok _ => restored.2 | .error failure => .error failure)
      else ran

/-- What a successful operator records out of drift. -/
def commitOperator (op : SimOperatorRecord D μ) (ran : ContextCall D μ) : ContextCall D μ :=
  match ran.2 with
  | .error failure => (ran.1, .error failure)
  | .ok _ =>
      if ran.1.inDrift then (ran.1, .ok ())
      else (((ran.1.applyNormBudget op).recordContinuityHit op).recordWarpLevel op, .ok ())

/-- `sim_context_apply_operator`. -/
def applyOperator (op : SimOperatorRecord D μ) (context : SimContext D μ) : ContextCall D μ :=
  let (saved, didSave) := context.saveOperator op
  match saved.2 with
  | .error failure => (saved.1, .error failure)
  | .ok _ => commitOperator op (restoreOperator op didSave (saved.1.runOperator op))

omit [CDouble D] in
/-- `sim_context_reset_continuity_counters`. -/
def resetContinuityCounters (context : SimContext D μ) : SimContext D μ :=
  let reset (counts : List (BitVec 64)) := counts.mapIdx fun i count =>
    if i < context.fields.length then 0 else count
  { context with
    runtime := { context.runtime with
      fieldDirtyCounts := reset context.runtime.fieldDirtyCounts
      fieldStableCounts := reset context.runtime.fieldStableCounts
      currentStepWarpMask := 0 } }

/-- The outcome of a plan, with the operators it has applied in order. -/
structure PlanRun (D μ : Type) where
  context : SimContext D μ
  applied : List ℕ
  result : Except SimError Unit

/-- The loop of `sim_context_execute_prepared`. -/
def runPlan : List ℕ → SimContext D μ → PlanRun D μ
  | [], context => ⟨context, [], .ok ()⟩
  | index :: order, context =>
      match context.operators[index]? with
      | none => ⟨context, [], .error .invalidArgument⟩
      | some op =>
          match context.applyOperator op with
          | (context, .error failure) => ⟨context, [index], .error failure⟩
          | (context, .ok _) =>
              let run := runPlan order context
              { run with applied := index :: run.applied }

/-- `sim_context_execute_prepared`. -/
def executePrepared (context : SimContext D μ) : PlanRun D μ :=
  if !context.planValid then ⟨context, [], .error .invalidState⟩
  else runPlan context.plan context.resetContinuityCounters

theorem executePrepared_valid {context : SimContext D μ} (hValid : context.planValid = true) :
    context.executePrepared = runPlan context.plan context.resetContinuityCounters := by
  rw [executePrepared, hValid]
  rfl

end SimContext

end Oakfield
