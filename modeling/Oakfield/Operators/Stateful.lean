import Oakfield.Context.DriftSuppression
import Oakfield.Context.SplitRegistration
import Oakfield.Field.Init
import Oakfield.Library.Probe

/-! Operators with a memory: their buffers, and runs of applications in and out
of drift. -/
namespace Oakfield

open Library Library.Run

variable {D μ Config : Type} [CDouble D]

/-! ### Buffers -/

/-- An allocated array of `double`. -/
structure DoubleBuffer (D : Type) where
  bytes : ℕ
  lane : ℕ → D

namespace DoubleBuffer

/-- Zeroed memory, when the heap grants it. -/
def allocZeroed (heap : Heap) (bytes : ℕ) : Option (DoubleBuffer D) :=
  if bytes = 0 || !heap.grants bytes then none else some ⟨bytes, fun _ => CDouble.zero⟩

/-- `calloc` of doubles. -/
def calloc (heap : Heap) (count : ℕ) : Option (DoubleBuffer D) :=
  if heap.calloc count 8 then some ⟨count * 8, fun _ => CDouble.zero⟩ else none

/-- `realloc`, which keeps what fits. -/
def realloc (heap : Heap) (bytes : ℕ) (old : Option (DoubleBuffer D)) :
    Option (DoubleBuffer D) :=
  if !heap.grants bytes then none
  else
    match old with
    | none => some ⟨bytes, fun _ => CDouble.indeterminate⟩
    | some buffer =>
        some ⟨bytes, fun k => if k < buffer.bytes / 8 then buffer.lane k else CDouble.indeterminate⟩

omit [CDouble D] in
/-- `memcpy` of the first `bytes` bytes of `source`. -/
def copy (bytes : ℕ) (source target : DoubleBuffer D) : DoubleBuffer D :=
  { target with lane := fun k => if k < bytes / 8 then source.lane k else target.lane k }

omit [CDouble D] in
/-- A copy of `bytes` bytes stays within both buffers. -/
def CopyFits (bytes : ℕ) (source target : DoubleBuffer D) : Prop :=
  bytes ≤ source.bytes ∧ bytes ≤ target.bytes

omit [CDouble D] in
instance (bytes : ℕ) (source target : DoubleBuffer D) : Decidable (CopyFits bytes source target) :=
  inferInstanceAs (Decidable (_ ∧ _))

omit [CDouble D] in
@[simp]
theorem copy_self (bytes : ℕ) (buffer : DoubleBuffer D) : copy bytes buffer buffer = buffer := by
  rw [copy]
  simp

end DoubleBuffer

/-! ### Calls on an operator -/

/-- A callback which changes the memory of the operator only. -/
def memoryCallback (change : μ → μ × Except SimError Unit) : Callback D μ := fun _ _ memory =>
  ⟨fun _ => none, (change memory).1, (change memory).2⟩

/-- An operator without a kernel which saves and restores its memory, with the
function that updates its configuration. -/
structure StatefulOperator (D μ Config : Type) where
  op : SimOperatorRecord D μ
  evaluate : Callback D μ
  save : μ → μ × Except SimError Unit
  restore : μ → μ × Except SimError Unit
  update : List (SimField D) → Config → μ → μ × Except SimError Unit
  kernel_eq : op.kernel = none
  evaluate_eq : op.evaluate = some evaluate
  saveState_eq : op.saveState = some (memoryCallback save)
  restoreState_eq : op.restoreState = some (memoryCallback restore)

/-- A call which concerns an operator: an application in a context whose fields,
runtime state and other operators are arbitrary, or an update. -/
inductive StatefulCall (D μ Config : Type) where
  | apply (context : SimContext D μ)
  | update (fields : List (SimField D)) (config : Config)

/-- Applications in drift. -/
def StatefulCall.isDrift : StatefulCall D μ Config → Bool
  | .apply context => context.inDrift
  | .update _ _ => false

/-- What the caller sees of a call: the fields it leaves, and its result. -/
structure StatefulOutput (D : Type) where
  fields : List (SimField D)
  result : Except SimError Unit

/-! ### Committing -/

namespace SimContext

omit [CDouble D] in
/-- The context with another memory. -/
def withMemory (memory : μ) (context : SimContext D μ) : SimContext D μ :=
  { context with memory := memory }

variable (op : SimOperatorRecord D μ) (memory : μ) (context : SimContext D μ)

theorem applyNormBudget_withMemory :
    (context.withMemory memory).applyNormBudget op =
      (context.applyNormBudget op).withMemory memory := by
  rw [applyNormBudget, applyNormBudget]
  cases CDouble.gt op.config.normBudget CDouble.zero <;> rfl

omit [CDouble D] in
theorem recordContinuityHit_withMemory :
    (context.withMemory memory).recordContinuityHit op =
      (context.recordContinuityHit op).withMemory memory := by
  rw [recordContinuityHit, recordContinuityHit]
  show (if context.runtime.fieldDirtyCounts = [] ∨ context.runtime.fieldStableCounts = [] then _
    else _) = _
  by_cases hEmpty : context.runtime.fieldDirtyCounts = [] ∨ context.runtime.fieldStableCounts = []
  · rw [if_pos hEmpty]
    dsimp only
    rw [if_pos hEmpty]
  · rw [if_neg hEmpty]
    dsimp only
    rw [if_neg hEmpty]
    cases op.config.continuity <;> rfl

/-- Committing an application does not touch the memory, nor depend on it. -/
theorem commitOperator_withMemory (result : Except SimError Unit) :
    commitOperator op (context.withMemory memory, result) =
      ((commitOperator op (context, result)).1.withMemory memory,
        (commitOperator op (context, result)).2) := by
  cases result with
  | error failure => rfl
  | ok code =>
      rw [commitOperator, commitOperator]
      show (if context.inDrift = true then _ else _) = _
      dsimp only
      cases context.inDrift with
      | true => rfl
      | false =>
          simp only [Bool.false_eq_true, if_false]
          rw [applyNormBudget_withMemory, recordContinuityHit_withMemory]
          rfl

end SimContext

namespace StatefulOperator

/-- One call on an operator with a given memory. -/
def step (operator : StatefulOperator D μ Config) (memory : μ) :
    StatefulCall D μ Config → μ × StatefulOutput D
  | .apply context =>
      let applied := (context.withMemory memory).applyOperator operator.op
      (applied.1.memory, ⟨applied.1.fields, applied.2⟩)
  | .update fields config =>
      let updated := operator.update fields config memory
      (updated.1, ⟨fields, updated.2⟩)

variable {operator : StatefulOperator D μ Config} {memory : μ} {context : SimContext D μ}

omit [CDouble D] in
/-- The operator runs its evaluation callback. -/
theorem runOperator_eq :
    (context.withMemory memory).runOperator operator.op =
      let outcome := operator.evaluate context.fields context.runtime memory
      (({ context with fields := writeFields outcome.writes context.fields } :
        SimContext D μ).withMemory outcome.memory, outcome.result) := by
  rw [SimContext.runOperator, operator.kernel_eq, operator.evaluate_eq]
  rfl

/-- Out of drift, an application is a run of the callback and its commit. -/
theorem step_committed (hOut : context.inDrift = false) :
    operator.step memory (.apply context) =
      let outcome := operator.evaluate context.fields context.runtime memory
      let ran := SimContext.commitOperator operator.op
        ({ context with fields := writeFields outcome.writes context.fields }, outcome.result)
      (outcome.memory, ⟨ran.1.fields, ran.2⟩) := by
  have hHere : (context.withMemory memory).inDrift = false := hOut
  have hApplied : (context.withMemory memory).applyOperator operator.op =
      SimContext.commitOperator operator.op
        ((context.withMemory memory).runOperator operator.op) := by
    rw [SimContext.applyOperator, SimContext.saveOperator, operator.saveState_eq]
    simp only [hHere, Bool.false_eq_true, if_false]
    rw [SimContext.restoreOperator, operator.restoreState_eq]
    simp
  rw [step, hApplied, runOperator_eq]
  dsimp only
  rw [SimContext.commitOperator_withMemory]
  rfl

/-- In drift, the callback runs between saving and restoring the memory. -/
theorem step_drift (hDrift : context.inDrift = true) :
    (operator.step memory (.apply context)).1 =
      match operator.save memory with
      | (saved, .error _) => saved
      | (saved, .ok _) =>
          (operator.restore (operator.evaluate context.fields context.runtime saved).memory).1 := by
  have hHere : (context.withMemory memory).inDrift = true := hDrift
  have hSave : (context.withMemory memory).call (memoryCallback operator.save) =
      (context.withMemory (operator.save memory).1, (operator.save memory).2) := by
    rw [SimContext.call]
    dsimp only [memoryCallback]
    rw [SimContext.writeFields_none]
    rfl
  rw [step]
  dsimp only
  rw [SimContext.applyOperator_drift_eq operator.op hHere, SimContext.saveOperator, operator.saveState_eq]
  simp only [hHere, if_true, hSave]
  cases hSaved : operator.save memory with
  | mk saved result =>
      cases result with
      | error failure => rfl
      | ok code =>
          dsimp only
          rw [runOperator_eq, SimContext.restoreOperator, operator.restoreState_eq]
          dsimp only
          rw [if_pos]
          · rfl
          · rw [Bool.and_true]
            exact hDrift

end StatefulOperator

end Oakfield
