import Oakfield.Context.DriftFrame

/-! Execution of a prepared plan in drift: which committed runtime state stays. -/
namespace Oakfield

variable {D μ : Type} {context : SimContext D μ}

namespace SimContext

/-! ### Norm budgets -/

/-- The operator with another norm budget. -/
def withNormBudget (budget : D) (op : SimOperatorRecord D μ) : SimOperatorRecord D μ :=
  { op with config := { op.config with normBudget := budget } }

/-- The context with other norm budgets for its operators. -/
def withNormBudgets (budgets : ℕ → D) (context : SimContext D μ) : SimContext D μ :=
  { context with operators := context.operators.mapIdx fun i op => withNormBudget (budgets i) op }

/-- The result of a call, and its context with other norm budgets. -/
def callWithNormBudgets (budgets : ℕ → D) (made : ContextCall D μ) : ContextCall D μ :=
  (made.1.withNormBudgets budgets, made.2)

variable (budgets : ℕ → D) (budget : D) (op : SimOperatorRecord D μ)

theorem runOperator_withNormBudgets :
    (context.withNormBudgets budgets).runOperator (withNormBudget budget op) =
      callWithNormBudgets budgets (context.runOperator op) := by
  have hKernel : (withNormBudget budget op).kernel = op.kernel := rfl
  have hEvaluate : (withNormBudget budget op).evaluate = op.evaluate := rfl
  rw [runOperator, runOperator, hKernel, hEvaluate]
  cases op.kernel <;> cases op.evaluate <;> rfl

theorem saveOperator_withNormBudgets :
    (context.withNormBudgets budgets).saveOperator (withNormBudget budget op) =
      (callWithNormBudgets budgets (context.saveOperator op).1, (context.saveOperator op).2) := by
  have hState : (withNormBudget budget op).saveState = op.saveState := rfl
  have hDrift : (context.withNormBudgets budgets).inDrift = context.inDrift := rfl
  rw [saveOperator, saveOperator, hState, hDrift]
  cases op.saveState with
  | none => rfl
  | some save => cases context.inDrift <;> rfl

theorem restoreOperator_withNormBudgets (didSave : Bool) (ran : ContextCall D μ) :
    restoreOperator (withNormBudget budget op) didSave (callWithNormBudgets budgets ran) =
      callWithNormBudgets budgets (restoreOperator op didSave ran) := by
  have hState : (withNormBudget budget op).restoreState = op.restoreState := rfl
  have hDrift : (callWithNormBudgets budgets ran).1.inDrift = ran.1.inDrift := rfl
  rw [restoreOperator, restoreOperator, hState, hDrift]
  cases op.restoreState with
  | none => rfl
  | some restore => cases ran.1.inDrift && didSave <;> rfl

theorem wrote_saveOperator (context : SimContext D μ) :
    Wrote context (context.saveOperator op).1.1 := by
  rw [saveOperator]
  split
  · exact .refl context
  · split
    · exact wrote_call _ context
    · exact .refl context

theorem wrote_restoreOperator (didSave : Bool) (ran : ContextCall D μ) :
    Wrote ran.1 (restoreOperator op didSave ran).1 := by
  rw [restoreOperator]
  split
  · exact .refl ran.1
  · split
    · exact wrote_call _ ran.1
    · exact .refl ran.1

variable [CDouble D]

/-- In drift a successful operator records nothing. -/
theorem applyOperator_drift_eq (hDrift : context.inDrift = true) :
    context.applyOperator op =
      match (context.saveOperator op).1.2 with
      | .error failure => ((context.saveOperator op).1.1, .error failure)
      | .ok _ =>
          restoreOperator op (context.saveOperator op).2
            ((context.saveOperator op).1.1.runOperator op) := by
  rw [applyOperator]
  dsimp only
  cases hSaved : (context.saveOperator op).1.2 with
  | error failure => rfl
  | ok code =>
    apply commitOperator_drift
    rw [(wrote_restoreOperator op _ _).inDrift, (wrote_runOperator op _).inDrift,
      (wrote_saveOperator op context).inDrift, hDrift]

/-- In drift no norm budget is read. -/
theorem applyOperator_withNormBudgets (hDrift : context.inDrift = true) :
    (context.withNormBudgets budgets).applyOperator (withNormBudget budget op) =
      callWithNormBudgets budgets (context.applyOperator op) := by
  have hOther : (context.withNormBudgets budgets).inDrift = true := hDrift
  rw [applyOperator_drift_eq _ hOther, applyOperator_drift_eq op hDrift,
    saveOperator_withNormBudgets]
  show (match (context.saveOperator op).1.2 with
    | .error failure =>
        ((context.saveOperator op).1.1.withNormBudgets budgets, Except.error failure)
    | .ok _ =>
        restoreOperator (withNormBudget budget op) (context.saveOperator op).2
          (((context.saveOperator op).1.1.withNormBudgets budgets).runOperator
            (withNormBudget budget op))) = _
  cases (context.saveOperator op).1.2 with
  | error failure => rfl
  | ok code =>
      dsimp only
      rw [runOperator_withNormBudgets, restoreOperator_withNormBudgets]

theorem runPlan_withNormBudgets (hDrift : context.inDrift = true) (order : List ℕ) :
    runPlan order (context.withNormBudgets budgets) =
      { runPlan order context with
        context := (runPlan order context).context.withNormBudgets budgets } := by
  induction order generalizing context with
  | nil => rfl
  | cons index order ih =>
      rw [runPlan, runPlan, withNormBudgets, List.getElem?_mapIdx]
      cases hOp : context.operators[index]? with
      | none => rfl
      | some op =>
          have hApplied := (applyOperator_drift hDrift op).wrote.inDrift.trans hDrift
          have hEq := applyOperator_withNormBudgets budgets (budgets index) op hDrift
          rw [withNormBudgets] at hEq
          dsimp only [Option.map_some]
          rw [hEq]
          cases hResult : context.applyOperator op with
          | mk after result =>
              rw [hResult] at hApplied
              cases result with
              | error failure => rfl
              | ok code =>
                  dsimp only [callWithNormBudgets]
                  rw [ih hApplied]

/-! ### Continuity counters -/

omit [CDouble D] in
theorem mapIdx_eq_self {α : Type} (f : ℕ → α → α) (l : List α) :
    l.mapIdx f = l ↔ ∀ i a, l[i]? = some a → f i a = a := by
  constructor
  · intro hEq i a hA
    have hAt := congrArg (fun l => l[i]?) hEq
    simpa [List.getElem?_mapIdx, hA] using hAt
  · intro hFixed
    apply List.ext_getElem?
    intro i
    rw [List.getElem?_mapIdx]
    cases hA : l[i]? with
    | none => rfl
    | some a => exact congrArg some (hFixed i a hA)

/-- The counters of the context's fields and the warp mask are zero. -/
structure CountersClear (context : SimContext D μ) : Prop where
  dirty : ∀ i count, context.runtime.fieldDirtyCounts[i]? = some count →
    i < context.fields.length → count = 0
  stable : ∀ i count, context.runtime.fieldStableCounts[i]? = some count →
    i < context.fields.length → count = 0
  warpMask : context.runtime.currentStepWarpMask = 0

omit [CDouble D] in
theorem resetContinuityCounters_runtime :
    context.resetContinuityCounters.runtime = context.runtime ↔ context.CountersClear := by
  have hReset : ∀ counts : List (BitVec 64),
      (counts.mapIdx fun i count => if i < context.fields.length then 0 else count) = counts ↔
        ∀ i count, counts[i]? = some count → i < context.fields.length → count = 0 := by
    intro counts
    rw [mapIdx_eq_self]
    apply forall_congr'
    intro i
    apply forall_congr'
    intro count
    constructor
    · intro hEq hCount hI
      have hHere := hEq hCount
      rw [if_pos hI] at hHere
      exact hHere.symm
    · intro hZero hCount
      split
      case isTrue hI => exact (hZero hCount hI).symm
      case isFalse => rfl
  constructor
  · intro hEq
    constructor
    · exact (hReset _).mp (congrArg SimRuntimeState.fieldDirtyCounts hEq)
    · exact (hReset _).mp (congrArg SimRuntimeState.fieldStableCounts hEq)
    · exact (congrArg SimRuntimeState.currentStepWarpMask hEq).symm
  · rintro ⟨hDirty, hStable, hMask⟩
    simp only [resetContinuityCounters, (hReset _).mpr hDirty, (hReset _).mpr hStable, ← hMask]

/-! ### Drift execution -/

/-- What drift mode promises of an execution: the committed counters stay, norm
budgets have no effect, and state which each operator leaves alone or restores is
as before, whatever the result. -/
structure DriftSuppressed (context : SimContext D μ) : Prop where
  dirtyCounts : context.executePrepared.context.runtime.fieldDirtyCounts =
    context.runtime.fieldDirtyCounts
  stableCounts : context.executePrepared.context.runtime.fieldStableCounts =
    context.runtime.fieldStableCounts
  warpMask : context.executePrepared.context.runtime.currentStepWarpMask =
    context.runtime.currentStepWarpMask
  normBudget : ∀ budgets, (context.withNormBudgets budgets).executePrepared =
    { context.executePrepared with
      context := context.executePrepared.context.withNormBudgets budgets }
  saved : ∀ (ν : Type) (saved : μ → ν), (∀ op ∈ context.operators, KeepsSaved saved op) →
    saved context.executePrepared.context.memory = saved context.memory

/-- A valid plan run in drift keeps the promises of drift mode exactly when the
counters it resets were zero. -/
theorem executePrepared_drift_iff (hValid : context.planValid = true)
    (hDrift : context.inDrift = true) : context.DriftSuppressed ↔ context.CountersClear := by
  have hReset : context.resetContinuityCounters.inDrift = true := hDrift
  have hEq := executePrepared_valid hValid
  have hRuntime : context.executePrepared.context.runtime =
      context.resetContinuityCounters.runtime := by
    rw [hEq]
    exact (runPlan_wrote hReset context.plan).runtime
  constructor
  · intro hSuppressed
    rw [← resetContinuityCounters_runtime]
    have hDirty := hSuppressed.dirtyCounts
    have hStable := hSuppressed.stableCounts
    have hMask := hSuppressed.warpMask
    rw [hRuntime] at hDirty hStable hMask
    show ({ context.runtime with
      fieldDirtyCounts := context.resetContinuityCounters.runtime.fieldDirtyCounts
      fieldStableCounts := context.resetContinuityCounters.runtime.fieldStableCounts
      currentStepWarpMask := context.resetContinuityCounters.runtime.currentStepWarpMask } :
        SimRuntimeState D) = context.runtime
    rw [hDirty, hStable, hMask]
  · intro hClear
    rw [← resetContinuityCounters_runtime] at hClear
    rw [hClear] at hRuntime
    constructor
    case dirtyCounts => rw [hRuntime]
    case stableCounts => rw [hRuntime]
    case warpMask => rw [hRuntime]
    case normBudget =>
      intro budgets
      have hOther : (context.withNormBudgets budgets).planValid = true := hValid
      rw [hEq, ← runPlan_withNormBudgets budgets hReset, executePrepared_valid hOther]
      rfl
    case saved =>
      intro ν saved hOperators
      rw [hEq]
      exact runPlan_saved hReset hOperators context.plan

/-- One field, and a planned operator which writes it, at a drift depth and with
a dirty count. -/
def oneWriter (depth : ℕ) (dirty : BitVec 64) : SimContext ℤ Unit :=
  let start : SimContext ℤ Unit := .init ⟨0, 0, 0, 0, 0⟩ ()
  { start with
    fields := [.ofElementSize ⟨[2], [1], true⟩ 8 (.words fun _ => 0)]
    operators :=
      [{ dependencies := []
         readMask := 0
         writeMask := 1
         readIndices := []
         writeIndices := []
         representation := ⟨false, false, .realScalar⟩
         config := ⟨.none, 0⟩
         warpLevel := .none
         kernel := none
         evaluate := some fun _ _ _ => ⟨fun _ => none, (), .ok ()⟩
         saveState := none
         restoreState := none
         userdata := none }]
    plan := [0]
    planValid := true
    runtime := { start.runtime with
      driftModeDepth := depth
      fieldDirtyCounts := [dirty]
      fieldStableCounts := [0] } }

theorem executePrepared_drift_iff_oneWriter :
    (oneWriter 1 0).DriftSuppressed ↔ (oneWriter 1 0).CountersClear :=
  executePrepared_drift_iff rfl rfl

/-- After one committed run of the writer its dirty count is 1, and a drift run
from there sets the count back to 0. -/
theorem oneWriter_dirtyLost :
    (oneWriter 0 0).executePrepared.context.runtime.fieldDirtyCounts = [1] ∧
      ¬(oneWriter 1 1).DriftSuppressed := by
  constructor
  · decide
  · intro hSuppressed
    exact absurd hSuppressed.dirtyCounts (by decide)

end SimContext

end Oakfield
