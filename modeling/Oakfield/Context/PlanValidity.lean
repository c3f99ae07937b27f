import Oakfield.Context.PreparePlan
import Oakfield.Library.Run
import Oakfield.Operator.PlanSoundness

/-! Validity of the cached plan over runs of context calls. -/
namespace Oakfield

open Operator Library

variable {D μ : Type} {context later : SimContext D μ}

namespace SimContext

/-- A plan marked valid is a plan of the current registry. -/
def PlanCurrent (context : SimContext D μ) : Prop :=
  context.planValid = true → PlanSound context.registry context.plan

/-! ### Calls which leave registry and plan alone -/

structure SamePlan (context later : SimContext D μ) : Prop where
  operators : later.operators = context.operators
  plan : later.plan = context.plan
  planValid : later.planValid = context.planValid

theorem SamePlan.refl (context : SimContext D μ) : SamePlan context context := ⟨rfl, rfl, rfl⟩

theorem SamePlan.trans {middle : SimContext D μ} (hFirst : SamePlan context middle)
    (hSecond : SamePlan middle later) : SamePlan context later :=
  ⟨hSecond.operators.trans hFirst.operators, hSecond.plan.trans hFirst.plan,
    hSecond.planValid.trans hFirst.planValid⟩

theorem SamePlan.registry (hSame : SamePlan context later) : later.registry = context.registry := by
  rw [SimContext.registry, hSame.operators, SimContext.registry]

theorem PlanCurrent.same (hCurrent : context.PlanCurrent) (hSame : SamePlan context later) :
    later.PlanCurrent := by
  intro hValid
  rw [hSame.registry, hSame.plan]
  exact hCurrent (hSame.planValid.symm.trans hValid)

theorem planCurrent_of_stale (hStale : context.planValid = false) : context.PlanCurrent := by
  intro hValid
  rw [hStale] at hValid
  cases hValid

theorem samePlan_reserveScratch (bytes : ℕ) (context : SimContext D μ) :
    SamePlan context (context.reserveScratch bytes).1 := by
  rw [reserveScratch]
  repeat' split
  all_goals exact ⟨rfl, rfl, rfl⟩

theorem samePlan_releaseScratch (bytes : ℕ) (context : SimContext D μ) :
    SamePlan context (context.releaseScratch bytes) := by
  rw [releaseScratch]
  split <;> exact ⟨rfl, rfl, rfl⟩

theorem samePlan_modifySplit (address : ℕ) (change : SimSplitShared → SimSplitShared)
    (context : SimContext D μ) : SamePlan context (context.modifySplit address change) :=
  ⟨rfl, rfl, rfl⟩

theorem samePlan_splitReleaseScratchBudget (address : ℕ) (context : SimContext D μ) :
    SamePlan context (context.splitReleaseScratchBudget address) := by
  rw [splitReleaseScratchBudget]
  repeat' split
  · exact .refl context
  · exact .refl context
  · exact (samePlan_releaseScratch _ context).trans (samePlan_modifySplit _ _ _)
  · exact samePlan_modifySplit _ _ _

theorem samePlan_splitDestroy (ref : SimSplitOperatorRef) (context : SimContext D μ) :
    SamePlan context (context.splitDestroy ref) := by
  rw [splitDestroy]
  repeat' split
  · exact .refl context
  · exact .refl context
  · exact samePlan_modifySplit _ _ _
  · exact (((samePlan_modifySplit _ _ context).trans (samePlan_modifySplit _ _ _)).trans
      (samePlan_splitReleaseScratchBudget _ _)).trans (samePlan_modifySplit _ _ _)

theorem samePlan_destroyPayload (userdata : Option SimSplitOperatorRef) (context : SimContext D μ) :
    SamePlan context (context.destroyPayload userdata) := by
  cases userdata with
  | none => exact .refl context
  | some ref => exact samePlan_splitDestroy ref context

theorem samePlan_splitAbort (address : ℕ) (context : SimContext D μ) :
    SamePlan context (context.splitAbort address) :=
  (samePlan_splitReleaseScratchBudget address context).trans (samePlan_modifySplit _ _ _)

theorem samePlan_call (callback : Callback D μ) (context : SimContext D μ) :
    SamePlan context (context.call callback).1 := ⟨rfl, rfl, rfl⟩

variable [CDouble D]

theorem samePlan_applyOperator (op : SimOperatorRecord D μ) (context : SimContext D μ) :
    SamePlan context (context.applyOperator op).1 := by
  have hSave : SamePlan context (context.saveOperator op).1.1 := by
    rw [saveOperator]
    repeat' split
    · exact .refl context
    · exact samePlan_call _ context
    · exact .refl context
  have hRun : ∀ saved : SimContext D μ, SamePlan saved (saved.runOperator op).1 := by
    intro saved
    rw [runOperator]
    split
    · exact samePlan_call _ saved
    · exact samePlan_call _ saved
    · exact .refl saved
  have hRestore : ∀ didSave (ran : ContextCall D μ),
      SamePlan ran.1 (restoreOperator op didSave ran).1 := by
    intro didSave ran
    rw [restoreOperator]
    split
    · exact .refl ran.1
    · split
      · exact samePlan_call _ ran.1
      · exact .refl ran.1
  have hCommit : ∀ ran : ContextCall D μ, SamePlan ran.1 (commitOperator op ran).1 := by
    intro ran
    rw [commitOperator, recordWarpLevel, recordContinuityHit, applyNormBudget]
    repeat' split
    all_goals exact ⟨rfl, rfl, rfl⟩
  rw [applyOperator]
  dsimp only
  split
  · exact hSave
  · exact ((hSave.trans (hRun _)).trans (hRestore _ _)).trans (hCommit _)

theorem samePlan_runPlan (order : List ℕ) (context : SimContext D μ) :
    SamePlan context (runPlan order context).context := by
  induction order generalizing context with
  | nil => exact .refl context
  | cons index order ih =>
      rw [runPlan]
      split
      · exact .refl context
      · rename_i op hOp
        have hApplied := samePlan_applyOperator op context
        cases hResult : context.applyOperator op with
        | mk after result =>
            rw [hResult] at hApplied
            cases result with
            | error failure => exact hApplied
            | ok code => exact hApplied.trans (ih after)

theorem samePlan_executePrepared (context : SimContext D μ) :
    SamePlan context context.executePrepared.context := by
  rw [executePrepared]
  split
  · exact .refl context
  · have hReset : SamePlan context context.resetContinuityCounters := ⟨rfl, rfl, rfl⟩
    exact hReset.trans (samePlan_runPlan context.plan _)

theorem samePlan_prepareComplexField (allocate : ℕ → Bool) (i : ℕ) (context : SimContext D μ) :
    SamePlan context (context.prepareComplexField allocate i).1 := by
  rw [prepareComplexField]
  dsimp only
  repeat' split
  all_goals exact ⟨rfl, rfl, rfl⟩

theorem samePlan_prepareFields (allocate : ℕ → ℕ → Bool) (context : SimContext D μ) :
    SamePlan context (context.prepareFields allocate).1 := by
  have hLoop : ∀ (rest : List ℕ) (context : SimContext D μ),
      SamePlan context (prepareComplexFieldsFrom allocate rest context).1 := by
    intro rest
    induction rest with
    | nil => exact .refl
    | cons i rest ih =>
        intro context
        have hHere := samePlan_prepareComplexField (allocate i) i context
        rw [prepareComplexFieldsFrom]
        cases hResult : context.prepareComplexField (allocate i) i with
        | mk after result =>
            rw [hResult] at hHere
            cases result with
            | error failure => exact hHere
            | ok code => exact hHere.trans (ih after)
  have hComplex := hLoop (List.range context.fields.length) context
  rw [prepareFields, prepareComplexFields]
  cases hResult : prepareComplexFieldsFrom allocate (List.range context.fields.length) context with
  | mk after result =>
      rw [hResult] at hComplex
      cases result with
      | error failure => exact hComplex
      | ok code => exact hComplex

/-! ### Registrations -/

theorem PlanCurrent.registerOperator (hCurrent : context.PlanCurrent)
    (allocations : RegisterAllocations) (descriptor : SimOperatorRecord D μ) :
    (context.registerOperator allocations descriptor).1.PlanCurrent := by
  rw [SimContext.registerOperator]
  split
  · exact hCurrent
  · split
    · split
      · exact hCurrent.same (samePlan_destroyPayload _ context)
      · exact hCurrent
    · exact planCurrent_of_stale rfl

theorem PlanCurrent.registerSubsteps (hCurrent : context.PlanCurrent)
    (allocations : ℕ → SubstepAllocations) (desc : SimSplitDescriptor D μ) (address : ℕ)
    (substeps : List (SimSplitSubstep D μ)) (index : ℕ) (dependencies : List SizeT)
    (previous : SizeT) :
    (Oakfield.registerSubsteps allocations desc address substeps index dependencies previous
      context).1.PlanCurrent := by
  induction substeps generalizing index dependencies previous context with
  | nil => exact hCurrent
  | cons substep substeps ih =>
      have hAbort := hCurrent.same (samePlan_splitAbort address context)
      rw [Oakfield.registerSubsteps]
      split
      · exact hAbort
      · split
        · exact hAbort
        · rename_i sets hSets
          split
          · exact hAbort
          · have hHere := hCurrent.registerOperator (allocations index).register
              (substepDescriptor desc dependencies address index substep sets)
            split
            · rename_i after failure hRegister
              rw [hRegister] at hHere
              exact hHere.same (samePlan_splitAbort address after)
            · rename_i after registered hRegister
              rw [hRegister] at hHere
              exact ih hHere (index + 1) _ _

theorem PlanCurrent.splitRegister (hCurrent : context.PlanCurrent) (allocations : SplitAllocations)
    (desc : SimSplitDescriptor D μ) (dependencies : List SizeT) :
    (context.splitRegister allocations desc dependencies).1.PlanCurrent := by
  have hReserved := hCurrent.same (samePlan_reserveScratch desc.scratchBytesPerWorker context)
  rw [SimContext.splitRegister]
  dsimp only
  split
  · exact hCurrent
  · split
    · exact hCurrent
    · split
      · exact hCurrent
      · split
        · rename_i after failure hReserve
          rw [hReserve] at hReserved
          exact hReserved
        · rename_i after code hReserve
          rw [hReserve] at hReserved
          have hShared : ({ after with
              splits := after.splits ++ [allocatedShared desc] } : SimContext D μ).PlanCurrent :=
            hReserved.same ⟨rfl, rfl, rfl⟩
          split
          · exact hShared.same (samePlan_splitAbort _ _)
          · split
            · exact hShared.same (samePlan_splitAbort _ _)
            · have hLoop := hShared.registerSubsteps allocations.substep desc after.splits.length
                desc.substeps 0 dependencies sizeMax
              split
              · rename_i registered failure hRegister
                rw [hRegister] at hLoop
                exact hLoop
              · rename_i registered last hRegister
                rw [hRegister] at hLoop
                exact hLoop

omit [CDouble D] in
theorem PlanCurrent.addOperatorDependency (hCurrent : context.PlanCurrent) (granted : Bool)
    (operatorIndex dependencyIndex : SizeT) :
    (context.addOperatorDependency granted operatorIndex dependencyIndex).1.PlanCurrent := by
  rw [SimContext.addOperatorDependency]
  repeat' split
  all_goals first
    | exact hCurrent
    | exact planCurrent_of_stale rfl

omit [CDouble D] in
theorem PlanCurrent.addField (hCurrent : context.PlanCurrent)
    (allocations : AddFieldAllocations) (field : SimField D) :
    (context.addField allocations field).1.PlanCurrent := by
  rw [SimContext.addField]
  dsimp only
  repeat' split
  all_goals first
    | exact hCurrent
    | exact planCurrent_of_stale rfl

end SimContext

end Oakfield
