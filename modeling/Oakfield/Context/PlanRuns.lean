import Oakfield.Context.PlanValidity

/-! Runs of calls on a context, and when the plans they use are plans of the
registry. -/
namespace Oakfield

open Operator Library

/-- A call on a context, with the allocations it is granted. -/
inductive ContextUpdate (D μ : Type) where
  | addField (allocations : SimContext.AddFieldAllocations) (field : SimField D)
  | registerOperator (allocations : SimContext.RegisterAllocations)
      (descriptor : SimOperatorRecord D μ)
  | splitRegister (allocations : SplitAllocations) (desc : SimSplitDescriptor D μ)
      (dependencies : List SizeT)
  | addOperatorDependency (granted : Bool) (operatorIndex dependencyIndex : SizeT)
  | preparePlan (allocate : ℕ → ℕ → Bool)
  | execute (allocate : ℕ → ℕ → Bool)
  | executePrepared

variable {D μ : Type} [CDouble D] {context : SimContext D μ} {allocate : ℕ → ℕ → Bool}

namespace SimContext

def update (context : SimContext D μ) : ContextUpdate D μ → SimContext D μ
  | .addField allocations field => (context.addField allocations field).1
  | .registerOperator allocations descriptor => (context.registerOperator allocations descriptor).1
  | .splitRegister allocations desc dependencies =>
      (context.splitRegister allocations desc dependencies).1
  | .addOperatorDependency granted operatorIndex dependencyIndex =>
      (context.addOperatorDependency granted operatorIndex dependencyIndex).1
  | .preparePlan allocate => (context.preparePlan allocate).1
  | .execute allocate => (context.execute allocate).context
  | .executePrepared => context.executePrepared.context

/-! ### Resolution -/

/-- The call looks for a new plan: its earlier checks pass and no plan is
cached. -/
def Resolves (context : SimContext D μ) : ContextUpdate D μ → Prop
  | .preparePlan allocate | .execute allocate =>
      (context.prepareFields allocate).2 = .ok () ∧ context.planValid = false
  | _ => False

omit [CDouble D] in
theorem SamePlan.current_iff {later : SimContext D μ} (hSame : SamePlan context later) :
    later.PlanCurrent ↔ context.PlanCurrent := by
  rw [PlanCurrent, PlanCurrent, hSame.planValid, hSame.plan, hSame.registry]

/-- Preparation ends with a current plan exactly when each plan it may find for
the registry is sound. -/
theorem preparePlan_current_iff (hCurrent : context.PlanCurrent) :
    (context.preparePlan allocate).1.PlanCurrent ↔
      (context.Resolves (.preparePlan allocate) → ResolveSound context.registry) := by
  have hSame := samePlan_prepareFields allocate context
  rw [preparePlan, Resolves]
  cases hPrepared : context.prepareFields allocate with
  | mk prepared result =>
      rw [hPrepared] at hSame
      cases result with
      | error failure =>
          have hPreparedCurrent := hCurrent.same hSame
          simpa using hPreparedCurrent
      | ok code =>
          cases hValid : context.planValid with
          | true =>
              have hPreparedCurrent := hCurrent.same hSame
              have hPrepared' : prepared.planValid = true := hSame.planValid.trans hValid
              simpa [hPrepared'] using hPreparedCurrent
          | false =>
              have hStale : prepared.planValid = false := hSame.planValid.trans hValid
              simp only [hStale, hSame.registry, Bool.false_eq_true, if_false, and_self,
                true_implies]
              cases hResolve : simOperatorResolvePlan context.registry with
              | error failure =>
                  simp [planCurrent_of_stale hStale, ResolveSound, hResolve]
              | ok order =>
                  have hRegistry : ({ prepared with plan := order, planValid := true } :
                      SimContext D μ).registry = context.registry := hSame.registry
                  dsimp only
                  rw [PlanCurrent, ResolveSound, hRegistry]
                  constructor
                  · intro hSound found hFound
                    rw [hResolve] at hFound
                    cases hFound
                    exact hSound rfl
                  · intro hSound hNow
                    exact hSound order hResolve

theorem preparePlan_ok {later : SimContext D μ} {code : Unit}
    (hRun : context.preparePlan allocate = (later, .ok code)) : later.planValid = true := by
  rw [preparePlan] at hRun
  split at hRun
  case h_1 => cases hRun
  case h_2 =>
    split at hRun
    case isTrue hValid =>
      cases hRun
      exact hValid
    case isFalse =>
      split at hRun
      case h_1 => cases hRun
      case h_2 =>
        cases hRun
        rfl

/-! ### Execution -/

/-- A plan which succeeds has applied all of its operators in order. -/
theorem runPlan_applied (order : List ℕ) (hOk : (runPlan order context).result = .ok ()) :
    (runPlan order context).applied = order := by
  induction order generalizing context with
  | nil => rfl
  | cons index order ih =>
      rw [runPlan] at hOk ⊢
      cases hOp : context.operators[index]? with
      | none =>
          rw [hOp] at hOk
          cases hOk
      | some op =>
          rw [hOp] at hOk
          dsimp only at hOk ⊢
          cases hApply : context.applyOperator op with
          | mk after result =>
              rw [hApply] at hOk
              cases result with
              | error failure => cases hOk
              | ok code => exact congrArg (index :: ·) (ih hOk)

theorem execute_current_iff :
    (context.execute allocate).context.PlanCurrent ↔
      (context.preparePlan allocate).1.PlanCurrent := by
  rw [execute]
  cases context.preparePlan allocate with
  | mk prepared result =>
      cases result with
      | error failure => exact Iff.rfl
      | ok code => exact (samePlan_executePrepared prepared).current_iff

theorem samePlan_preparePlan_registry (allocate : ℕ → ℕ → Bool) (context : SimContext D μ) :
    (context.preparePlan allocate).1.registry = context.registry := by
  have hSame := (samePlan_prepareFields allocate context).registry
  rw [preparePlan]
  cases hPrepared : context.prepareFields allocate with
  | mk prepared result =>
      rw [hPrepared] at hSame
      cases result with
      | error failure => exact hSame
      | ok code =>
          dsimp only
          split
          · exact hSame
          · split <;> exact hSame

/-- A successful execution has applied the plan it leaves, a current one. -/
theorem execute_applied (hCurrent : (context.preparePlan allocate).1.PlanCurrent)
    (hOk : (context.execute allocate).result = .ok ()) :
    PlanSound context.registry (context.execute allocate).applied := by
  have hRegistry := samePlan_preparePlan_registry allocate context
  rw [execute] at hOk ⊢
  cases hPrepare : context.preparePlan allocate with
  | mk prepared result =>
      rw [hPrepare] at hOk hCurrent hRegistry
      cases result with
      | error failure => cases hOk
      | ok code =>
          have hValid := preparePlan_ok hPrepare
          dsimp only at hOk hRegistry ⊢
          rw [executePrepared_valid hValid] at hOk ⊢
          rw [← hRegistry, runPlan_applied prepared.plan hOk]
          exact hCurrent hValid

/-! ### Runs -/

/-- After the call a valid plan is a plan of the registry, and an execution that
succeeded has applied such a plan: each operator once, in its order. -/
structure UpdateSound (context : SimContext D μ) (call : ContextUpdate D μ) : Prop where
  current : (context.update call).PlanCurrent
  executed : ∀ allocate, call = .execute allocate → (context.execute allocate).result = .ok () →
    PlanSound context.registry (context.execute allocate).applied

/-- A call that looks for a new plan finds a registry without the largest index
in its lists, or one whose dependencies order all conflicting operators. -/
def ResolvesSafely (context : SimContext D μ) (call : ContextUpdate D μ) : Prop :=
  context.Resolves call →
    IndicesBelowMax context.registry ∨ HazardsFollowDependencies context.registry

theorem resolvesSafely_iff (call : ContextUpdate D μ) :
    context.ResolvesSafely call ↔ (context.Resolves call → ResolveSound context.registry) := by
  apply forall_congr'
  intro hResolves
  constructor
  · rintro (hIndices | hFollow)
    · exact resolveSound_of_indicesBelowMax hIndices
    · exact resolveSound_of_follows hFollow
  · intro hSound
    by_cases hIndices : IndicesBelowMax context.registry
    · exact .inl hIndices
    · exact .inr (follows_of_resolveSound hSound hIndices)

theorem update_current_iff (hCurrent : context.PlanCurrent) (call : ContextUpdate D μ) :
    (context.update call).PlanCurrent ↔ context.ResolvesSafely call := by
  rw [resolvesSafely_iff]
  cases call with
  | addField allocations field =>
      exact iff_of_true (hCurrent.addField allocations field) (fun h => h.elim)
  | registerOperator allocations descriptor =>
      exact iff_of_true (hCurrent.registerOperator allocations descriptor) (fun h => h.elim)
  | splitRegister allocations desc dependencies =>
      exact iff_of_true (hCurrent.splitRegister allocations desc dependencies) (fun h => h.elim)
  | addOperatorDependency granted operatorIndex dependencyIndex =>
      exact iff_of_true (hCurrent.addOperatorDependency granted operatorIndex dependencyIndex)
        (fun h => h.elim)
  | preparePlan allocate => exact preparePlan_current_iff hCurrent
  | execute allocate =>
      exact execute_current_iff.trans (preparePlan_current_iff hCurrent)
  | executePrepared =>
      exact iff_of_true (hCurrent.same (samePlan_executePrepared context)) (fun h => h.elim)

theorem updateSound_iff_safely (hCurrent : context.PlanCurrent) (call : ContextUpdate D μ) :
    context.UpdateSound call ↔ context.ResolvesSafely call := by
  constructor
  · intro hSound
    exact (update_current_iff hCurrent call).mp hSound.current
  · intro hSafe
    have hUpdated := (update_current_iff hCurrent call).mpr hSafe
    constructor
    · exact hUpdated
    · rintro allocate rfl hOk
      exact execute_applied (execute_current_iff.mp hUpdated) hOk

/-- From an initialised context, the plans used by a run are plans of the
registry exactly when each new plan is looked for safely. -/
theorem planCurrent_iff (limits : SimContextMemoryLimits) (memory : μ)
    (calls : List (ContextUpdate D μ)) :
    Run.EachCall update UpdateSound (.init limits memory) calls ↔
      Run.EachCall update ResolvesSafely (.init limits memory) calls := by
  apply Run.eachCall_iff PlanCurrent
  · intro context call hCurrent hSafe
    exact (update_current_iff hCurrent call).mpr hSafe
  · intro context call hCurrent
    exact updateSound_iff_safely hCurrent call
  · exact planCurrent_of_stale rfl

/-- An operator which declares accesses and does nothing. -/
def idleOperator (access : SimOperator) : SimOperatorRecord ℤ Unit :=
  { access with
    representation := ⟨false, false, .realScalar⟩
    config := ⟨.none, 0⟩
    warpLevel := .none
    kernel := none
    evaluate := some fun _ _ _ => ⟨fun _ => none, (), .ok ()⟩
    saveState := none
    restoreState := none
    userdata := none }

/-- Operator 0 depends on operator 2 and writes field 5, which operator 1
reads; the list of operator 2 holds the largest index. -/
def wrappedSlotsRun : List (ContextUpdate ℤ Unit) :=
  let register (access : SimOperator) : ContextUpdate ℤ Unit :=
    .registerOperator ⟨true, true, true, .ok (), true⟩ (idleOperator access)
  [register ⟨[2], 0, 0, [], [5]⟩, register ⟨[], 0, 0, [5], []⟩,
    register ⟨[], 0, 0, [sizeMax], []⟩, .preparePlan fun _ _ => true]

/-- The plan is marked valid although it puts the reader of field 5 before its
earlier writer. -/
theorem wrappedSlotsRun_stale :
    ¬Run.EachCall update UpdateSound (.init ⟨0, 0, 0, 0, 0⟩ ()) wrappedSlotsRun := by
  rintro ⟨-, -, -, hPrepared, -⟩
  have hSound := hPrepared.current (by decide)
  have hBefore := hSound.hazards 5 0 1 (by decide) (by decide)
    (Or.inl ⟨Or.inr (by decide), Or.inl (Or.inr (by decide))⟩)
  exact absurd hBefore (by decide)

end SimContext

end Oakfield
