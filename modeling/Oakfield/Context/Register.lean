import Oakfield.Context.Memory

/-! Operator registration, and the destruction of registered operators. -/
namespace Oakfield

/-- `sim_operator_config_defaults`. -/
def simOperatorConfigDefaults {D : Type} [CDouble D] : SimOperatorConfig D := ⟨.none, CDouble.zero⟩

/-- `sim_operator_config_normalize`. -/
def SimOperatorConfig.normalize {D : Type} [CDouble D] (config : SimOperatorConfig D) :
    SimOperatorConfig D :=
  if !CDouble.isfinite config.normBudget || CDouble.lt config.normBudget CDouble.zero then
    { config with normBudget := CDouble.zero }
  else config

namespace SimContext

variable {D μ : Type}

/-! ### Payloads of split operators -/

def modifySplit (address : ℕ) (change : SimSplitShared → SimSplitShared)
    (context : SimContext D μ) : SimContext D μ :=
  { context with splits := context.splits.modify address change }

/-- `sim_split_release_scratch_budget`. -/
def splitReleaseScratchBudget (address : ℕ) (context : SimContext D μ) : SimContext D μ :=
  match context.splits[address]? with
  | none => context
  | some shared =>
      if !shared.scratchAccounted then context
      else if 0 < shared.scratchSize then
        (context.releaseScratch shared.scratchSize).modifySplit address fun shared =>
          { shared with
            scratchAccounted := false
            scratchReleases := shared.scratchReleases + 1 }
      else context.modifySplit address fun shared => { shared with scratchAccounted := false }

/-- `sim_split_destroy`. Access to a freed record is undefined in C and leaves
the context unchanged here. -/
def splitDestroy (ref : SimSplitOperatorRef) (context : SimContext D μ) : SimContext D μ :=
  match context.splits[ref.shared]? with
  | none => context
  | some shared =>
      if !shared.live then context
      else
        let context := context.modifySplit ref.shared fun shared =>
          { shared with refcount := shared.refcount - 1 }
        if 0 < shared.refcount - 1 then context
        else
          let context := context.modifySplit ref.shared fun shared =>
            if shared.hasDestroy then { shared with destroyCalls := shared.destroyCalls + 1 }
            else shared
          (context.splitReleaseScratchBudget ref.shared).modifySplit ref.shared fun shared =>
            { shared with live := false }

/-- The call of `op->destroy` in `sim_operator_reset`. -/
def destroyPayload (userdata : Option SimSplitOperatorRef) (context : SimContext D μ) :
    SimContext D μ :=
  match userdata with
  | none => context
  | some ref => context.splitDestroy ref

variable [CDouble D]

/-- `sim_operator_reset` of a registered operator. -/
def operatorReset (index : ℕ) (context : SimContext D μ) : SimContext D μ :=
  match context.operators[index]? with
  | none => context
  | some op =>
      let context := context.destroyPayload op.userdata
      { context with
        operators := context.operators.modify index fun op =>
          { op with
            dependencies := []
            readIndices := []
            writeIndices := []
            config := simOperatorConfigDefaults
            kernel := none
            evaluate := none
            userdata := none } }

/-- `sim_operator_registry_destroy`. -/
def operatorRegistryDestroy (context : SimContext D μ) : SimContext D μ :=
  let context := (List.range context.operators.length).foldl
    (fun context index => context.operatorReset index) context
  { context with operators := [] }

/-! ### Registration -/

/-- The allocations of one registration, and the result of
`sim_operator_kernel_init`. -/
structure RegisterAllocations where
  grow : Bool
  readIndices : Bool
  writeIndices : Bool
  kernel : Except SimError Unit
  dependencies : Bool

/-- `sim_operator_assign`. A failure says whether the slot was reset, which
destroys the payload of the descriptor. -/
def operatorAssign (allocations : RegisterAllocations) (descriptor : SimOperatorRecord D μ) :
    Except (SimError × Bool) (SimOperatorRecord D μ) :=
  if descriptor.evaluate.isNone && descriptor.kernel.isNone then .error (.invalidArgument, false)
  else if descriptor.readIndices ≠ [] ∧ !allocations.readIndices then .error (.outOfMemory, true)
  else if descriptor.writeIndices ≠ [] ∧ !allocations.writeIndices then
    .error (.outOfMemory, true)
  else
    match if descriptor.kernel.isSome then allocations.kernel else .ok () with
    | .error failure => .error (failure, true)
    | .ok _ =>
        if descriptor.dependencies ≠ [] ∧ !allocations.dependencies then
          .error (.outOfMemory, true)
        else .ok { descriptor with config := descriptor.config.normalize }

theorem operatorAssign_ok {allocations : RegisterAllocations} {descriptor op : SimOperatorRecord D μ}
    (hRun : operatorAssign allocations descriptor = .ok op) :
    op = { descriptor with config := descriptor.config.normalize } := by
  rw [operatorAssign] at hRun
  repeat' split at hRun
  all_goals cases hRun
  all_goals rfl

/-- `sim_context_apply_override_to_operator`. -/
def applyOverrideToOperator (context : SimContext D μ) (op : SimOperatorRecord D μ) :
    SimOperatorRecord D μ :=
  match context.continuityOverride with
  | none => op
  | some config => { op with config := config.normalize }

/-- `sim_context_register_operator` with `sim_operator_registry_register`; the
result is the index of the operator. -/
def registerOperator (allocations : RegisterAllocations) (descriptor : SimOperatorRecord D μ)
    (context : SimContext D μ) : SimContext D μ × Except SimError ℕ :=
  if !allocations.grow then (context, .error .outOfMemory)
  else
    match operatorAssign allocations descriptor with
    | .error (failure, reset) =>
        (if reset then context.destroyPayload descriptor.userdata else context, .error failure)
    | .ok op =>
        ({ context.planInvalidate with
            operators := context.operators ++ [context.applyOverrideToOperator op] },
          .ok context.operators.length)

/-- A registered operator is what its descriptor declares, up to its
configuration, and the cached plan is invalidated. -/
theorem registerOperator_ok {allocations : RegisterAllocations}
    {descriptor : SimOperatorRecord D μ} {context later : SimContext D μ} {index : ℕ}
    (hRun : context.registerOperator allocations descriptor = (later, .ok index)) :
    index = context.operators.length ∧ ∃ config, later =
      { context.planInvalidate with
        operators := context.operators ++ [{ descriptor with config := config }] } := by
  rw [registerOperator] at hRun
  split at hRun
  case isTrue => cases hRun
  case isFalse =>
    split at hRun
    case h_1 => cases hRun
    case h_2 op hAssign =>
      rw [operatorAssign_ok hAssign] at hRun
      cases hRun
      refine ⟨rfl, ?_⟩
      cases hOverride : context.continuityOverride with
      | none => exact ⟨_, by simp only [applyOverrideToOperator, hOverride]; rfl⟩
      | some config => exact ⟨_, by simp only [applyOverrideToOperator, hOverride]; rfl⟩

omit [CDouble D] in
/-- `sim_context_add_operator_dependency`; `granted` is the result of `realloc`. -/
def addOperatorDependency (granted : Bool) (operatorIndex dependencyIndex : SizeT)
    (context : SimContext D μ) : ContextCall D μ :=
  if context.operators.length ≤ operatorIndex.toNat ∨
      context.operators.length ≤ dependencyIndex.toNat then (context, .error .invalidArgument)
  else if operatorIndex = dependencyIndex then (context, .error .invalidArgument)
  else
    match context.operators[operatorIndex.toNat]? with
    | none => (context, .error .notFound)
    | some op =>
        if dependencyIndex ∈ op.dependencies then (context, .ok ())
        else if !granted then (context, .error .outOfMemory)
        else
          ({ context.planInvalidate with
              operators := context.operators.modify operatorIndex.toNat fun op =>
                { op with dependencies := op.dependencies ++ [dependencyIndex] } }, .ok ())

end SimContext

end Oakfield
