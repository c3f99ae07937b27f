import Oakfield.Operators.Reconfiguration

/-! Which reconfigurations keep the recorded access sets of the operators truthful. -/
namespace Oakfield

open KernelIR Library.Run SimContext

variable {D : Type}

/-- The registry records an access, as a mask bit or in an index list. -/
def SimOperatorRecord.Records {μ : Type} (op : SimOperatorRecord D μ) : FieldAccess → Prop
  | .read field => op.Reads field
  | .write field => op.Writes field

/-- The context fields an operator accesses when it is applied: the private state is that
of its shared record, or of its kernel. -/
def SimContext.operatorAccesses (context : SimContext D OperatorMemory) (index : ℕ)
    (op : SimOperatorRecord D OperatorMemory) : List FieldAccess :=
  match op.userdata with
  | some ref =>
      match context.memory.split ref.shared with
      | none => []
      | some state => state.accesses ref.substepIndex context.fields
  | none =>
      match context.memory.kernel index with
      | none => []
      | some kernel => mixerKernelAccesses kernel.bound

/-- Every operator accesses only what the registry records for it. -/
def AccessesDeclared (context : SimContext D OperatorMemory) : Prop :=
  ∀ index op, context.operators[index]? = some op →
    ∀ access ∈ context.operatorAccesses index op, op.Records access

/-! ### What registration leaves -/

/-- The context has new operators, all of them referring to one shared record. -/
structure Extends {μ : Type} (address : ℕ) (before after : SimContext D μ) : Prop where
  operators : ∃ ops, after.operators = before.operators ++ ops ∧
    ∀ op ∈ ops, ∃ k, op.userdata = some ⟨address, k⟩
  fields : after.fields = before.fields
  memory : after.memory = before.memory
  splits : after.splits.length = before.splits.length

section Extends

variable {μ : Type} {address : ℕ} {before middle after : SimContext D μ}

theorem Extends.refl (address : ℕ) (context : SimContext D μ) : Extends address context context :=
  ⟨⟨[], by simp, by simp⟩, rfl, rfl, rfl⟩

theorem Extends.trans (hFirst : Extends address before middle)
    (hSecond : Extends address middle after) : Extends address before after := by
  obtain ⟨ops, hOps, hRefs⟩ := hFirst.operators
  obtain ⟨ops', hOps', hRefs'⟩ := hSecond.operators
  refine ⟨⟨ops ++ ops', ?_, ?_⟩, hSecond.fields.trans hFirst.fields,
    hSecond.memory.trans hFirst.memory, hSecond.splits.trans hFirst.splits⟩
  · rw [hOps', hOps, List.append_assoc]
  · intro op hOp
    exact (List.mem_append.mp hOp).elim (hRefs op) (hRefs' op)

theorem extends_modifySplit (address place : ℕ) (change : SimSplitShared → SimSplitShared)
    (context : SimContext D μ) : Extends address context (context.modifySplit place change) :=
  ⟨⟨[], by simp [modifySplit], by simp⟩, rfl, rfl, by simp [modifySplit]⟩

theorem extends_splitReleaseScratchBudget (address place : ℕ) (context : SimContext D μ) :
    Extends address context (context.splitReleaseScratchBudget place) := by
  have hRelease : ∀ bytes, Extends address context (context.releaseScratch bytes) := by
    intro bytes
    rw [releaseScratch]
    split
    · exact .refl _ _
    · exact ⟨⟨[], by simp, by simp⟩, rfl, rfl, rfl⟩
  rw [splitReleaseScratchBudget]
  split
  · exact .refl _ _
  split
  · exact .refl _ _
  split
  · exact (hRelease _).trans (extends_modifySplit _ _ _ _)
  · exact extends_modifySplit _ _ _ _

theorem extends_splitAbort (address : ℕ) (context : SimContext D μ) :
    Extends address context (context.splitAbort address) :=
  (extends_splitReleaseScratchBudget _ _ _).trans (extends_modifySplit _ _ _ _)

theorem extends_destroyPayload (address : ℕ) (userdata : Option SimSplitOperatorRef)
    (context : SimContext D μ) : Extends address context (context.destroyPayload userdata) := by
  cases userdata with
  | none => exact .refl _ _
  | some ref =>
      rw [destroyPayload, splitDestroy]
      split
      · exact .refl _ _
      split
      · exact .refl _ _
      dsimp only
      split
      · exact extends_modifySplit _ _ _ _
      · exact (((extends_modifySplit _ _ _ _).trans (extends_modifySplit _ _ _ _)).trans
          (extends_splitReleaseScratchBudget _ _ _)).trans (extends_modifySplit _ _ _ _)

variable [CDouble D]

theorem extends_registerOperator {allocations : RegisterAllocations}
    {descriptor : SimOperatorRecord D μ} {k : ℕ}
    (hUserdata : descriptor.userdata = some ⟨address, k⟩) (context : SimContext D μ) :
    Extends address context (context.registerOperator allocations descriptor).1 := by
  cases hRun : context.registerOperator allocations descriptor with
  | mk later result =>
      cases result with
      | ok index =>
          obtain ⟨-, config, rfl⟩ := registerOperator_ok hRun
          exact ⟨⟨[{ descriptor with config := config }], rfl, by simp [hUserdata]⟩, rfl, rfl, rfl⟩
      | error failure =>
          rw [registerOperator] at hRun
          split at hRun
          case isTrue =>
            cases hRun
            exact .refl _ _
          case isFalse =>
            split at hRun
            case h_2 => cases hRun
            case h_1 =>
              split at hRun
              · cases hRun
                exact extends_destroyPayload _ _ _
              · cases hRun
                exact .refl _ _

/-- Whether or not it succeeds, the loop over the substeps adds operators of one record. -/
theorem extends_registerSubsteps {allocations : ℕ → SubstepAllocations}
    {desc : SimSplitDescriptor D μ} (substeps : List (SimSplitSubstep D μ)) (index : ℕ)
    (dependencies : List SizeT) (previous : SizeT) (context : SimContext D μ) :
    Extends address context (registerSubsteps allocations desc address substeps index dependencies
      previous context).1 := by
  induction substeps generalizing index dependencies previous context with
  | nil => exact .refl _ _
  | cons substep substeps ih =>
      rw [registerSubsteps]
      split
      · exact extends_splitAbort _ _
      split
      · exact extends_splitAbort _ _
      case h_2 sets _ =>
        split
        · exact extends_splitAbort _ _
        have hRegister := @extends_registerOperator D μ address _ (allocations index).register
          (substepDescriptor desc dependencies address index substep sets) index rfl context
        split
        case h_1 context' _ hRun =>
          rw [hRun] at hRegister
          exact hRegister.trans (extends_splitAbort _ _)
        case h_2 context' _ hRun =>
          rw [hRun] at hRegister
          exact hRegister.trans (ih _ _ _ _)

omit [CDouble D] in
theorem reserveScratch_kept (bytes : ℕ) (context : SimContext D μ) :
    (context.reserveScratch bytes).1.operators = context.operators ∧
      (context.reserveScratch bytes).1.fields = context.fields ∧
      (context.reserveScratch bytes).1.memory = context.memory ∧
      (context.reserveScratch bytes).1.splits = context.splits := by
  rw [reserveScratch]
  split
  · exact ⟨rfl, rfl, rfl, rfl⟩
  split
  · exact ⟨rfl, rfl, rfl, rfl⟩
  split <;> exact ⟨rfl, rfl, rfl, rfl⟩

/-- What a registration can do, whether or not it succeeds. -/
structure Registers (before after : SimContext D μ) : Prop where
  operators : ∃ ops, after.operators = before.operators ++ ops ∧
    ∀ op ∈ ops, (∃ k, op.userdata = some ⟨before.splits.length, k⟩) ∧
      before.splits.length < after.splits.length
  fields : after.fields = before.fields
  memory : after.memory = before.memory
  splits : before.splits.length ≤ after.splits.length

omit [CDouble D] in
theorem Registers.refl (context : SimContext D μ) : Registers context context :=
  ⟨⟨[], by simp, by simp⟩, rfl, rfl, Nat.le_refl _⟩

/-- A registration adds operators of a new shared record only, and keeps fields and memory. -/
theorem splitRegister_registers (allocations : SplitAllocations) (desc : SimSplitDescriptor D μ)
    (dependencies : List SizeT) (context : SimContext D μ) :
    Registers context (context.splitRegister allocations desc dependencies).1 := by
  have hKept := reserveScratch_kept desc.scratchBytesPerWorker context
  rw [splitRegister]
  dsimp only
  split
  · exact .refl _
  split
  · exact .refl _
  split
  · exact .refl _
  split
  case h_1 reserved _ hReserve =>
    rw [hReserve] at hKept
    obtain ⟨hOperators, hFields, hMemory, hSplits⟩ := hKept
    dsimp only at hOperators hFields hMemory hSplits
    exact ⟨⟨[], by simp [hOperators], by simp⟩, hFields, hMemory, by rw [hSplits]⟩
  case h_2 reserved _ hReserve =>
    rw [hReserve] at hKept
    obtain ⟨hOperators, hFields, hMemory, hSplits⟩ := hKept
    dsimp only at hOperators hFields hMemory hSplits
    have hFinish : ∀ after : SimContext D μ, Extends reserved.splits.length
        { reserved with splits := reserved.splits ++ [allocatedShared desc] } after →
        Registers context after := by
      intro after hExtends
      obtain ⟨ops, hOps, hRefs⟩ := hExtends.operators
      have hLength : after.splits.length = context.splits.length + 1 := by
        rw [hExtends.splits, List.length_append, hSplits]
        rfl
      refine ⟨⟨ops, ?_, fun op hOp => ⟨?_, by omega⟩⟩, ?_, ?_, by omega⟩
      · rw [hOps]
        exact congrArg (· ++ ops) hOperators
      · rw [← hSplits]
        exact hRefs op hOp
      · rw [hExtends.fields]
        exact hFields
      · rw [hExtends.memory]
        exact hMemory
    split
    · exact hFinish _ (extends_splitAbort _ _)
    split
    · exact hFinish _ (extends_splitAbort _ _)
    have hLoop := @extends_registerSubsteps D μ reserved.splits.length _ allocations.substep desc
      desc.substeps 0 dependencies sizeMax
      { reserved with splits := reserved.splits ++ [allocatedShared desc] }
    split
    case h_1 later _ hRun =>
      rw [hRun] at hLoop
      exact hFinish _ hLoop
    case h_2 later _ hRun =>
      rw [hRun] at hLoop
      exact hFinish _ hLoop

end Extends

/-! ### The invariant -/

/-- References are to allocated records, and private states belong to what exists. -/
structure AccessInvariant (context : SimContext D OperatorMemory) : Prop where
  allocated : ∀ op ∈ context.operators, ∀ ref, op.userdata = some ref →
    ref.shared < context.splits.length
  freshSplit : ∀ address, context.splits.length ≤ address → context.memory.split address = none
  freshKernel : ∀ index, context.operators.length ≤ index → context.memory.kernel index = none
  declared : AccessesDeclared context

variable {context after : SimContext D OperatorMemory}

theorem operatorAccesses_split {op : SimOperatorRecord D OperatorMemory} {ref : SimSplitOperatorRef}
    (hRef : op.userdata = some ref) {state : OperatorState}
    (hState : context.memory.split ref.shared = some state) (index : ℕ) :
    context.operatorAccesses index op = state.accesses ref.substepIndex context.fields := by
  rw [operatorAccesses, hRef]
  dsimp only
  rw [hState]

theorem operatorAccesses_nil {op : SimOperatorRecord D OperatorMemory} {ref : SimSplitOperatorRef}
    (hRef : op.userdata = some ref) (hState : context.memory.split ref.shared = none) (index : ℕ) :
    context.operatorAccesses index op = [] := by
  rw [operatorAccesses, hRef]
  dsimp only
  rw [hState]

/-- The accesses depend on the fields and on the operator's own private state. -/
theorem operatorAccesses_congr {op : SimOperatorRecord D OperatorMemory} {index : ℕ}
    (hFields : after.fields = context.fields)
    (hSplit : ∀ ref, op.userdata = some ref →
      after.memory.split ref.shared = context.memory.split ref.shared)
    (hKernel : after.memory.kernel index = context.memory.kernel index) :
    after.operatorAccesses index op = context.operatorAccesses index op := by
  unfold operatorAccesses
  rw [hFields, hKernel]
  cases hRef : op.userdata with
  | none => rfl
  | some ref =>
      dsimp only
      rw [hSplit ref hRef]

theorem Registers.invariant (hInv : AccessInvariant context) (hRun : Registers context after) :
    AccessInvariant after := by
  obtain ⟨ops, hOps, hNew⟩ := hRun.operators
  constructor
  case allocated =>
    intro op hOp ref hRef
    rw [hOps] at hOp
    rcases List.mem_append.mp hOp with hOld | hAdded
    · exact Nat.lt_of_lt_of_le (hInv.allocated op hOld ref hRef) hRun.splits
    · obtain ⟨⟨k, hUserdata⟩, hLt⟩ := hNew op hAdded
      obtain rfl := Option.some.inj (hUserdata.symm.trans hRef)
      exact hLt
  case freshSplit =>
    intro address hFresh
    rw [hRun.memory]
    exact hInv.freshSplit address (Nat.le_trans hRun.splits hFresh)
  case freshKernel =>
    intro index hFresh
    rw [hRun.memory]
    rw [hOps, List.length_append] at hFresh
    exact hInv.freshKernel index (by omega)
  case declared =>
    intro index op hOp access hAccess
    rw [operatorAccesses_congr hRun.fields (fun ref _ => by rw [hRun.memory]) (by rw [hRun.memory])]
      at hAccess
    rw [hOps] at hOp
    by_cases hOld : index < context.operators.length
    · rw [List.getElem?_append_left hOld] at hOp
      exact hInv.declared index op hOp access hAccess
    · rw [List.getElem?_append_right (by omega)] at hOp
      obtain ⟨⟨k, hUserdata⟩, -⟩ := hNew op (List.mem_of_getElem? hOp)
      rw [operatorAccesses_nil hUserdata (hInv.freshSplit _ (Nat.le_refl _))] at hAccess
      cases hAccess

/-- A substep declares an access. -/
def SimSplitSubstep.DeclaresAccess {μ : Type} (ports : List SimSplitPort)
    (substep : SimSplitSubstep D μ) : FieldAccess → Prop
  | .read field => substep.Declares ports SimAccessMode.reads field
  | .write field => substep.Declares ports SimAccessMode.writes field

/-- A registration whose substeps declare the accesses of its private state. -/
theorem addSplit_invariant [CDouble D] (hInv : AccessInvariant context)
    {allocations : AddAllocations} {desc : SimSplitDescriptor D OperatorMemory}
    {state : OperatorState}
    (hDeclares : ∀ k substep, desc.substeps[k]? = some substep →
      ∀ access ∈ state.accesses k context.fields, substep.DeclaresAccess desc.ports access) :
    AccessInvariant (context.addSplit allocations desc state).1 := by
  have hRegisters := splitRegister_registers allocations.split desc [] context
  rw [addSplit]
  cases hRun : context.splitRegister allocations.split desc [] with
  | mk later result =>
    rw [hRun] at hRegisters
    change Registers context later at hRegisters
    have hLater := hRegisters.invariant hInv
    cases result with
    | error failure => exact hLater
    | ok range =>
        obtain ⟨address, hSound⟩ := splitRegister_sound hRun
        obtain ⟨ops, hOps, hNew⟩ := hRegisters.operators
        change AccessInvariant (later.setSplitState context.splits.length state)
        have hSome : desc.substeps ≠ [] := by
          intro hNone
          rw [splitRegister, if_pos hNone] at hRun
          cases hRun
        have hGrown : context.splits.length < later.splits.length := by
          have hCount := hSound.count
          rw [hOps, List.length_append] at hCount
          cases ops with
          | nil =>
              have hPos := List.length_pos_iff.mpr hSome
              rw [List.length_nil] at hCount
              omega
          | cons op ops => exact (hNew op List.mem_cons_self).2
        constructor
        case allocated => exact hLater.allocated
        case freshKernel => exact hLater.freshKernel
        case freshSplit =>
          intro place hFresh
          change later.splits.length ≤ place at hFresh
          rw [setSplitState]
          dsimp only
          rw [Function.update_of_ne (by omega)]
          exact hLater.freshSplit place hFresh
        case declared =>
          intro index op hOp access hAccess
          change later.operators[index]? = some op at hOp
          by_cases hOld : index < context.operators.length
          · rw [hSound.kept index hOld] at hOp
            have hSplit : ∀ ref, op.userdata = some ref →
                (later.setSplitState context.splits.length state).memory.split ref.shared =
                  context.memory.split ref.shared := by
              intro ref hRef
              have hLt := hInv.allocated op (List.mem_of_getElem? hOp) ref hRef
              rw [setSplitState]
              dsimp only
              rw [Function.update_of_ne (Nat.ne_of_lt hLt), hRegisters.memory]
            rw [@operatorAccesses_congr D context (later.setSplitState context.splits.length state) op
              index hRegisters.fields hSplit (congrArg (·.kernel index) hRegisters.memory)] at hAccess
            exact hInv.declared index op hOp access hAccess
          · obtain ⟨k, rfl⟩ := Nat.exists_eq_add_of_le (Nat.le_of_not_lt hOld)
            have hBound := List.getElem?_eq_some_iff.mp hOp
            obtain ⟨hLt, -⟩ := hBound
            have hK : k < desc.substeps.length := by
              have hCount := hSound.count
              omega
            obtain ⟨op', hOp', hSubstep⟩ := hSound.substep k desc.substeps[k]
              (List.getElem?_eq_getElem hK)
            obtain rfl := Option.some.inj (hOp.symm.trans hOp')
            rw [hOps, List.getElem?_append_right (Nat.le_add_right _ _)] at hOp
            obtain ⟨⟨k', hUserdata⟩, -⟩ := hNew op (List.mem_of_getElem? hOp)
            have hRef := hSubstep.userdata.symm.trans hUserdata
            cases hRef
            rw [@operatorAccesses_split D (later.setSplitState context.splits.length state) op _
              hUserdata state (Function.update_self _ _ _)] at hAccess
            change access ∈ state.accesses k later.fields at hAccess
            rw [hRegisters.fields] at hAccess
            have hDeclared := hDeclares k desc.substeps[k] (List.getElem?_eq_getElem hK) access hAccess
            cases access with
            | read field => exact (hSubstep.reads field).mpr hDeclared
            | write field => exact (hSubstep.writes field).mpr hDeclared

theorem AccessInvariant.planInvalidate (hInv : AccessInvariant context) :
    AccessInvariant context.planInvalidate :=
  ⟨hInv.allocated, hInv.freshSplit, hInv.freshKernel, hInv.declared⟩

/-- The operators of a shared record have a private state's accesses recorded. -/
def SimContext.RecordsState (context : SimContext D OperatorMemory) (address : ℕ)
    (state : OperatorState) : Prop :=
  ∀ op ∈ context.operators, ∀ ref, op.userdata = some ref → ref.shared = address →
    ∀ access ∈ state.accesses ref.substepIndex context.fields, op.Records access

theorem splitState_ok {index address : ℕ} {state : OperatorState}
    (hState : context.splitState index = .ok (address, state)) :
    ∃ op ∈ context.operators, ∃ ref, op.userdata = some ref ∧ ref.shared = address ∧
      context.memory.split address = some state := by
  rw [splitState] at hState
  cases hOp : context.operators[index]? with
  | none =>
      rw [hOp] at hState
      cases hState
  | some op =>
      rw [hOp] at hState
      dsimp only at hState
      cases hRef : op.userdata with
      | none =>
          rw [hRef] at hState
          cases hState
      | some ref =>
          rw [hRef] at hState
          dsimp only at hState
          cases hSplit : context.memory.split ref.shared with
          | none =>
              rw [hSplit] at hState
              cases hState
          | some found =>
              rw [hSplit] at hState
              cases hState
              exact ⟨op, List.mem_of_getElem? hOp, ref, hRef, rfl, hSplit⟩

/-- Replacing a private state by one whose accesses are recorded. -/
theorem setSplitState_invariant (hInv : AccessInvariant context) {index address : ℕ}
    {old state : OperatorState} (hState : context.splitState index = .ok (address, old))
    (hRecords : context.RecordsState address state) :
    AccessInvariant (context.setSplitState address state) := by
  obtain ⟨owner, hOwner, ownerRef, hOwnerRef, rfl, -⟩ := splitState_ok hState
  have hLt := hInv.allocated owner hOwner ownerRef hOwnerRef
  constructor
  case allocated => exact hInv.allocated
  case freshKernel => exact hInv.freshKernel
  case freshSplit =>
    intro place hFresh
    change context.splits.length ≤ place at hFresh
    rw [setSplitState]
    dsimp only
    rw [Function.update_of_ne (by omega)]
    exact hInv.freshSplit place hFresh
  case declared =>
    intro index op hOp access hAccess
    change context.operators[index]? = some op at hOp
    by_cases hOwn : ∃ ref, op.userdata = some ref ∧ ref.shared = ownerRef.shared
    · obtain ⟨ref, hRef, hSame⟩ := hOwn
      have hNew : (context.setSplitState ownerRef.shared state).memory.split ref.shared =
          some state := by
        rw [hSame]
        exact Function.update_self _ _ _
      rw [operatorAccesses_split hRef hNew] at hAccess
      exact hRecords op (List.mem_of_getElem? hOp) ref hRef hSame access hAccess
    · have hSplit : ∀ ref, op.userdata = some ref →
          (context.setSplitState ownerRef.shared state).memory.split ref.shared =
            context.memory.split ref.shared := by
        intro ref hRef
        exact Function.update_of_ne (fun hSame => hOwn ⟨ref, hRef, hSame⟩) _ _
      rw [@operatorAccesses_congr D context (context.setSplitState ownerRef.shared state) op index
        rfl hSplit rfl] at hAccess
      exact hInv.declared index op hOp access hAccess

/-! ### What the descriptors declare -/

section Declared

variable [CDouble D] (callbacks : OperatorCallbacks D) (fields : List (SimField D))

theorem segmentedSieveMark_declares (config : SimSegmentedSieveMarkOperatorConfig) (k : ℕ)
    (substep : SimSplitSubstep D OperatorMemory)
    (hSubstep : (segmentedSieveMarkDescriptor callbacks config).substeps[k]? = some substep) :
    ∀ access ∈ (OperatorState.segmentedSieveMark config).accesses k fields,
      substep.DeclaresAccess (segmentedSieveMarkDescriptor callbacks config).ports access := by
  intro access hAccess
  obtain rfl := List.mem_singleton.mp (List.mem_of_getElem? hSubstep)
  rw [OperatorState.accesses, segmentedSieveMarkAccesses] at hAccess
  split at hAccess
  · cases hAccess
  · simp only [List.mem_cons, List.not_mem_nil, or_false] at hAccess
    rcases hAccess with rfl | rfl | rfl
    · exact Or.inl ⟨⟨0, .read⟩, by simp, rfl, _, rfl, rfl⟩
    · exact Or.inl ⟨⟨1, .rw⟩, by simp, rfl, _, rfl, rfl⟩
    · exact Or.inl ⟨⟨1, .rw⟩, by simp, rfl, _, rfl, rfl⟩

theorem segmentedSieveMarkBatch_declares (config : SimSegmentedSieveMarkBatchOperatorConfig)
    (k : ℕ) (substep : SimSplitSubstep D OperatorMemory)
    (hSubstep : (segmentedSieveMarkBatchDescriptor callbacks config).substeps[k]? = some substep) :
    ∀ access ∈ (OperatorState.segmentedSieveMarkBatch config).accesses k fields,
      substep.DeclaresAccess (segmentedSieveMarkBatchDescriptor callbacks config).ports access := by
  intro access hAccess
  obtain rfl := List.mem_singleton.mp (List.mem_of_getElem? hSubstep)
  rw [OperatorState.accesses, segmentedSieveMarkBatchAccesses] at hAccess
  split at hAccess
  · cases hAccess
  · simp only [List.mem_cons, List.not_mem_nil, or_false] at hAccess
    rcases hAccess with rfl | rfl | rfl | rfl
    · exact Or.inl ⟨⟨0, .read⟩, by simp, rfl, _, rfl, rfl⟩
    · exact Or.inl ⟨⟨1, .read⟩, by simp, rfl, _, rfl, rfl⟩
    · exact Or.inl ⟨⟨2, .rw⟩, by simp, rfl, _, rfl, rfl⟩
    · exact Or.inl ⟨⟨2, .rw⟩, by simp, rfl, _, rfl, rfl⟩

omit [CDouble D] in
/-- A mixer substep loads the inputs and accesses the output, or the output alone. -/
theorem mem_mixerAccesses {config : SimMixerOperatorConfig} {layout : SimMixerFeedbackSplitMode}
    {k : ℕ} {access : FieldAccess} (hAccess : access ∈ mixerAccesses config layout k fields) :
    access = .read config.outputField ∨ access = .write config.outputField ∨
      (layout = .none ∨ k = 1) ∧
        (access = .read config.lhsField ∨ access = .read config.rhsField) := by
  have hApply : access ∈ mixerApplyAccesses config fields →
      access = .read config.outputField ∨ access = .write config.outputField ∨
        (access = .read config.lhsField ∨ access = .read config.rhsField) := by
    intro hMem
    rw [mixerApplyAccesses] at hMem
    split at hMem
    · cases hMem
    · split at hMem <;> simp at hMem <;> tauto
  have hInject : access ∈ mixerFeedbackInjectAccesses config fields →
      access = .read config.outputField ∨ access = .write config.outputField ∨
        (access = .read config.lhsField ∨ access = .read config.rhsField) := by
    intro hMem
    rw [mixerFeedbackInjectAccesses] at hMem
    split at hMem
    · exact hApply hMem
    split at hMem
    · cases hMem
    · simp at hMem
      tauto
  have hDecay : access ∈ mixerFeedbackDecayAccesses config layout k →
      access = .read config.outputField ∨ access = .write config.outputField := by
    intro hMem
    rw [mixerFeedbackDecayAccesses] at hMem
    split at hMem
    · simpa using hMem
    · cases hMem
  unfold mixerAccesses at hAccess
  cases layout with
  | none => exact (hApply hAccess).imp_right (Or.imp_right fun hLoad => ⟨Or.inl rfl, hLoad⟩)
  | lie =>
      dsimp only at hAccess
      split at hAccess
      case isTrue hK =>
        exact (hInject hAccess).imp_right (Or.imp_right fun hLoad => ⟨Or.inr hK, hLoad⟩)
      case isFalse => exact (hDecay hAccess).imp_right Or.inl
  | strang =>
      dsimp only at hAccess
      split at hAccess
      case isTrue hK =>
        exact (hInject hAccess).imp_right (Or.imp_right fun hLoad => ⟨Or.inr hK, hLoad⟩)
      case isFalse => exact (hDecay hAccess).imp_right Or.inl

/-- Every substep of a mixer updates the output, and those which load the inputs say so. -/
theorem mixerSubsteps_accesses {layout : SimMixerFeedbackSplitMode} {k : ℕ}
    {substep : SimSplitSubstep D OperatorMemory}
    (hSubstep : (mixerSubsteps callbacks layout)[k]? = some substep) :
    ⟨2, .rw⟩ ∈ substep.accesses ∧ (layout = .none ∨ k = 1 →
      ⟨0, .read⟩ ∈ substep.accesses ∧ ⟨1, .read⟩ ∈ substep.accesses) := by
  have hBoth : ∀ (fn : D → Callback D OperatorMemory),
      (⟨2, .rw⟩ : SimSplitAccess) ∈ (⟨fn, [⟨0, .read⟩, ⟨1, .read⟩, ⟨2, .rw⟩], CDouble.one, false⟩ :
        SimSplitSubstep D OperatorMemory).accesses := by
    intro fn
    simp
  cases layout with
  | none =>
      obtain rfl := List.mem_singleton.mp (List.mem_of_getElem? hSubstep)
      exact ⟨hBoth _, fun _ => by simp⟩
  | lie =>
      rcases k with _ | _ | k
      · obtain rfl := Option.some.inj hSubstep
        exact ⟨List.mem_singleton.mpr rfl, fun hLoads => by simp at hLoads⟩
      · obtain rfl := Option.some.inj hSubstep
        exact ⟨hBoth _, fun _ => by simp⟩
      · cases hSubstep
  | strang =>
      rcases k with _ | _ | _ | k
      · obtain rfl := Option.some.inj hSubstep
        exact ⟨List.mem_singleton.mpr rfl, fun hLoads => by simp at hLoads⟩
      · obtain rfl := Option.some.inj hSubstep
        exact ⟨hBoth _, fun _ => by simp⟩
      · obtain rfl := Option.some.inj hSubstep
        exact ⟨List.mem_singleton.mpr rfl, fun hLoads => by simp at hLoads⟩
      · cases hSubstep

theorem mixer_declares (config : SimMixerOperatorConfig) (layout : SimMixerFeedbackSplitMode)
    (needsComplex : Bool) (k : ℕ) (substep : SimSplitSubstep D OperatorMemory)
    (hSubstep : (mixerDescriptor callbacks config layout needsComplex).substeps[k]? = some substep) :
    ∀ access ∈ (OperatorState.mixer config layout).accesses k fields,
      substep.DeclaresAccess (mixerDescriptor callbacks config layout needsComplex).ports access := by
  intro access hAccess
  obtain ⟨hOutput, hInputs⟩ := mixerSubsteps_accesses callbacks hSubstep
  rcases mem_mixerAccesses fields hAccess with rfl | rfl | ⟨hLoads, rfl | rfl⟩
  · exact Or.inl ⟨_, hOutput, rfl, _, rfl, rfl⟩
  · exact Or.inl ⟨_, hOutput, rfl, _, rfl, rfl⟩
  · exact Or.inl ⟨_, (hInputs hLoads).1, rfl, _, rfl, rfl⟩
  · exact Or.inl ⟨_, (hInputs hLoads).2, rfl, _, rfl, rfl⟩

theorem chaosMap_declares {config : SimChaosMapOperatorConfig}
    (hParams : ∀ field, .read field ∈ chaosMapAccesses config fields →
      field = config.inputField ∨ field = config.outputField)
    (output : SimField D) (needsComplex : Bool) (k : ℕ)
    (substep : SimSplitSubstep D OperatorMemory)
    (hSubstep : (chaosMapDescriptor callbacks config output needsComplex).substeps[k]? =
      some substep) :
    ∀ access ∈ (OperatorState.chaosMap config).accesses k fields,
      substep.DeclaresAccess (chaosMapDescriptor callbacks config output needsComplex).ports
        access := by
  intro access hAccess
  obtain rfl := List.mem_singleton.mp (List.mem_of_getElem? hSubstep)
  cases access with
  | read field =>
      rcases hParams field hAccess with rfl | rfl
      · exact Or.inl ⟨⟨0, .read⟩, by simp, rfl, _, rfl, rfl⟩
      · exact Or.inl ⟨⟨1, .rw⟩, by simp, rfl, _, rfl, rfl⟩
  | write field =>
      have hField : field = config.outputField := by
        rw [OperatorState.accesses, chaosMapAccesses] at hAccess
        split at hAccess
        case h_2 => cases hAccess
        case h_1 =>
          split at hAccess
          case h_1 => cases hAccess
          case h_2 =>
            dsimp only at hAccess
            split at hAccess
            case isTrue => cases hAccess
            case isFalse =>
              split at hAccess
              case h_1 => cases hAccess
              case h_2 => simpa using hAccess
      rw [hField]
      exact Or.inl ⟨⟨1, .rw⟩, by simp, rfl, _, rfl, rfl⟩

/-- The masks of a kernel mixer record fields below 64, and no load of the output. -/
theorem mixerKernel_records {config : SimMixerOperatorConfig} {needsComplex : Bool}
    (hLhs : config.lhsField.toNat < 64) (hRhs : config.rhsField.toNat < 64)
    (hOutput : config.outputField.toNat < 64)
    (hAccumulate : config.accumulate = true →
      config.outputField = config.lhsField ∨ config.outputField = config.rhsField) :
    ∀ access ∈ mixerKernelAccesses config,
      (mixerKernelRecord callbacks config needsComplex).Records access := by
  have hRead : ∀ field, field = config.lhsField ∨ field = config.rhsField →
      (mixerKernelRecord callbacks config needsComplex).Records (.read field) := by
    intro field hField
    left
    change (setFieldBit (setFieldBit 0 config.lhsField) config.rhsField).getLsbD field.toNat = true
    rw [getLsbD_setFieldBit, getLsbD_setFieldBit]
    tauto
  have hWrite : (mixerKernelRecord callbacks config needsComplex).Records
      (.write config.outputField) := by
    left
    change (setFieldBit 0 config.outputField).getLsbD config.outputField.toNat = true
    rw [getLsbD_setFieldBit]
    exact Or.inr ⟨rfl, hOutput⟩
  intro access hAccess
  rw [mixerKernelAccesses] at hAccess
  split at hAccess
  case isTrue hOn =>
    simp at hAccess
    rcases hAccess with rfl | rfl | rfl | rfl
    · exact hRead _ (Or.inl rfl)
    · exact hRead _ (Or.inr rfl)
    · exact hWrite
    · exact hRead _ (hAccumulate hOn)
  case isFalse =>
    simp at hAccess
    rcases hAccess with rfl | rfl | rfl
    · exact hRead _ (Or.inl rfl)
    · exact hRead _ (Or.inr rfl)
    · exact hWrite

end Declared

/-! ### Calls -/

/-- The condition under which a call keeps the recorded access sets truthful. Sieves can
always be added; a chaos map may only load its parameters from its input or output; the
masks of a kernel mixer reach field 63 and miss its load of the output; an update may only
name fields that the registration recorded. -/
def KeepsDeclared [CDouble D] (context : SimContext D OperatorMemory) : AccessCall → Prop
  | .addSegmentedSieveMark _ _ | .addSegmentedSieveMarkBatch _ _ => True
  | .addMixer _ offer config =>
      let config := mixerNormalizeConfig (config.getD ⟨0, 0, 0, .linear, .none, false, true⟩)
      ∀ lhs rhs out, context.fields[config.lhsField.toNat]? = some lhs →
        context.fields[config.rhsField.toNat]? = some rhs →
        context.fields[config.outputField.toNat]? = some out →
        mixerOffersKernel offer config lhs rhs out
          (lhs.domain.isComplex || rhs.domain.isComplex || out.domain.isComplex) = true →
        config.lhsField.toNat < 64 ∧ config.rhsField.toNat < 64 ∧ config.outputField.toNat < 64 ∧
          (config.accumulate = true →
            config.outputField = config.lhsField ∨ config.outputField = config.rhsField)
  | .addChaosMap _ config =>
      let config := config.getD ⟨0, 0, sizeMax, sizeMax, sizeMax, sizeMax, sizeMax, sizeMax⟩
      ∀ field, .read field ∈ chaosMapAccesses config context.fields →
        field = config.inputField ∨ field = config.outputField
  | .segmentedSieveMarkUpdate index config =>
      ∀ address old, context.splitState index = .ok (address, .segmentedSieveMark old) →
        context.RecordsState address (.segmentedSieveMark (config.getD old))
  | .segmentedSieveMarkBatchUpdate index config =>
      ∀ address old, context.splitState index = .ok (address, .segmentedSieveMarkBatch old) →
        context.RecordsState address (.segmentedSieveMarkBatch (config.getD old))
  | .mixerUpdate index config =>
      ∀ address old layout, context.splitState index = .ok (address, .mixer old layout) →
        let config := mixerNormalizeConfig (config.getD old)
        mixerValidateFields context.fields[config.lhsField.toNat]?
          context.fields[config.rhsField.toNat]? context.fields[config.outputField.toNat]? = .ok () →
        context.RecordsState address (.mixer config layout)
  | .chaosMapUpdate index config =>
      ∀ address old, context.splitState index = .ok (address, .chaosMap old) →
        context.RecordsState address (.chaosMap (config.getD old))

section Calls

variable [CDouble D] (callbacks : OperatorCallbacks D) (hInv : AccessInvariant context)

include hInv

theorem addSegmentedSieveMark_invariant (allocations : AddAllocations)
    (config : Option SimSegmentedSieveMarkOperatorConfig) :
    AccessInvariant (context.addSegmentedSieveMark callbacks allocations config).1 := by
  rw [addSegmentedSieveMark]
  split
  · exact hInv
  split
  · exact hInv
  · exact addSplit_invariant hInv (segmentedSieveMark_declares callbacks _ _)

theorem addSegmentedSieveMarkBatch_invariant (allocations : AddAllocations)
    (config : Option SimSegmentedSieveMarkBatchOperatorConfig) :
    AccessInvariant (context.addSegmentedSieveMarkBatch callbacks allocations config).1 := by
  rw [addSegmentedSieveMarkBatch]
  split
  · exact hInv
  split
  · exact hInv
  · exact addSplit_invariant hInv (segmentedSieveMarkBatch_declares callbacks _ _)

theorem addChaosMap_invariant (allocations : AddAllocations)
    (config : Option SimChaosMapOperatorConfig)
    (hKeeps : KeepsDeclared context (.addChaosMap allocations config)) :
    AccessInvariant (context.addChaosMap callbacks allocations config).1 := by
  rw [addChaosMap]
  split
  · exact hInv
  dsimp only
  split
  case h_2 => exact hInv
  case h_1 =>
    split
    · exact hInv
    · exact addSplit_invariant hInv (chaosMap_declares callbacks _ hKeeps _ _)

/-- A registered kernel has its bindings recorded. -/
theorem registerKernel_invariant {allocations : RegisterAllocations}
    {config : SimMixerOperatorConfig} {needsComplex : Bool} {later : SimContext D OperatorMemory}
    {index : ℕ}
    (hRecords : ∀ access ∈ mixerKernelAccesses config,
      (mixerKernelRecord callbacks config needsComplex).Records access)
    (hRun : context.registerOperator allocations (mixerKernelRecord callbacks config needsComplex) =
      (later, .ok index)) :
    AccessInvariant (later.setKernelState index ⟨config, config⟩) := by
  obtain ⟨rfl, override, hLater⟩ := registerOperator_ok hRun
  have hFields : later.fields = context.fields := by rw [hLater]; rfl
  have hMemory : later.memory = context.memory := by rw [hLater]; rfl
  have hSplits : later.splits = context.splits := by rw [hLater]; rfl
  have hOps : later.operators = context.operators ++
      [{ mixerKernelRecord callbacks config needsComplex with config := override }] := by rw [hLater]
  clear hLater hRun
  constructor
  case allocated =>
    intro op hOp ref hRef
    change op ∈ later.operators at hOp
    change ref.shared < later.splits.length
    rw [hOps] at hOp
    rw [hSplits]
    rcases List.mem_append.mp hOp with hOld | hNew
    · exact hInv.allocated op hOld ref hRef
    · obtain rfl := List.mem_singleton.mp hNew
      cases hRef
  case freshSplit =>
    intro address hFresh
    change later.splits.length ≤ address at hFresh
    change later.memory.split address = none
    rw [hMemory]
    rw [hSplits] at hFresh
    exact hInv.freshSplit address hFresh
  case freshKernel =>
    intro place hFresh
    change later.operators.length ≤ place at hFresh
    rw [hOps, List.length_append, List.length_singleton] at hFresh
    rw [setKernelState]
    dsimp only
    rw [Function.update_of_ne (by omega), hMemory]
    exact hInv.freshKernel place (by omega)
  case declared =>
    intro place op hOp access hAccess
    change later.operators[place]? = some op at hOp
    rw [hOps] at hOp
    by_cases hOld : place < context.operators.length
    · rw [List.getElem?_append_left hOld] at hOp
      have hKernel : (later.setKernelState context.operators.length ⟨config, config⟩).memory.kernel
          place = context.memory.kernel place := by
        rw [setKernelState]
        dsimp only
        rw [Function.update_of_ne (Nat.ne_of_lt hOld), hMemory]
      rw [@operatorAccesses_congr D context
        (later.setKernelState context.operators.length ⟨config, config⟩) op place hFields
        (fun ref _ => congrArg (·.split ref.shared) hMemory) hKernel] at hAccess
      exact hInv.declared place op hOp access hAccess
    · rw [List.getElem?_append_right (by omega)] at hOp
      have hPlace : place = context.operators.length := by
        have hLt := (List.getElem?_eq_some_iff.mp hOp).1
        rw [List.length_singleton] at hLt
        omega
      obtain rfl := List.mem_singleton.mp (List.mem_of_getElem? hOp)
      subst hPlace
      have hNew : (later.setKernelState context.operators.length ⟨config, config⟩).memory.kernel
          context.operators.length = some ⟨config, config⟩ := Function.update_self _ _ _
      unfold operatorAccesses at hAccess
      change access ∈ (match (later.setKernelState context.operators.length
        ⟨config, config⟩).memory.kernel context.operators.length with
        | none => []
        | some kernel => mixerKernelAccesses kernel.bound) at hAccess
      rw [hNew] at hAccess
      exact hRecords access hAccess

omit hInv in
/-- A kernel that is not registered leaves nothing behind. -/
theorem registerKernel_error {allocations : RegisterAllocations} {config : SimMixerOperatorConfig}
    {needsComplex : Bool} {later : SimContext D OperatorMemory} {failure : SimError}
    (hRun : context.registerOperator allocations (mixerKernelRecord callbacks config needsComplex) =
      (later, .error failure)) : later = context := by
  rw [registerOperator] at hRun
  split at hRun
  case isTrue =>
    cases hRun
    rfl
  case isFalse =>
    split at hRun
    case h_2 => cases hRun
    case h_1 =>
      cases hRun
      exact ite_self _

theorem addMixer_invariant (allocations : AddAllocations) (offer : KernelOffer)
    (config : Option SimMixerOperatorConfig)
    (hKeeps : KeepsDeclared context (.addMixer allocations offer config)) :
    AccessInvariant (context.addMixer callbacks allocations offer config).1 := by
  rw [addMixer]
  split
  · exact hInv
  dsimp only
  split
  · exact hInv
  split
  case h_2 => exact hInv
  case h_1 lhs rhs out hLhs hRhs hOut =>
    split
    case isFalse => exact addSplit_invariant hInv (mixer_declares callbacks _ _ _ _)
    case isTrue hOffers =>
      obtain ⟨hLhsBit, hRhsBit, hOutputBit, hAccumulate⟩ := hKeeps lhs rhs out hLhs hRhs hOut hOffers
      split
      case h_1 hRun =>
        rw [registerKernel_error callbacks hRun]
        exact addSplit_invariant hInv (mixer_declares callbacks _ _ _ _)
      case h_2 hRun =>
        exact registerKernel_invariant callbacks hInv
          (mixerKernel_records callbacks hLhsBit hRhsBit hOutputBit hAccumulate) hRun

omit [CDouble D] in
theorem segmentedSieveMarkUpdate_invariant (index : ℕ)
    (config : Option SimSegmentedSieveMarkOperatorConfig)
    (hKeeps : ∀ address old, context.splitState index = .ok (address, .segmentedSieveMark old) →
      context.RecordsState address (.segmentedSieveMark (config.getD old))) :
    AccessInvariant (context.segmentedSieveMarkUpdate index config).1 := by
  rw [segmentedSieveMarkUpdate]
  split
  case h_1 => exact hInv
  case h_3 => exact hInv
  case h_2 address old hState =>
    dsimp only
    split
    · exact hInv
    · exact (setSplitState_invariant hInv hState (hKeeps address old hState)).planInvalidate

omit [CDouble D] in
theorem segmentedSieveMarkBatchUpdate_invariant (index : ℕ)
    (config : Option SimSegmentedSieveMarkBatchOperatorConfig)
    (hKeeps : ∀ address old,
      context.splitState index = .ok (address, .segmentedSieveMarkBatch old) →
      context.RecordsState address (.segmentedSieveMarkBatch (config.getD old))) :
    AccessInvariant (context.segmentedSieveMarkBatchUpdate index config).1 := by
  rw [segmentedSieveMarkBatchUpdate]
  split
  case h_1 => exact hInv
  case h_3 => exact hInv
  case h_2 address old hState =>
    dsimp only
    split
    · exact hInv
    · exact (setSplitState_invariant hInv hState (hKeeps address old hState)).planInvalidate

omit [CDouble D] in
theorem chaosMapUpdate_invariant (index : ℕ) (config : Option SimChaosMapOperatorConfig)
    (hKeeps : ∀ address old, context.splitState index = .ok (address, .chaosMap old) →
      context.RecordsState address (.chaosMap (config.getD old))) :
    AccessInvariant (context.chaosMapUpdate index config).1 := by
  rw [chaosMapUpdate]
  split
  case h_1 => exact hInv
  case h_3 => exact hInv
  case h_2 address old hState =>
    exact setSplitState_invariant hInv hState (hKeeps address old hState)

omit [CDouble D] in
/-- The configuration of a kernel mixer has no part in its accesses. -/
theorem setKernelState_invariant {index : ℕ} {kernel : MixerKernel}
    (hKernel : context.memory.kernel index = some kernel) (config : SimMixerOperatorConfig) :
    AccessInvariant (context.setKernelState index { kernel with config := config }) := by
  constructor
  case allocated => exact hInv.allocated
  case freshSplit => exact hInv.freshSplit
  case freshKernel =>
    intro place hFresh
    change context.operators.length ≤ place at hFresh
    have hOther : place ≠ index := by
      rintro rfl
      rw [hInv.freshKernel place hFresh] at hKernel
      cases hKernel
    rw [setKernelState]
    dsimp only
    rw [Function.update_of_ne hOther]
    exact hInv.freshKernel place hFresh
  case declared =>
    intro place op hOp access hAccess
    apply hInv.declared place op hOp access
    unfold operatorAccesses at hAccess ⊢
    cases hRef : op.userdata with
    | some ref =>
        rw [hRef] at hAccess
        exact hAccess
    | none =>
        rw [hRef] at hAccess
        by_cases hSame : place = index
        · subst hSame
          rw [setKernelState] at hAccess
          dsimp only at hAccess ⊢
          rw [Function.update_self] at hAccess
          rw [hKernel]
          exact hAccess
        · rw [setKernelState] at hAccess
          dsimp only at hAccess ⊢
          rw [Function.update_of_ne hSame] at hAccess
          exact hAccess

theorem mixerUpdate_invariant (index : ℕ) (config : Option SimMixerOperatorConfig)
    (hKeeps : KeepsDeclared context (.mixerUpdate index config)) :
    AccessInvariant (context.mixerUpdate index config).1 := by
  rw [mixerUpdate]
  dsimp only
  split
  case h_1 address old layout hState =>
    split
    · exact hInv
    case h_2 hValid =>
      exact (setSplitState_invariant hInv hState
        (hKeeps address old layout hState hValid)).planInvalidate
  case h_2 => exact hInv
  case h_3 failure _ =>
    split
    case h_1 => exact hInv
    case h_2 kernel hKernel =>
      split
      · exact hInv
      · exact (setKernelState_invariant hInv hKernel _).planInvalidate

/-- One call under its condition. -/
theorem step_invariant (call : AccessCall) (hKeeps : KeepsDeclared context call) :
    AccessInvariant (AccessCall.step callbacks context call) := by
  cases call with
  | addSegmentedSieveMark allocations config =>
      exact addSegmentedSieveMark_invariant callbacks hInv allocations config
  | addSegmentedSieveMarkBatch allocations config =>
      exact addSegmentedSieveMarkBatch_invariant callbacks hInv allocations config
  | addMixer allocations offer config =>
      exact addMixer_invariant callbacks hInv allocations offer config hKeeps
  | addChaosMap allocations config =>
      exact addChaosMap_invariant callbacks hInv allocations config hKeeps
  | segmentedSieveMarkUpdate index config =>
      exact segmentedSieveMarkUpdate_invariant hInv index config hKeeps
  | segmentedSieveMarkBatchUpdate index config =>
      exact segmentedSieveMarkBatchUpdate_invariant hInv index config hKeeps
  | mixerUpdate index config => exact mixerUpdate_invariant hInv index config hKeeps
  | chaosMapUpdate index config => exact chaosMapUpdate_invariant hInv index config hKeeps

end Calls

/-- None of the four operators is registered yet. -/
structure WithoutOperators (context : SimContext D OperatorMemory) : Prop where
  allocated : ∀ op ∈ context.operators, ∀ ref, op.userdata = some ref →
    ref.shared < context.splits.length
  split : ∀ address, context.memory.split address = none
  kernel : ∀ index, context.memory.kernel index = none

theorem WithoutOperators.invariant (hStart : WithoutOperators context) :
    AccessInvariant context := by
  constructor
  case allocated => exact hStart.allocated
  case freshSplit => exact fun address _ => hStart.split address
  case freshKernel => exact fun index _ => hStart.kernel index
  case declared =>
    intro index op _ access hAccess
    unfold operatorAccesses at hAccess
    cases hRef : op.userdata with
    | none =>
        rw [hRef] at hAccess
        dsimp only at hAccess
        rw [hStart.kernel] at hAccess
        cases hAccess
    | some ref =>
        rw [hRef] at hAccess
        dsimp only at hAccess
        rw [hStart.split] at hAccess
        cases hAccess

/-- The recorded access sets are truthful after every run of calls that keep them so. -/
theorem accessesDeclared_of_run [CDouble D] (callbacks : OperatorCallbacks D)
    (hStart : WithoutOperators context) (calls : List AccessCall)
    (hCalls : EachCall (AccessCall.step callbacks) KeepsDeclared context calls) :
    AccessesDeclared (Library.Run.after (AccessCall.step callbacks) context calls) :=
  (after_invariant AccessInvariant (fun _ call hInv hKeeps => step_invariant callbacks hInv call hKeeps)
    hStart.invariant hCalls).declared

/-- Three fields of `uint64_t`: the candidates 2, 3 and 4, and two of set flags. -/
def candidatesAndFlags : SimContext ℤ OperatorMemory :=
  let field (word : ℕ → BitVec 64) : SimField ℤ :=
    { initialized := true
      shape := [3]
      strides := [1]
      elementSize := 8
      data := some (.words word)
      complexMode := false
      repr := ⟨.physical, .realScalar⟩
      scalarDomain := simScalarDomainU64 }
  { SimContext.init ⟨0, 0, 0, 0, 0⟩ ⟨fun _ => none, fun _ => none⟩ with
    fields := [field fun i => BitVec.ofNat 64 (i + 2), field fun _ => 1, field fun _ => 1] }

def idleCallbacks : OperatorCallbacks ℤ :=
  let idle : Callback ℤ OperatorMemory := fun _ _ memory => ⟨fun _ => none, memory, .ok ()⟩
  ⟨fun _ => idle, fun _ => idle, fun _ => idle, fun _ => idle, fun _ => idle, idle, fun _ => idle⟩

theorem candidatesAndFlags_withoutOperators : WithoutOperators candidatesAndFlags :=
  ⟨fun _ hOp => (nomatch hOp), fun _ => rfl, fun _ => rfl⟩

/-- A sieve registered with the flags of field 1, then moved to those of field 2. -/
def movedSieve : List AccessCall :=
  [.addSegmentedSieveMark ⟨true, .granted⟩ (some ⟨0, 1, 2⟩),
    .segmentedSieveMarkUpdate 0 (some ⟨0, 2, 2⟩)]

/-- The moved sieve stores to a field the registry does not record. -/
theorem movedSieve_undeclared :
    ¬AccessesDeclared (Library.Run.after (AccessCall.step idleCallbacks) candidatesAndFlags
        movedSieve) ∧
      ∃ marked, segmentedSieveMarkApply ⟨0, 2, 2⟩ candidatesAndFlags.fields =
          some (.ok (), marked) ∧
        readElement candidatesAndFlags.fields 2 simScalarDomainU64 2 = some 1 ∧
        readElement marked 2 simScalarDomainU64 2 = some 0 := by
  constructor
  · intro hDeclared
    rcases hDeclared 0 _ rfl (.write 2) (by decide) with hMask | hListed
    · exact absurd hMask (by decide)
    · exact absurd hListed (by decide)
  · exact ⟨_, rfl, by decide, by decide⟩

theorem accessesDeclared_of_run_sieve :
    AccessesDeclared (Library.Run.after (AccessCall.step idleCallbacks) candidatesAndFlags
      [.addSegmentedSieveMark ⟨true, .granted⟩ (some ⟨0, 1, 2⟩)]) :=
  accessesDeclared_of_run idleCallbacks candidatesAndFlags_withoutOperators _ ⟨trivial, trivial⟩

end Oakfield
