import Oakfield.Context.AccountingRuns
import Oakfield.Context.SplitRegistration

/-! What a failed registration of a split operator leaves behind: substeps which had
been registered before the failure, and references which are freed again. -/
namespace Oakfield

open SimContext

variable {D μ : Type} [CDouble D]

/-! ### The exits of the registration -/

/-- The checks and allocations ahead of the loop over the substeps succeed. -/
structure SimContext.ReachesSubsteps (allocations : SplitAllocations)
    (desc : SimSplitDescriptor D μ) (context : SimContext D μ) : Prop where
  substeps : desc.substeps ≠ []
  allocated : (!allocations.shared || !allocations.descriptor) = false
  limit : ¬(0 < desc.scratchBytesPerWorker ∧
    0 < context.memoryLimits.maxScratchBytesPerOperator ∧
      context.memoryLimits.maxScratchBytesPerOperator < desc.scratchBytesPerWorker)
  reserved : (context.reserveScratch desc.scratchBytesPerWorker).2 = .ok ()
  masks : allocations.masks = true
  ports : checkPorts context desc.ports = .ok ()

/-- The descriptor which the loop passes to `sim_operator_assign` for a substep, if it
gets there. -/
def assignedDescriptor (allocations : SubstepAllocations) (desc : SimSplitDescriptor D μ)
    (dependencies : List SizeT) (address index : ℕ) (substep : SimSplitSubstep D μ) :
    Option (SimOperatorRecord D μ) :=
  if desc.ports ≠ [] ∧ !allocations.accessLists then none
  else
    match substepAccessSets desc.ports substep with
    | .error _ => none
    | .ok sets =>
        if !allocations.ref || !allocations.register.grow then none
        else some (substepDescriptor desc dependencies address index substep sets)

/-- The references which the loop frees, as often as it frees them: `sim_operator_reset`
frees the one of a slot, and every exit behind the registration frees it itself. -/
def freedReferences (allocations : ℕ → SubstepAllocations) (desc : SimSplitDescriptor D μ)
    (address : ℕ) : List (SimSplitSubstep D μ) → ℕ → List SizeT → ℕ → List ℕ
  | [], _, _, _ => []
  | substep :: substeps, index, dependencies, position =>
      if desc.ports ≠ [] ∧ !(allocations index).accessLists then []
      else
        match substepAccessSets desc.ports substep with
        | .error _ => []
        | .ok sets =>
            if !(allocations index).ref then []
            else if !(allocations index).register.grow then [index]
            else
              match operatorAssign (allocations index).register
                (substepDescriptor desc dependencies address index substep sets) with
              | .error (_, reset) => if reset then [index, index] else [index]
              | .ok _ =>
                  freedReferences allocations desc address substeps (index + 1)
                    [BitVec.ofNat 64 position] (position + 1)

/-- What an error return of `sim_split_register` promises. -/
structure RolledBack (allocations : SplitAllocations) (desc : SimSplitDescriptor D μ)
    (dependencies : List SizeT) (context later : SimContext D μ) : Prop where
  operators : later.operators = context.operators
  scratch : later.bytesScratchInUse = context.bytesScratchInUse
  total : later.bytesTotalInUse = context.bytesTotalInUse
  references : ∀ op ∈ later.operators, ∀ ref shared, op.userdata = some ref →
    ref.shared = context.splits.length → later.splits[ref.shared]? = some shared →
      shared.live = true
  destroyed : ∀ shared, later.splits[context.splits.length]? = some shared →
    shared.destroyCalls ≤ 1
  freed : context.ReachesSubsteps allocations desc →
    (freedReferences allocations.substep desc context.splits.length desc.substeps 0 dependencies
      context.operators.length).Nodup

/-- No substep gets as far as `sim_operator_assign`. -/
def FailsAhead (allocations : SplitAllocations) (desc : SimSplitDescriptor D μ)
    (dependencies : List SizeT) (context : SimContext D μ) : Prop :=
  context.ReachesSubsteps allocations desc → ∀ substep ∈ desc.substeps.head?,
    assignedDescriptor (allocations.substep 0) desc dependencies context.splits.length 0 substep =
      none

variable {allocations : SplitAllocations} {desc : SimSplitDescriptor D μ}
  {dependencies : List SizeT} {context later : SimContext D μ} {address : ℕ}

/-! ### Frames -/

omit [CDouble D] in
theorem checkPorts_congr {other : SimContext D μ} (hFields : other.fields = context.fields)
    (ports : List SimSplitPort) : checkPorts other ports = checkPorts context ports := by
  induction ports with
  | nil => rfl
  | cons port ports ih => rw [checkPorts, checkPorts, hFields, ih]

omit [CDouble D] in
@[simp]
theorem splitReleaseScratchBudget_operators :
    (context.splitReleaseScratchBudget address).operators = context.operators := by
  cases hShared : context.splits[address]? with
  | none => simp [splitReleaseScratchBudget, hShared]
  | some shared => exact (splitReleaseScratchBudget_spec hShared).2.2

omit [CDouble D] in
@[simp]
theorem splitAbort_operators : (context.splitAbort address).operators = context.operators := by
  rw [splitAbort, modifySplit, splitReleaseScratchBudget_operators]

omit [CDouble D] in
@[simp]
theorem splitDestroy_operators (ref : SimSplitOperatorRef) :
    (context.splitDestroy ref).operators = context.operators := by
  rw [splitDestroy]
  split
  case h_1 => rfl
  case h_2 => split_ifs <;> simp [modifySplit]

theorem registerOperator_error {allocations : RegisterAllocations}
    {descriptor : SimOperatorRecord D μ} {failure : SimError}
    (hRun : context.registerOperator allocations descriptor = (later, .error failure)) :
    later.operators = context.operators := by
  rw [registerOperator] at hRun
  split at hRun
  case isTrue => cases hRun; rfl
  case isFalse =>
    split at hRun
    case h_1 failed reset hAssign =>
      cases hRun
      cases descriptor.userdata with
      | none => simp [destroyPayload]
      | some ref => split <;> simp [destroyPayload]
    case h_2 => cases hRun

/-- The loop only appends to the registry. -/
theorem registerSubsteps_appends {allocations : ℕ → SubstepAllocations}
    (substeps : List (SimSplitSubstep D μ)) (index : ℕ) (dependencies : List SizeT)
    (previous : SizeT) :
    context.operators <+: (registerSubsteps allocations desc address substeps index dependencies
      previous context).1.operators := by
  induction substeps generalizing index dependencies previous context with
  | nil => exact List.prefix_rfl
  | cons substep substeps ih =>
      rw [registerSubsteps]
      split
      case isTrue => simp
      case isFalse =>
        split
        case h_1 => simp
        case h_2 sets hSets =>
          split
          case isTrue => simp
          case isFalse =>
            split
            case h_1 after failure hRun => simp [registerOperator_error hRun]
            case h_2 after registered hRun =>
              obtain ⟨-, config, rfl⟩ := registerOperator_ok hRun
              dsimp only
              refine List.IsPrefix.trans ?_ (ih _ _ _)
              exact List.prefix_append _ _

/-! ### Payloads -/

/-- The payloads of the operators refer to records which have been allocated. -/
def SimContext.PayloadsAllocated (context : SimContext D μ) : Prop :=
  ∀ op ∈ context.operators, ∀ ref, op.userdata = some ref → ref.shared < context.splits.length

omit [CDouble D] in
theorem SimContext.PayloadsAllocated.of_same (hPayloads : context.PayloadsAllocated)
    (hOperators : later.operators = context.operators)
    (hLength : context.splits.length ≤ later.splits.length) : later.PayloadsAllocated := by
  intro op hOp ref hRef
  rw [hOperators] at hOp
  exact (hPayloads op hOp ref hRef).trans_le hLength

omit [CDouble D] in
@[simp]
theorem splitReleaseScratchBudget_length :
    (context.splitReleaseScratchBudget address).splits.length = context.splits.length := by
  rw [splitReleaseScratchBudget]
  split
  case h_1 => rfl
  case h_2 => split_ifs <;> simp [modifySplit]

omit [CDouble D] in
@[simp]
theorem splitAbort_length :
    (context.splitAbort address).splits.length = context.splits.length := by
  simp [splitAbort, modifySplit]

omit [CDouble D] in
@[simp]
theorem splitDestroy_length (ref : SimSplitOperatorRef) :
    (context.splitDestroy ref).splits.length = context.splits.length := by
  rw [splitDestroy]
  split
  case h_1 => rfl
  case h_2 => split_ifs <;> simp [modifySplit]

/-- A registration keeps the records, and adds at most one operator with its payload. -/
theorem registerOperator_payloads (allocations : RegisterAllocations)
    {descriptor : SimOperatorRecord D μ} {index : ℕ}
    (hUserdata : descriptor.userdata = some ⟨address, index⟩)
    (hAddress : address < context.splits.length) (hPayloads : context.PayloadsAllocated) :
    (context.registerOperator allocations descriptor).1.PayloadsAllocated ∧
      (context.registerOperator allocations descriptor).1.splits.length =
        context.splits.length := by
  cases hRun : context.registerOperator allocations descriptor with
  | mk after result =>
      cases result with
      | ok registered =>
          obtain ⟨-, config, rfl⟩ := registerOperator_ok hRun
          refine ⟨?_, rfl⟩
          intro op hOp ref hRef
          obtain hOld | hNew := List.mem_append.mp hOp
          · exact hPayloads op hOld ref hRef
          · cases List.mem_singleton.mp hNew
            cases hUserdata.symm.trans hRef
            exact hAddress
      | error failure =>
          have hLength : after.splits.length = context.splits.length := by
            rw [registerOperator] at hRun
            split at hRun
            case isTrue => cases hRun; rfl
            case isFalse =>
              split at hRun
              case h_1 =>
                cases hRun
                split <;> simp [destroyPayload, hUserdata]
              case h_2 => cases hRun
          exact ⟨hPayloads.of_same (registerOperator_error hRun) hLength.ge, hLength⟩

theorem registerSubsteps_payloads (allocations : ℕ → SubstepAllocations)
    (desc : SimSplitDescriptor D μ) (substeps : List (SimSplitSubstep D μ)) (index : ℕ)
    (dependencies : List SizeT) (previous : SizeT) (hAddress : address < context.splits.length)
    (hPayloads : context.PayloadsAllocated) :
    (registerSubsteps allocations desc address substeps index dependencies previous
      context).1.PayloadsAllocated := by
  induction substeps generalizing index dependencies previous context with
  | nil => exact hPayloads
  | cons substep substeps ih =>
      have hAborted : (context.splitAbort address).PayloadsAllocated :=
        hPayloads.of_same splitAbort_operators splitAbort_length.ge
      rw [registerSubsteps]
      split
      case isTrue => exact hAborted
      case isFalse =>
        split
        case h_1 => exact hAborted
        case h_2 sets hSets =>
          split
          case isTrue => exact hAborted
          case isFalse =>
            have hRegistered := registerOperator_payloads (allocations index).register
              (show (substepDescriptor desc dependencies address index substep sets).userdata =
                some ⟨address, index⟩ from rfl) hAddress hPayloads
            split
            case h_1 after failure hRun =>
              rw [hRun] at hRegistered
              exact hRegistered.1.of_same splitAbort_operators splitAbort_length.ge
            case h_2 after registered hRun =>
              rw [hRun] at hRegistered
              exact ih _ _ _ (hRegistered.2 ▸ hAddress) hRegistered.1

/-! ### The first substep -/

/-- An operator with a callback which cannot be assigned has been reset. -/
theorem operatorAssign_error {allocations : RegisterAllocations}
    {descriptor : SimOperatorRecord D μ} {failure : SimError} {reset : Bool}
    (hCallback : descriptor.evaluate.isSome = true)
    (hRun : operatorAssign allocations descriptor = .error (failure, reset)) : reset = true := by
  rw [operatorAssign, Option.isNone_eq_false_iff.mpr hCallback, Bool.false_and] at hRun
  repeat' split at hRun
  all_goals cases hRun
  all_goals first | rfl | contradiction

section First

variable {allocations : ℕ → SubstepAllocations} {substep : SimSplitSubstep D μ}
  {substeps : List (SimSplitSubstep D μ)} {index position : ℕ} {previous : SizeT}

/-- Without an assignment the loop ends with its cleanup. -/
theorem registerSubsteps_unassigned (hNone : assignedDescriptor (allocations index) desc
      dependencies address index substep = none) :
    (registerSubsteps allocations desc address (substep :: substeps) index dependencies previous
        context).1 = context.splitAbort address ∧
      (freedReferences allocations desc address (substep :: substeps) index dependencies
        position).Nodup := by
  rw [assignedDescriptor] at hNone
  rw [registerSubsteps, freedReferences]
  split at hNone
  case isTrue hLists => simp [hLists]
  case isFalse hLists =>
    rw [if_neg hLists, if_neg hLists]
    split at hNone
    case h_1 failure hSets => simp [hSets]
    case h_2 sets hSets =>
      split at hNone
      case isFalse => cases hNone
      case isTrue hRefused =>
        cases hRef : (allocations index).ref with
        | false => simp [hSets]
        | true =>
            have hGrow : (allocations index).register.grow = false := by simpa [hRef] using hRefused
            simp [hSets, hGrow, registerOperator]

/-- An assignment frees the reference again, or leaves its operator in the registry. -/
theorem registerSubsteps_assigned {descriptor : SimOperatorRecord D μ}
    (hSome : assignedDescriptor (allocations index) desc dependencies address index substep =
      some descriptor) :
    ¬ (freedReferences allocations desc address (substep :: substeps) index dependencies
        position).Nodup ∨
      ∃ op, context.operators ++ [op] <+: (registerSubsteps allocations desc address
        (substep :: substeps) index dependencies previous context).1.operators := by
  rw [assignedDescriptor] at hSome
  rw [registerSubsteps, freedReferences]
  split at hSome
  case isTrue => cases hSome
  case isFalse hLists =>
    rw [if_neg hLists, if_neg hLists]
    split at hSome
    case h_1 => cases hSome
    case h_2 sets hSets =>
      split at hSome
      case isTrue => cases hSome
      case isFalse hGranted =>
        obtain ⟨hRef, hGrow⟩ : (allocations index).ref = true ∧
            (allocations index).register.grow = true := by simpa using hGranted
        cases hAssign : operatorAssign (allocations index).register
            (substepDescriptor desc dependencies address index substep sets) with
        | error failed =>
            obtain ⟨failure, reset⟩ := failed
            cases operatorAssign_error rfl hAssign
            left
            simp [hRef, hGrow]
        | ok op =>
            right
            refine ⟨context.applyOverrideToOperator op, ?_⟩
            simp only [hSets, hRef, hGrow, hAssign, registerOperator, Bool.not_true,
              Bool.false_eq_true, if_false]
            refine List.IsPrefix.trans ?_ (registerSubsteps_appends substeps _ _ _)
            exact List.prefix_rfl

end First

/-! ### Failed registrations -/

/-- The context in which the loop over the substeps starts. -/
def openedSplit (desc : SimSplitDescriptor D μ) (context : SimContext D μ) : SimContext D μ :=
  let reserved := (context.reserveScratch desc.scratchBytesPerWorker).1
  { reserved with splits := reserved.splits ++ [allocatedShared desc] }

omit [CDouble D] in
theorem openedSplit_frame (desc : SimSplitDescriptor D μ) (context : SimContext D μ) :
    (openedSplit desc context).operators = context.operators ∧
      (openedSplit desc context).fields = context.fields ∧
      (openedSplit desc context).splits = context.splits ++ [allocatedShared desc] := by
  rw [openedSplit]
  cases hReserve : context.reserveScratch desc.scratchBytesPerWorker with
  | mk reserved result =>
      cases result with
      | error failure =>
          rw [reserveScratch_error hReserve]
          exact ⟨rfl, rfl, rfl⟩
      | ok code =>
          obtain ⟨total, rfl⟩ := reserveScratch_ok hReserve
          exact ⟨rfl, rfl, rfl⟩

omit [CDouble D] in
/-- The cleanup leaves a record which has not been destroyed. -/
theorem openedSplit_aborted (desc : SimSplitDescriptor D μ) (context : SimContext D μ) :
    ((openedSplit desc context).splitAbort context.splits.length).splits[context.splits.length]? =
      some { closeBudget (allocatedShared desc) with live := false } := by
  have hShared : (openedSplit desc context).splits[context.splits.length]? =
      some (allocatedShared desc) := by
    rw [(openedSplit_frame desc context).2.2, List.getElem?_concat_length]
  rw [splitAbort, modifySplit, List.getElem?_modify_eq, (splitReleaseScratchBudget_spec hShared).1]
  rfl

/-- A failed call ends ahead of the loop, with or without a record to clean up, or in it. -/
theorem splitRegister_error {failure : SimError}
    (hRun : context.splitRegister allocations desc dependencies = (later, .error failure)) :
    (¬ context.ReachesSubsteps allocations desc ∧
      (later = context ∨ later = (openedSplit desc context).splitAbort context.splits.length)) ∨
    (context.ReachesSubsteps allocations desc ∧
      registerSubsteps allocations.substep desc context.splits.length desc.substeps 0 dependencies
        sizeMax (openedSplit desc context) = (later, .error failure)) := by
  have hFrame := openedSplit_frame desc context
  rw [splitRegister] at hRun
  dsimp only at hRun
  split at hRun
  case isTrue hNone =>
    cases hRun
    exact .inl ⟨fun hReaches => hReaches.substeps hNone, .inl rfl⟩
  case isFalse hSome =>
    split at hRun
    case isTrue hRefused =>
      cases hRun
      exact .inl ⟨fun hReaches => by simp [hReaches.allocated] at hRefused, .inl rfl⟩
    case isFalse hAllocated =>
      split at hRun
      case isTrue hLimit =>
        cases hRun
        exact .inl ⟨fun hReaches => hReaches.limit hLimit, .inl rfl⟩
      case isFalse hLimit =>
        cases hReserve : context.reserveScratch desc.scratchBytesPerWorker with
        | mk reserved result =>
            have hOpened : openedSplit desc context =
                { reserved with splits := reserved.splits ++ [allocatedShared desc] } := by
              rw [openedSplit, hReserve]
            cases result with
            | error failed =>
                rw [hReserve] at hRun
                cases hRun
                refine .inl ⟨fun hReaches => ?_, .inl (reserveScratch_error hReserve)⟩
                have hOk := hReaches.reserved
                rw [hReserve] at hOk
                cases hOk
            | ok code =>
                have hLength : reserved.splits.length = context.splits.length := by
                  obtain ⟨total, rfl⟩ := reserveScratch_ok hReserve
                  rfl
                rw [hReserve] at hRun
                dsimp only at hRun
                rw [← hOpened, hLength] at hRun
                split at hRun
                case isTrue hMasks =>
                  cases hRun
                  exact .inl ⟨fun hReaches => by simp [hReaches.masks] at hMasks, .inr rfl⟩
                case isFalse hMasks =>
                  rw [checkPorts_congr hFrame.2.1] at hRun
                  split at hRun
                  case h_1 failed hPorts =>
                    cases hRun
                    refine .inl ⟨fun hReaches => ?_, .inr rfl⟩
                    rw [hReaches.ports] at hPorts
                    cases hPorts
                  case h_2 passed hPorts =>
                    right
                    refine ⟨⟨hSome, by simpa using hAllocated, hLimit, by rw [hReserve],
                      by simpa using hMasks, hPorts⟩, ?_⟩
                    split at hRun
                    case h_1 after failed hLoop =>
                      cases hRun
                      exact hLoop
                    case h_2 => cases hRun

/-- A successful call ends in the loop. -/
theorem splitRegister_ok {indices : SizeT × SizeT}
    (hRun : context.splitRegister allocations desc dependencies = (later, .ok indices)) :
    ∃ last, registerSubsteps allocations.substep desc context.splits.length desc.substeps 0
      dependencies sizeMax (openedSplit desc context) = (later, .ok last) := by
  rw [splitRegister] at hRun
  dsimp only at hRun
  split at hRun
  case isTrue => cases hRun
  case isFalse =>
    split at hRun
    case isTrue => cases hRun
    case isFalse =>
      split at hRun
      case isTrue => cases hRun
      case isFalse =>
        split at hRun
        case h_1 => cases hRun
        case h_2 reserved code hReserve =>
          have hOpened : openedSplit desc context =
              { reserved with splits := reserved.splits ++ [allocatedShared desc] } := by
            rw [openedSplit, hReserve]
          have hLength : reserved.splits.length = context.splits.length := by
            obtain ⟨total, rfl⟩ := reserveScratch_ok hReserve
            rfl
          rw [← hOpened, hLength] at hRun
          split at hRun
          case isTrue => cases hRun
          case isFalse =>
            split at hRun
            case h_1 => cases hRun
            case h_2 =>
              split at hRun
              case h_1 => cases hRun
              case h_2 after last hLoop =>
                cases hRun
                exact ⟨last, hLoop⟩

/-- A call which fails ahead of the first assignment leaves the context, or the context
with a record which is cleaned up. -/
theorem splitRegister_ahead {failure : SimError}
    (hRun : context.splitRegister allocations desc dependencies = (later, .error failure))
    (hAhead : FailsAhead allocations desc dependencies context) :
    (later = context ∨ later = (openedSplit desc context).splitAbort context.splits.length) ∧
      (context.ReachesSubsteps allocations desc →
        (freedReferences allocations.substep desc context.splits.length desc.substeps 0 dependencies
          context.operators.length).Nodup) := by
  obtain ⟨hNot, hLater⟩ | ⟨hReaches, hLoop⟩ := splitRegister_error hRun
  case inl => exact ⟨hLater, fun hReaches => absurd hReaches hNot⟩
  case inr =>
    have hNone := hAhead hReaches
    cases hSubsteps : desc.substeps with
    | nil => exact absurd hSubsteps hReaches.substeps
    | cons substep substeps =>
        rw [hSubsteps] at hNone hLoop
        have hFirst := @registerSubsteps_unassigned D μ _ desc dependencies
          (openedSplit desc context)
          context.splits.length allocations.substep substep substeps 0 context.operators.length
          sizeMax (hNone substep rfl)
        rw [hLoop] at hFirst
        exact ⟨.inr hFirst.1, fun _ => hFirst.2⟩

/-- Payloads refer to allocated records after a registration, whatever its result. -/
theorem payloadsAllocated_splitRegister (hPayloads : context.PayloadsAllocated)
    (allocations : SplitAllocations) (desc : SimSplitDescriptor D μ) (dependencies : List SizeT) :
    (context.splitRegister allocations desc dependencies).1.PayloadsAllocated := by
  obtain ⟨hOperators, -, hSplits⟩ := openedSplit_frame desc context
  have hMore : context.splits.length < (openedSplit desc context).splits.length := by
    simp [hSplits]
  have hOpened := hPayloads.of_same hOperators hMore.le
  have hLoop := registerSubsteps_payloads allocations.substep desc desc.substeps 0 dependencies
    sizeMax hMore hOpened
  cases hRun : context.splitRegister allocations desc dependencies with
  | mk after result =>
      cases result with
      | error failure =>
          obtain ⟨-, rfl | rfl⟩ | ⟨-, hEnded⟩ := splitRegister_error hRun
          · exact hPayloads
          · exact hOpened.of_same splitAbort_operators splitAbort_length.ge
          · rwa [hEnded] at hLoop
      | ok indices =>
          obtain ⟨last, hEnded⟩ := splitRegister_ok hRun
          rwa [hEnded] at hLoop

/-- An error return rolls the registration back exactly if no substep gets as far as the
assignment of its operator. -/
theorem splitRegister_rolledBack_iff {limits : SimContextMemoryLimits}
    (hAccounted : Accounted limits context) (hPayloads : context.PayloadsAllocated)
    (allocations : SplitAllocations) (desc : SimSplitDescriptor D μ) (dependencies : List SizeT)
    {failure : SimError}
    (hRun : context.splitRegister allocations desc dependencies = (later, .error failure)) :
    RolledBack allocations desc dependencies context later ↔
      FailsAhead allocations desc dependencies context := by
  constructor
  case mp =>
    intro hBack hReaches substep hHead
    by_contra hSome
    obtain ⟨descriptor, hSome⟩ := Option.ne_none_iff_exists'.mp hSome
    obtain ⟨hNot, -⟩ | ⟨-, hLoop⟩ := splitRegister_error hRun
    case inl => exact hNot hReaches
    case inr =>
      obtain ⟨substeps, hSubsteps⟩ := List.head?_eq_some_iff.mp hHead
      have hFreed := hBack.freed hReaches
      rw [hSubsteps] at hFreed hLoop
      have hAssigned := @registerSubsteps_assigned D μ _ desc dependencies
        (openedSplit desc context) context.splits.length allocations.substep substep substeps 0
        context.operators.length sizeMax descriptor hSome
      obtain hTwice | ⟨op, hPrefix⟩ := hAssigned
      case inl => exact hTwice hFreed
      case inr =>
        rw [hLoop, hBack.operators, (openedSplit_frame desc context).1] at hPrefix
        have hLength := hPrefix.length_le
        simp at hLength
  case mpr =>
    intro hAhead
    obtain ⟨hLater, hFreed⟩ := splitRegister_ahead hRun hAhead
    have hUnchanged := (splitRegister_accounting hAccounted allocations desc dependencies).unchanged
    rw [hRun] at hUnchanged
    have hMemory := hUnchanged failure rfl
    have hOperators : later.operators = context.operators := by
      obtain rfl | rfl := hLater
      · rfl
      · rw [splitAbort_operators, (openedSplit_frame desc context).1]
    constructor
    case operators => exact hOperators
    case scratch => exact hMemory.bytesScratchInUse
    case total => exact hMemory.bytesTotalInUse
    case freed => exact hFreed
    case references =>
      intro op hOp ref shared hRef hFresh
      rw [hOperators] at hOp
      have hOld := hPayloads op hOp ref hRef
      omega
    case destroyed =>
      intro shared hShared
      obtain rfl | rfl := hLater
      case inl => simp at hShared
      case inr =>
        rw [openedSplit_aborted] at hShared
        cases hShared
        by_cases hSize : 0 < desc.scratchBytesPerWorker <;>
          simp [closeBudget, allocatedShared, hSize]

/-- The second substep accesses a port which does not exist. -/
def missingPort : SimSplitDescriptor ℤ Unit :=
  { readThenWrite with
    substeps :=
      [⟨fun _ _ _ _ => ⟨fun _ => none, (), .ok ()⟩, [⟨0, .read⟩], 1, false⟩,
        ⟨fun _ _ _ _ => ⟨fun _ => none, (), .ok ()⟩, [⟨7, .write⟩], 1, false⟩] }

/-- The operator of the first substep stays, and refers to the freed record. -/
theorem missingPort_not_rolledBack :
    (oneField.splitRegister .granted missingPort []).2 = .error .invalidArgument ∧
      (oneField.splitRegister .granted missingPort []).1.operators.map (·.userdata) =
        [some ⟨0, 0⟩] ∧
      (oneField.splitRegister .granted missingPort []).1.splits.map (·.live) = [false] ∧
      ¬ RolledBack .granted missingPort [] oneField
        (oneField.splitRegister .granted missingPort []).1 := by
  refine ⟨rfl, rfl, rfl, fun hBack => ?_⟩
  have hLength := congrArg List.length hBack.operators
  exact absurd hLength (by decide)

theorem accounted_oneField : Accounted ⟨0, 0, 0, 0, 0⟩ oneField := by
  constructor
  case memoryLimits => rfl
  case fields => rfl
  case balanced => exact ⟨rfl, by decide⟩
  case withinLimits => constructor <;> exact fun hLimit => absurd hLimit (by decide)

theorem splitRegister_rolledBack_missingPort :
    RolledBack .granted missingPort [] oneField
        (oneField.splitRegister .granted missingPort []).1 ↔
      FailsAhead .granted missingPort [] oneField :=
  splitRegister_rolledBack_iff accounted_oneField (fun _ hMem => by cases hMem) .granted
    missingPort []
    (show oneField.splitRegister .granted missingPort [] =
      ((oneField.splitRegister .granted missingPort []).1, .error .invalidArgument) from rfl)

end Oakfield
