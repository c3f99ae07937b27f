import Oakfield.Context.Accounting
import Oakfield.Context.SplitLifetime
import Oakfield.Library.Run

/-! Runs of the calls which change the memory accounting of a context. -/
namespace Oakfield

open Library

/-- A call which changes fields or counters, with the allocations it is granted. -/
inductive MemoryCall (D μ : Type) where
  | addField (allocations : SimContext.AddFieldAllocations) (field : SimField D)
  | splitRegister (allocations : SplitAllocations) (desc : SimSplitDescriptor D μ)
      (dependencies : List SizeT)
  | reserveScratch (bytes : ℕ)
  | releaseScratch (bytes : ℕ)
  | preparePlan (allocate : ℕ → ℕ → Bool)

variable {D μ : Type} {context later : SimContext D μ} {limits : SimContextMemoryLimits}

namespace SimContext

/-! ### Split operators -/

theorem splitReleaseScratchBudget_frame (address : ℕ) (context : SimContext D μ) :
    (context.splitReleaseScratchBudget address).fields = context.fields ∧
      (context.splitReleaseScratchBudget address).bytesFieldsInUse = context.bytesFieldsInUse ∧
      (context.splitReleaseScratchBudget address).memoryLimits = context.memoryLimits ∧
      (context.Balanced → (context.splitReleaseScratchBudget address).Balanced) := by
  rw [splitReleaseScratchBudget]
  split
  case h_1 => exact ⟨rfl, rfl, rfl, id⟩
  case h_2 shared hShared =>
    split_ifs
    · exact ⟨rfl, rfl, rfl, id⟩
    · obtain ⟨hFields, hBytes, hLimits⟩ := releaseScratch_frame shared.scratchSize context
      refine ⟨hFields, hBytes, hLimits, fun hBalanced => ?_⟩
      obtain ⟨hTotal, hFits⟩ := hBalanced.releaseScratch shared.scratchSize
      exact ⟨hTotal, hFits⟩
    · exact ⟨rfl, rfl, rfl, fun hBalanced => ⟨hBalanced.total, hBalanced.fits⟩⟩

/-- The shared record at `address` holds a budget on top of the scratch bytes
which were in use at the start. -/
structure Reserving (start : SimContext D μ) (address : ℕ) (context : SimContext D μ) : Prop where
  fields : context.fields = start.fields
  bytesFieldsInUse : context.bytesFieldsInUse = start.bytesFieldsInUse
  memoryLimits : context.memoryLimits = start.memoryLimits
  balanced : context.Balanced
  record : ∃ shared, context.splits[address]? = some shared ∧
    context.bytesScratchInUse = start.bytesScratchInUse + budget shared

variable {start : SimContext D μ} {address : ℕ}

theorem Reserving.modifySplit (hReserving : Reserving start address context)
    (change : SimSplitShared → SimSplitShared)
    (hBudget : ∀ shared, budget (change shared) = budget shared) :
    Reserving start address (context.modifySplit address change) := by
  obtain ⟨shared, hShared, hScratch⟩ := hReserving.record
  constructor
  case fields => exact hReserving.fields
  case bytesFieldsInUse => exact hReserving.bytesFieldsInUse
  case memoryLimits => exact hReserving.memoryLimits
  case balanced => exact ⟨hReserving.balanced.total, hReserving.balanced.fits⟩
  case record =>
    refine ⟨change shared, ?_, ?_⟩
    · rw [SimContext.modifySplit, List.getElem?_modify_eq, hShared]
      rfl
    · rw [hBudget]
      exact hScratch

theorem budget_closeBudget (shared : SimSplitShared) : budget (closeBudget shared) = 0 := by
  cases hAccounted : shared.scratchAccounted <;> simp [budget, closeBudget, hAccounted]

/-- Releasing the budget returns to the scratch bytes of the start. -/
theorem Reserving.release (hReserving : Reserving start address context) :
    Reserving start address (context.splitReleaseScratchBudget address) ∧
      (context.splitReleaseScratchBudget address).bytesScratchInUse = start.bytesScratchInUse := by
  obtain ⟨shared, hShared, hScratch⟩ := hReserving.record
  obtain ⟨hFields, hBytes, hLimits, hBalanced⟩ := splitReleaseScratchBudget_frame address context
  obtain ⟨hClosed, hReleased, -⟩ := splitReleaseScratchBudget_spec hShared
  have hStart : (context.splitReleaseScratchBudget address).bytesScratchInUse =
      start.bytesScratchInUse := by omega
  constructor
  · constructor
    case fields => exact hFields.trans hReserving.fields
    case bytesFieldsInUse => exact hBytes.trans hReserving.bytesFieldsInUse
    case memoryLimits => exact hLimits.trans hReserving.memoryLimits
    case balanced => exact hBalanced hReserving.balanced
    case record => exact ⟨closeBudget shared, hClosed, by rw [budget_closeBudget, hStart]; rfl⟩
  · exact hStart

theorem Reserving.splitDestroy (hReserving : Reserving start address context) (index : ℕ) :
    Reserving start address (context.splitDestroy ⟨address, index⟩) := by
  rw [SimContext.splitDestroy]
  split
  case h_1 => exact hReserving
  case h_2 shared hShared =>
    split_ifs
    · exact hReserving
    · exact hReserving.modifySplit _ fun _ => rfl
    · have hCounted := hReserving.modifySplit (fun shared =>
        { shared with refcount := shared.refcount - 1 }) fun _ => rfl
      have hDestroyed := hCounted.modifySplit (fun shared =>
        if shared.hasDestroy then { shared with destroyCalls := shared.destroyCalls + 1 }
        else shared) fun shared => by split <;> rfl
      exact hDestroyed.release.1.modifySplit _ fun _ => rfl

/-- The cleanup of a failed registration leaves nothing reserved. -/
theorem Reserving.splitAbort (hReserving : Reserving start address context) :
    Reserving start address (context.splitAbort address) ∧
      (context.splitAbort address).bytesScratchInUse = start.bytesScratchInUse := by
  obtain ⟨hReleased, hStart⟩ := hReserving.release
  exact ⟨hReleased.modifySplit _ fun _ => rfl, hStart⟩

theorem Reserving.registerOperator [CDouble D] (hReserving : Reserving start address context)
    (allocations : RegisterAllocations) {descriptor : SimOperatorRecord D μ} {index : ℕ}
    (hUserdata : descriptor.userdata = some ⟨address, index⟩) :
    Reserving start address (context.registerOperator allocations descriptor).1 := by
  obtain ⟨hFields, hBytes, hLimits, ⟨hTotal, hFits⟩, hRecord⟩ := hReserving
  rw [SimContext.registerOperator]
  split
  case isTrue => exact ⟨hFields, hBytes, hLimits, ⟨hTotal, hFits⟩, hRecord⟩
  case isFalse =>
    split
    case h_1 failure reset hAssign =>
      cases reset with
      | false => exact ⟨hFields, hBytes, hLimits, ⟨hTotal, hFits⟩, hRecord⟩
      | true =>
          rw [if_pos rfl, hUserdata]
          exact Reserving.splitDestroy ⟨hFields, hBytes, hLimits, ⟨hTotal, hFits⟩, hRecord⟩ index
    case h_2 => exact ⟨hFields, hBytes, hLimits, ⟨hTotal, hFits⟩, hRecord⟩

/-- Registering the substeps keeps the budget, or returns it on failure. -/
theorem Reserving.registerSubsteps [CDouble D] (hReserving : Reserving start address context)
    (allocations : ℕ → SubstepAllocations) (desc : SimSplitDescriptor D μ)
    (substeps : List (SimSplitSubstep D μ)) (index : ℕ) (dependencies : List SizeT)
    (previous : SizeT) :
    let run := Oakfield.registerSubsteps allocations desc address substeps index dependencies
      previous context
    Reserving start address run.1 ∧
      ∀ failure, run.2 = .error failure → run.1.bytesScratchInUse = start.bytesScratchInUse := by
  induction substeps generalizing index dependencies previous context with
  | nil => exact ⟨hReserving, fun failure hFailed => by cases hFailed⟩
  | cons substep substeps ih =>
      have hAborted := hReserving.splitAbort
      rw [Oakfield.registerSubsteps]
      split
      case isTrue => exact ⟨hAborted.1, fun _ _ => hAborted.2⟩
      case isFalse =>
        split
        case h_1 => exact ⟨hAborted.1, fun _ _ => hAborted.2⟩
        case h_2 sets hSets =>
          split
          case isTrue => exact ⟨hAborted.1, fun _ _ => hAborted.2⟩
          case isFalse =>
            have hRegistered := hReserving.registerOperator (allocations index).register
              (show (substepDescriptor desc dependencies address index substep sets).userdata =
                some ⟨address, index⟩ from rfl)
            cases hRun : context.registerOperator (allocations index).register
              (substepDescriptor desc dependencies address index substep sets) with
            | mk after result =>
                rw [hRun] at hRegistered
                cases result with
                | error failure =>
                    have hFailed := hRegistered.splitAbort
                    exact ⟨hFailed.1, fun _ _ => hFailed.2⟩
                | ok registered => exact ih hRegistered _ _ _

theorem Reserving.keepsMemory (hReserving : Reserving start address context)
    (hStart : start.Balanced) (hScratch : context.bytesScratchInUse = start.bytesScratchInUse) :
    KeepsMemory start context := by
  constructor
  case fields => exact hReserving.fields
  case bytesFieldsInUse => exact hReserving.bytesFieldsInUse
  case bytesScratchInUse => exact hScratch
  case bytesTotalInUse =>
    rw [hReserving.balanced.total, hReserving.bytesFieldsInUse, hScratch, hStart.total]

/-- A fresh record holds what has been reserved for it. -/
theorem reserving_allocated {desc : SimSplitDescriptor D μ} {reserved : SimContext D μ}
    {code : Unit} (hBalanced : context.Balanced)
    (hRun : context.reserveScratch desc.scratchBytesPerWorker = (reserved, .ok code)) :
    Reserving context reserved.splits.length
      { reserved with splits := reserved.splits ++ [allocatedShared desc] } := by
  obtain ⟨hTotal, hFits⟩ := hBalanced.reserveScratch hRun
  obtain ⟨total, rfl⟩ := reserveScratch_ok hRun
  constructor
  case fields => rfl
  case bytesFieldsInUse => rfl
  case memoryLimits => rfl
  case balanced => exact ⟨hTotal, hFits⟩
  case record =>
    refine ⟨allocatedShared desc, List.getElem?_concat_length, ?_⟩
    by_cases hSize : 0 < desc.scratchBytesPerWorker
    · simp [budget, allocatedShared, hSize]
    · simp [budget, allocatedShared, show desc.scratchBytesPerWorker = 0 by omega]

/-! ### Calls -/

/-- What every call but the preparation of a plan promises. -/
structure CallAccounted {α : Type} (limits : SimContextMemoryLimits) (context : SimContext D μ)
    (run : SimContext D μ × Except SimError α) : Prop where
  accounted : Accounted limits run.1
  unchanged : ∀ failure, run.2 = .error failure → KeepsMemory context run.1

variable {α : Type} {failure : SimError}

theorem Accounted.failed (hAccounted : Accounted limits context) :
    CallAccounted limits context (context, (.error failure : Except SimError α)) :=
  ⟨hAccounted, fun _ _ => .refl context⟩

theorem Reserving.ended {result : Except SimError α} (hReserving : Reserving start address context)
    (hStart : Accounted limits start) (hScratch : ∀ failure, result = .error failure →
      context.bytesScratchInUse = start.bytesScratchInUse) :
    CallAccounted limits start (context, result) := by
  constructor
  case accounted =>
    exact hStart.scratch hReserving.fields hReserving.bytesFieldsInUse hReserving.memoryLimits
      hReserving.balanced
  case unchanged =>
    intro failure hFailed
    exact hReserving.keepsMemory hStart.balanced (hScratch failure hFailed)

/-- A registration keeps the accounting, and a failed one the memory. -/
theorem splitRegister_accounting [CDouble D] (hAccounted : Accounted limits context)
    (allocations : SplitAllocations) (desc : SimSplitDescriptor D μ) (dependencies : List SizeT) :
    CallAccounted limits context (context.splitRegister allocations desc dependencies) := by
  rw [splitRegister]
  dsimp only
  split
  case isTrue => exact hAccounted.failed
  case isFalse =>
    split
    case isTrue => exact hAccounted.failed
    case isFalse =>
      split
      case isTrue => exact hAccounted.failed
      case isFalse =>
        cases hReserve : context.reserveScratch desc.scratchBytesPerWorker with
        | mk reserved result =>
            cases result with
            | error failure =>
                rw [reserveScratch_error hReserve]
                exact hAccounted.failed
            | ok code =>
                have hReserving := reserving_allocated hAccounted.balanced hReserve
                have hAborted := hReserving.splitAbort
                dsimp only
                split
                case isTrue => exact hAborted.1.ended hAccounted fun _ _ => hAborted.2
                case isFalse =>
                  split
                  case h_1 => exact hAborted.1.ended hAccounted fun _ _ => hAborted.2
                  case h_2 =>
                    have hSubsteps := hReserving.registerSubsteps allocations.substep desc
                      desc.substeps 0 dependencies sizeMax
                    split
                    case h_1 after failure hRun =>
                      rw [hRun] at hSubsteps
                      exact hSubsteps.1.ended hAccounted fun _ _ => hSubsteps.2 failure rfl
                    case h_2 after last hRun =>
                      rw [hRun] at hSubsteps
                      apply hSubsteps.1.ended hAccounted
                      intro failure hFailed
                      cases hFailed

variable [CDouble D]

/-! ### Runs -/

/-- The context after a call, and the result code of the call. -/
def memoryCall (context : SimContext D μ) : MemoryCall D μ → ContextCall D μ
  | .addField allocations field => context.addField allocations field
  | .splitRegister allocations desc dependencies =>
      let run := context.splitRegister allocations desc dependencies
      (run.1, run.2.map fun _ => ())
  | .reserveScratch bytes => context.reserveScratch bytes
  | .releaseScratch bytes => (context.releaseScratch bytes, .ok ())
  | .preparePlan allocate => context.preparePlan allocate

/-- What a call promises: the accounting and the limits, and memory as it was
when the call fails. Preparation keeps the fields it had promoted by then. -/
structure MemoryCallSound (limits : SimContextMemoryLimits) (context : SimContext D μ)
    (call : MemoryCall D μ) : Prop where
  accounted : Accounted limits (context.memoryCall call).1
  unchanged : ∀ failure, (context.memoryCall call).2 = .error failure →
    PromotedFrom context.fields (context.memoryCall call).1.fields ∧
      (context.memoryCall call).1.bytesScratchInUse = context.bytesScratchInUse ∧
      ((∀ allocate, call ≠ .preparePlan allocate) →
        KeepsMemory context (context.memoryCall call).1)

theorem CallAccounted.sound {call : MemoryCall D μ}
    (hCall : CallAccounted limits context (context.memoryCall call)) :
    MemoryCallSound limits context call := by
  constructor
  case accounted => exact hCall.accounted
  case unchanged =>
    intro failure hFailed
    have hKept := hCall.unchanged failure hFailed
    rw [hKept.fields, hKept.bytesScratchInUse]
    exact ⟨.refl _, rfl, fun _ => hKept⟩

end SimContext

end Oakfield
