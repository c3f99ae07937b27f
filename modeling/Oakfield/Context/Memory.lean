import Oakfield.Context

/-! Fields of a context and its memory accounting. -/
namespace Oakfield

open KernelIR

/-- `SIZE_MAX` as a bound on byte counts. -/
def sizeLimit : ℕ := 2 ^ 64 - 1

/-- `sim_context_add_size`: the sum, unless it is above `SIZE_MAX`. -/
def simContextAddSize (a b : ℕ) : Option ℕ := if a + b ≤ sizeLimit then some (a + b) else none

theorem simContextAddSize_some {a b sum : ℕ} :
    simContextAddSize a b = some sum ↔ sum = a + b ∧ a + b ≤ sizeLimit := by
  rw [simContextAddSize]
  split
  case isTrue hFits => simp [hFits, eq_comm]
  case isFalse hWraps => simp [hWraps]

namespace SimContext

variable {D μ : Type}

/-- `sim_context_check_field_limits`. -/
def checkFieldLimits (context : SimContext D μ) (elementCount fieldBytes : ℕ) :
    Except SimError Unit :=
  let limits := context.memoryLimits
  if elementCount = 0 ∨ fieldBytes = 0 then .error .invalidArgument
  else if 0 < limits.maxFieldElements ∧ limits.maxFieldElements < elementCount then
    .error .outOfMemory
  else if 0 < limits.maxFieldBytes ∧ limits.maxFieldBytes < fieldBytes then .error .outOfMemory
  else if 0 < limits.maxFields ∧ limits.maxFields ≤ context.fields.length then
    .error .outOfMemory
  else if 0 < limits.maxTotalFieldBytes then
    if limits.maxTotalFieldBytes < fieldBytes then .error .outOfMemory
    else if limits.maxTotalFieldBytes - fieldBytes < context.bytesFieldsInUse then
      .error .outOfMemory
    else .ok ()
  else if sizeLimit - fieldBytes < context.bytesFieldsInUse then .error .outOfMemory
  else .ok ()

/-- `sim_context_reserve_scratch`. -/
def reserveScratch (bytes : ℕ) (context : SimContext D μ) : ContextCall D μ :=
  if bytes = 0 then (context, .ok ())
  else
    match simContextAddSize context.bytesScratchInUse bytes with
    | none => (context, .error .outOfMemory)
    | some newScratch =>
        match simContextAddSize context.bytesFieldsInUse newScratch with
        | none => (context, .error .outOfMemory)
        | some newTotal =>
            ({ context with bytesScratchInUse := newScratch, bytesTotalInUse := newTotal }, .ok ())

/-- Reserving scratch changes two counters only. -/
theorem reserveScratch_ok {bytes : ℕ} {context later : SimContext D μ} {result : Unit}
    (hRun : context.reserveScratch bytes = (later, .ok result)) :
    ∃ total, later = { context with
      bytesScratchInUse := context.bytesScratchInUse + bytes
      bytesTotalInUse := total } := by
  rw [reserveScratch] at hRun
  split at hRun
  case isTrue hZero =>
    cases hRun
    exact ⟨context.bytesTotalInUse, by rw [hZero]; rfl⟩
  case isFalse =>
    split at hRun
    case h_1 => cases hRun
    case h_2 newScratch hScratch =>
      split at hRun
      case h_1 => cases hRun
      case h_2 newTotal hTotal =>
        rw [simContextAddSize_some] at hScratch
        obtain ⟨rfl, -⟩ := hScratch
        cases hRun
        exact ⟨newTotal, rfl⟩

/-- `sim_context_release_scratch`. -/
def releaseScratch (bytes : ℕ) (context : SimContext D μ) : SimContext D μ :=
  if bytes = 0 then context
  else
    let scratch := if context.bytesScratchInUse ≤ bytes then 0 else context.bytesScratchInUse - bytes
    { context with
      bytesScratchInUse := scratch
      bytesTotalInUse := (simContextAddSize context.bytesFieldsInUse scratch).getD sizeLimit }

/-- The allocations which `sim_context_add_field` asks for. -/
structure AddFieldAllocations where
  fields : Bool
  continuity : Bool

/-- `sim_runtime_state_ensure_continuity_capacity` and the initialisation of
the counters of a new field. The lists are as long as the fields. -/
def addCounters (runtime : SimRuntimeState D) : SimRuntimeState D :=
  { runtime with
    fieldDirtyCounts := runtime.fieldDirtyCounts ++ [0]
    fieldStableCounts := runtime.fieldStableCounts ++ [0] }

/-- `sim_context_add_field`; the index is that of the new field. -/
def addField (allocations : AddFieldAllocations) (field : SimField D) (context : SimContext D μ) :
    ContextCall D μ :=
  let elementCount := SimField.elementCount field.shape
  let fieldBytes := field.bytes
  if field.data.isNone ∨ field.elementSize = 0 then (context, .error .invalidArgument)
  else if elementCount = 0 ∨ fieldBytes = 0 then (context, .error .invalidArgument)
  else
    match context.checkFieldLimits elementCount fieldBytes with
    | .error failure => (context, .error failure)
    | .ok _ =>
        match simContextAddSize context.bytesFieldsInUse fieldBytes with
        | none => (context, .error .outOfMemory)
        | some nextFields =>
            match simContextAddSize nextFields context.bytesScratchInUse with
            | none => (context, .error .outOfMemory)
            | some nextTotal =>
                if !allocations.fields || !allocations.continuity then
                  (context, .error .outOfMemory)
                else
                  ({ context.planInvalidate with
                      fields := context.fields ++ [field]
                      runtime := addCounters context.runtime
                      bytesFieldsInUse := nextFields
                      bytesTotalInUse := nextTotal }, .ok ())

end SimContext

end Oakfield
