import Oakfield.Context.Register

/-! Registration of split operators: one operator for each substep, all of them
holding a reference to one shared record. -/
namespace Oakfield

inductive SimAccessMode where
  | read
  | write
  | rw
deriving DecidableEq, Repr

structure SimSplitPort where
  contextFieldIndex : SizeT
  requireComplex : Bool
deriving DecidableEq, Repr

structure SimSplitAccess where
  port : ℕ
  mode : SimAccessMode
deriving DecidableEq, Repr

/-- `SimSplitSubstep`; the callback receives the timestep of the substep. -/
structure SimSplitSubstep (D μ : Type) where
  fn : D → Callback D μ
  accesses : List SimSplitAccess
  dtScale : D
  barrierAfter : Bool

/-- `SimSplitDescriptor`; `hasDestroy` stands for the callback `destroy`. -/
structure SimSplitDescriptor (D μ : Type) where
  ports : List SimSplitPort
  substeps : List (SimSplitSubstep D μ)
  saveState : Option (Callback D μ)
  restoreState : Option (Callback D μ)
  hasDestroy : Bool
  representation : SimOperatorRepresentation
  config : SimOperatorConfig D
  warpLevel : SimWarpLevel
  scratchBytesPerWorker : ℕ

/-! ### Access sets of a substep -/

/-- `sim_split_append_unique`. -/
def simSplitAppendUnique (array : List SizeT) (capacity : ℕ) (value : SizeT) :
    Bool × List SizeT :=
  if capacity < array.length then (false, array)
  else if value ∈ array then (true, array)
  else if array.length = capacity then (false, array)
  else (true, array ++ [value])

/-- `rmask`, `wmask`, `read_fields` and `write_fields` of a substep. -/
structure SplitAccessSets where
  readMask : BitVec 64
  writeMask : BitVec 64
  readFields : List SizeT
  writeFields : List SizeT
deriving DecidableEq, Repr

/-- Set the bit of a field, when the mask has one. -/
def setFieldBit (mask : BitVec 64) (field : SizeT) : BitVec 64 :=
  if field < 64 then mask ||| BitVec.twoPow 64 field.toNat else mask

def SimAccessMode.reads (mode : SimAccessMode) : Bool := mode == .read || mode == .rw

def SimAccessMode.writes (mode : SimAccessMode) : Bool := mode == .write || mode == .rw

/-- One iteration of the loop over the accesses of a substep. -/
def noteAccess (ports : List SimSplitPort) (sets : SplitAccessSets) (access : SimSplitAccess) :
    Except SimError SplitAccessSets :=
  match ports[access.port]? with
  | none => .error .invalidArgument
  | some port =>
      let field := port.contextFieldIndex
      let reads :=
        if access.mode.reads then simSplitAppendUnique sets.readFields ports.length field
        else (true, sets.readFields)
      let writes :=
        if access.mode.writes then simSplitAppendUnique sets.writeFields ports.length field
        else (true, sets.writeFields)
      if !reads.1 || !writes.1 then .error .outOfMemory
      else .ok
        { readMask := if access.mode.reads then setFieldBit sets.readMask field else sets.readMask
          writeMask :=
            if access.mode.writes then setFieldBit sets.writeMask field else sets.writeMask
          readFields := reads.2
          writeFields := writes.2 }

/-- One iteration of the loop over the ports behind a barrier. -/
def noteBarrier (capacity : ℕ) (sets : SplitAccessSets) (port : SimSplitPort) : SplitAccessSets :=
  let field := port.contextFieldIndex
  { readMask := setFieldBit sets.readMask field
    writeMask := setFieldBit sets.writeMask field
    readFields := (simSplitAppendUnique sets.readFields capacity field).2
    writeFields := (simSplitAppendUnique sets.writeFields capacity field).2 }

/-- The access sets which a substep is registered with. -/
def substepAccessSets {D μ : Type} (ports : List SimSplitPort) (substep : SimSplitSubstep D μ) :
    Except SimError SplitAccessSets := do
  let sets ← substep.accesses.foldlM (noteAccess ports) ⟨0, 0, [], []⟩
  return if substep.barrierAfter then ports.foldl (noteBarrier ports.length) sets else sets

/-! ### Registration -/

section Register

variable {D μ : Type} [CDouble D]

/-- `sim_context_timestep`. -/
def SimRuntimeState.timestep (runtime : SimRuntimeState D) : D :=
  if CDouble.le runtime.dt CDouble.zero then simRuntimeDefaultDt else runtime.dt

/-- `sim_split_eval`, without the thread-local scratch buffer. -/
def simSplitEval (substep : SimSplitSubstep D μ) : Callback D μ := fun fields runtime memory =>
  let baseDt :=
    if CDouble.le runtime.timestep CDouble.zero then CDouble.lit 1 (-12) else runtime.timestep
  let scale :=
    if CDouble.gt substep.dtScale CDouble.zero then substep.dtScale else CDouble.one
  substep.fn (CDouble.mul baseDt scale) fields runtime memory

/-- The allocations for one substep. -/
structure SubstepAllocations where
  accessLists : Bool
  ref : Bool
  register : SimContext.RegisterAllocations

/-- The allocations of `sim_split_register`. -/
structure SplitAllocations where
  shared : Bool
  descriptor : Bool
  masks : Bool
  substep : ℕ → SubstepAllocations

/-- The descriptor of the operator for a substep. -/
def substepDescriptor (desc : SimSplitDescriptor D μ) (dependencies : List SizeT) (address : ℕ)
    (index : ℕ) (substep : SimSplitSubstep D μ) (sets : SplitAccessSets) :
    SimOperatorRecord D μ where
  dependencies := dependencies
  readMask := sets.readMask
  writeMask := sets.writeMask
  readIndices := sets.readFields
  writeIndices := sets.writeFields
  representation := desc.representation
  config := desc.config
  warpLevel := desc.warpLevel
  kernel := none
  evaluate := some (simSplitEval substep)
  saveState := desc.saveState
  restoreState := desc.restoreState
  userdata := some ⟨address, index⟩

/-- The cleanup of the error exits once the shared record is allocated. -/
def SimContext.splitAbort (address : ℕ) (context : SimContext D μ) : SimContext D μ :=
  (context.splitReleaseScratchBudget address).modifySplit address fun shared =>
    { shared with live := false }

/-- The loop over the substeps. The result is the index of the last operator. -/
def registerSubsteps (allocations : ℕ → SubstepAllocations) (desc : SimSplitDescriptor D μ)
    (address : ℕ) :
    List (SimSplitSubstep D μ) → ℕ → List SizeT → SizeT → SimContext D μ →
      SimContext D μ × Except SimError SizeT
  | [], _, _, previous, context => (context, .ok previous)
  | substep :: substeps, index, dependencies, _, context =>
      if desc.ports ≠ [] ∧ !(allocations index).accessLists then
        (context.splitAbort address, .error .outOfMemory)
      else
        match substepAccessSets desc.ports substep with
        | .error failure => (context.splitAbort address, .error failure)
        | .ok sets =>
            if !(allocations index).ref then (context.splitAbort address, .error .outOfMemory)
            else
              match context.registerOperator (allocations index).register
                (substepDescriptor desc dependencies address index substep sets) with
              | (context, .error failure) => (context.splitAbort address, .error failure)
              | (context, .ok registered) =>
                  let previous := BitVec.ofNat 64 registered
                  registerSubsteps allocations desc address substeps (index + 1) [previous]
                    previous context

/-- The check of the port bindings. -/
def checkPorts (context : SimContext D μ) : List SimSplitPort → Except SimError Unit
  | [] => .ok ()
  | port :: ports =>
      match context.fields[port.contextFieldIndex.toNat]? with
      | none => .error .invalidArgument
      | some field =>
          if port.requireComplex && !field.storageIsComplex then .error .typeMismatch
          else checkPorts context ports

/-- The shared record as it is allocated, with its budget reserved. -/
def allocatedShared (desc : SimSplitDescriptor D μ) : SimSplitShared where
  refcount := desc.substeps.length
  scratchSize := desc.scratchBytesPerWorker
  scratchAccounted := decide (0 < desc.scratchBytesPerWorker)
  hasDestroy := desc.hasDestroy
  live := true
  destroyCalls := 0
  scratchReleases := 0

/-- `sim_split_register`. The result holds `out_first` and `out_last`. -/
def SimContext.splitRegister (allocations : SplitAllocations) (desc : SimSplitDescriptor D μ)
    (dependencies : List SizeT) (context : SimContext D μ) :
    SimContext D μ × Except SimError (SizeT × SizeT) :=
  let scratchSize := desc.scratchBytesPerWorker
  let limit := context.memoryLimits.maxScratchBytesPerOperator
  if desc.substeps = [] then (context, .error .invalidArgument)
  else if !allocations.shared || !allocations.descriptor then (context, .error .outOfMemory)
  else if 0 < scratchSize ∧ 0 < limit ∧ limit < scratchSize then (context, .error .outOfMemory)
  else
    match context.reserveScratch scratchSize with
    | (context, .error failure) => (context, .error failure)
    | (context, .ok _) =>
        let address := context.splits.length
        let context := { context with splits := context.splits ++ [allocatedShared desc] }
        if !allocations.masks then (context.splitAbort address, .error .outOfMemory)
        else
          match checkPorts context desc.ports with
          | .error failure => (context.splitAbort address, .error failure)
          | .ok _ =>
              let first := BitVec.ofNat 64 context.operators.length
              match registerSubsteps allocations.substep desc address desc.substeps 0
                dependencies sizeMax context with
              | (context, .error failure) => (context, .error failure)
              | (context, .ok last) => (context, .ok (first, last))

end Register

end Oakfield
