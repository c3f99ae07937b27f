import Oakfield.Context.SplitRegistration
import Oakfield.Library.Run
import Oakfield.Operators.Accesses

/-! Registration and reconfiguration of sieves, mixers and chaos maps. The access sets
are recorded at registration, the configuration is replaced by later calls. -/
namespace Oakfield

open KernelIR CDouble

/-! ### Private states -/

/-- The private state of an operator, with the layout of a mixer. -/
inductive OperatorState where
  | segmentedSieveMark (config : SimSegmentedSieveMarkOperatorConfig)
  | segmentedSieveMarkBatch (config : SimSegmentedSieveMarkBatchOperatorConfig)
  | mixer (config : SimMixerOperatorConfig) (layout : SimMixerFeedbackSplitMode)
  | chaosMap (config : SimChaosMapOperatorConfig)
deriving DecidableEq, Repr

/-- A mixer with a kernel, whose bindings and expression stay those of the registration. -/
structure MixerKernel where
  bound : SimMixerOperatorConfig
  config : SimMixerOperatorConfig
deriving DecidableEq, Repr

/-- Private states of split operators by shared record, and of kernels by operator. -/
structure OperatorMemory where
  split : ℕ → Option OperatorState
  kernel : ℕ → Option MixerKernel

/-- The accesses of a substep in the present configuration. -/
def OperatorState.accesses {D : Type} (state : OperatorState) (substepIndex : ℕ)
    (fields : List (SimField D)) : List FieldAccess :=
  match state with
  | .segmentedSieveMark config => segmentedSieveMarkAccesses config fields
  | .segmentedSieveMarkBatch config => segmentedSieveMarkBatchAccesses config fields
  | .mixer config layout => mixerAccesses config layout substepIndex fields
  | .chaosMap config => chaosMapAccesses config fields

/-- The callbacks of the substeps and of mixer kernels. -/
structure OperatorCallbacks (D : Type) where
  segmentedSieveMarkStep : D → Callback D OperatorMemory
  segmentedSieveMarkBatchStep : D → Callback D OperatorMemory
  mixerStep : D → Callback D OperatorMemory
  mixerFeedbackDecayStep : D → Callback D OperatorMemory
  mixerFeedbackInjectStep : D → Callback D OperatorMemory
  mixerKernel : Callback D OperatorMemory
  chaosMapStep : D → Callback D OperatorMemory

/-- The allocations of one `sim_add_*` call. -/
structure AddAllocations where
  state : Bool
  split : SplitAllocations

/-- What the context offers to a kernel: `sim_operator_should_register_kernel_for_schema`
with the builder, all nodes of the expression, and the registration. -/
structure KernelOffer where
  allowed : Bool
  nodes : Bool
  register : SimContext.RegisterAllocations

namespace SimContext

variable {D : Type} [CDouble D]

omit [CDouble D] in
def setSplitState (address : ℕ) (state : OperatorState) (context : SimContext D OperatorMemory) :
    SimContext D OperatorMemory :=
  { context with
    memory :=
      { context.memory with split := Function.update context.memory.split address (some state) } }

omit [CDouble D] in
def setKernelState (index : ℕ) (kernel : MixerKernel) (context : SimContext D OperatorMemory) :
    SimContext D OperatorMemory :=
  { context with
    memory :=
      { context.memory with kernel := Function.update context.memory.kernel index (some kernel) } }

/-- The value kind of operators on real or on complex elements. -/
def addValueKind (needsComplex : Bool) : SimFieldValueKind :=
  if needsComplex then .complexScalar else .realScalar

/-- The tail of every `sim_add_*` function: the private state belongs to the shared record
of a successful registration. -/
def addSplit (allocations : AddAllocations) (desc : SimSplitDescriptor D OperatorMemory)
    (state : OperatorState) (context : SimContext D OperatorMemory) :
    SimContext D OperatorMemory × Except SimError SizeT :=
  let address := context.splits.length
  match context.splitRegister allocations.split desc [] with
  | (context, .error failure) => (context, .error failure)
  | (context, .ok (first, _)) => (context.setSplitState address state, .ok first)

/-- Descriptors of the four operators differ in ports, substeps and representation. -/
def addDescriptor (ports : List SimSplitPort) (substeps : List (SimSplitSubstep D OperatorMemory))
    (representation : SimOperatorRepresentation) (warpLevel : SimWarpLevel) :
    SimSplitDescriptor D OperatorMemory where
  ports := ports
  substeps := substeps
  saveState := none
  restoreState := none
  hasDestroy := true
  representation := representation
  config := simOperatorConfigDefaults
  warpLevel := warpLevel
  scratchBytesPerWorker := 0

variable (callbacks : OperatorCallbacks D)

/-! ### Registration -/

def segmentedSieveMarkDescriptor (config : SimSegmentedSieveMarkOperatorConfig) :
    SimSplitDescriptor D OperatorMemory :=
  addDescriptor
    [⟨BitVec.ofNat 64 config.candidateField, false⟩, ⟨BitVec.ofNat 64 config.flagsField, false⟩]
    [⟨callbacks.segmentedSieveMarkStep, [⟨0, .read⟩, ⟨1, .rw⟩], one, false⟩]
    ⟨false, false, .realScalar⟩ .none

/-- `sim_add_segmented_sieve_mark_operator`. -/
def addSegmentedSieveMark (allocations : AddAllocations)
    (config : Option SimSegmentedSieveMarkOperatorConfig) (context : SimContext D OperatorMemory) :
    SimContext D OperatorMemory × Except SimError SizeT :=
  let config := config.getD ⟨0, 0, 2⟩
  match segmentedSieveMarkValidateFields context.fields[config.candidateField]?
    context.fields[config.flagsField]? config.prime with
  | .error failure => (context, .error failure)
  | .ok () =>
      if !allocations.state then (context, .error .outOfMemory)
      else
        context.addSplit allocations (segmentedSieveMarkDescriptor callbacks config)
          (.segmentedSieveMark config)

def segmentedSieveMarkBatchDescriptor (config : SimSegmentedSieveMarkBatchOperatorConfig) :
    SimSplitDescriptor D OperatorMemory :=
  addDescriptor
    [⟨BitVec.ofNat 64 config.candidateField, false⟩, ⟨BitVec.ofNat 64 config.primesField, false⟩,
      ⟨BitVec.ofNat 64 config.flagsField, false⟩]
    [⟨callbacks.segmentedSieveMarkBatchStep, [⟨0, .read⟩, ⟨1, .read⟩, ⟨2, .rw⟩], one, false⟩]
    ⟨false, false, .realScalar⟩ .none

/-- `sim_add_segmented_sieve_mark_batch_operator`. -/
def addSegmentedSieveMarkBatch (allocations : AddAllocations)
    (config : Option SimSegmentedSieveMarkBatchOperatorConfig)
    (context : SimContext D OperatorMemory) :
    SimContext D OperatorMemory × Except SimError SizeT :=
  let config := config.getD ⟨0, 0, 0⟩
  match segmentedSieveMarkBatchValidateFields context.fields[config.candidateField]?
    context.fields[config.primesField]? context.fields[config.flagsField]? with
  | .error failure => (context, .error failure)
  | .ok () =>
      if !allocations.state then (context, .error .outOfMemory)
      else
        context.addSplit allocations (segmentedSieveMarkBatchDescriptor callbacks config)
          (.segmentedSieveMarkBatch config)

/-- The substeps of a mixer, by its layout. -/
def mixerSubsteps (layout : SimMixerFeedbackSplitMode) :
    List (SimSplitSubstep D OperatorMemory) :=
  let decay (scale : D) : SimSplitSubstep D OperatorMemory :=
    ⟨callbacks.mixerFeedbackDecayStep, [⟨2, .rw⟩], scale, false⟩
  let inject : SimSplitSubstep D OperatorMemory :=
    ⟨callbacks.mixerFeedbackInjectStep, [⟨0, .read⟩, ⟨1, .read⟩, ⟨2, .rw⟩], one, false⟩
  match layout with
  | .none => [⟨callbacks.mixerStep, [⟨0, .read⟩, ⟨1, .read⟩, ⟨2, .rw⟩], one, false⟩]
  | .lie => [decay one, inject]
  | .strang => [decay (lit 5 (-1)), inject, decay (lit 5 (-1))]

def mixerDescriptor (config : SimMixerOperatorConfig) (layout : SimMixerFeedbackSplitMode)
    (needsComplex : Bool) : SimSplitDescriptor D OperatorMemory :=
  addDescriptor
    [⟨config.lhsField, needsComplex⟩, ⟨config.rhsField, needsComplex⟩,
      ⟨config.outputField, needsComplex⟩]
    (mixerSubsteps callbacks layout) ⟨needsComplex, needsComplex, addValueKind needsComplex⟩ .none

/-- The record of a mixer with a kernel; its access sets are masks alone. -/
def mixerKernelRecord (config : SimMixerOperatorConfig) (needsComplex : Bool) :
    SimOperatorRecord D OperatorMemory where
  dependencies := []
  readMask := setFieldBit (setFieldBit 0 config.lhsField) config.rhsField
  writeMask := setFieldBit 0 config.outputField
  readIndices := []
  writeIndices := []
  representation := ⟨needsComplex, needsComplex, addValueKind needsComplex⟩
  config := simOperatorConfigDefaults
  warpLevel := .none
  kernel := some callbacks.mixerKernel
  evaluate := none
  saveState := none
  restoreState := none
  userdata := none

/-- Modes whose kernel works on complex elements. -/
def mixerKernelAllowsComplex (mode : SimMixerMode) : Bool :=
  match mode with
  | .fm | .pm | .max | .min | .absoluteDifference | .ringMod => false
  | _ => true

/-- Whether `sim_add_mixer_operator` gets as far as registering a kernel. -/
def mixerOffersKernel (offer : KernelOffer) (config : SimMixerOperatorConfig)
    (lhs rhs out : SimField D) (needsComplex : Bool) : Bool :=
  !(config.accumulate && config.scaleByDt) && config.mode != .feedback && offer.allowed &&
    lhs.components == rhs.components && lhs.components == out.components &&
    !(needsComplex && !mixerKernelAllowsComplex config.mode) && offer.nodes

/-- The layout of the substeps, kept from the registration on. -/
def mixerSplitLayout (config : SimMixerOperatorConfig) : SimMixerFeedbackSplitMode :=
  if config.mode = .feedback then config.feedbackSplit else .none

/-- `sim_add_mixer_operator`. A kernel that is not registered leaves the split operator. -/
def addMixer (allocations : AddAllocations) (offer : KernelOffer)
    (config : Option SimMixerOperatorConfig) (context : SimContext D OperatorMemory) :
    SimContext D OperatorMemory × Except SimError SizeT :=
  if !allocations.state then (context, .error .outOfMemory)
  else
    let config := mixerNormalizeConfig (config.getD ⟨0, 0, 0, .linear, .none, false, true⟩)
    match mixerValidateFields context.fields[config.lhsField.toNat]?
      context.fields[config.rhsField.toNat]? context.fields[config.outputField.toNat]? with
    | .error failure => (context, .error failure)
    | .ok () =>
        match context.fields[config.lhsField.toNat]?, context.fields[config.rhsField.toNat]?,
          context.fields[config.outputField.toNat]? with
        | some lhs, some rhs, some out =>
            let needsComplex := lhs.domain.isComplex || rhs.domain.isComplex || out.domain.isComplex
            let layout := mixerSplitLayout config
            let split (context : SimContext D OperatorMemory) :=
              context.addSplit allocations (mixerDescriptor callbacks config layout needsComplex)
                (.mixer config layout)
            if mixerOffersKernel offer config lhs rhs out needsComplex then
              match context.registerOperator offer.register
                (mixerKernelRecord callbacks config needsComplex) with
              | (context, .error _) => split context
              | (context, .ok index) =>
                  (context.setKernelState index ⟨config, config⟩, .ok (BitVec.ofNat 64 index))
            else split context
        | _, _, _ => (context, .error .invalidArgument)

def chaosMapDescriptor (config : SimChaosMapOperatorConfig) (output : SimField D)
    (needsComplex : Bool) : SimSplitDescriptor D OperatorMemory :=
  let valueKind := output.representation.valueKind
  addDescriptor [⟨config.inputField, needsComplex⟩, ⟨config.outputField, needsComplex⟩]
    [⟨callbacks.chaosMapStep, [⟨0, .read⟩, ⟨1, .rw⟩], one, false⟩]
    ⟨needsComplex, needsComplex,
      if valueKind ≠ .unknown then valueKind else addValueKind needsComplex⟩ .level2

/-- `sim_add_chaos_map_operator`. -/
def addChaosMap (allocations : AddAllocations) (config : Option SimChaosMapOperatorConfig)
    (context : SimContext D OperatorMemory) :
    SimContext D OperatorMemory × Except SimError SizeT :=
  if !allocations.state then (context, .error .outOfMemory)
  else
    let config :=
      config.getD ⟨0, 0, sizeMax, sizeMax, sizeMax, sizeMax, sizeMax, sizeMax⟩
    match context.fields[config.inputField.toNat]?, context.fields[config.outputField.toNat]? with
    | some input, some output =>
        match chaosMapDescribeIoFields input output with
        | .error failure => (context, .error failure)
        | .ok needsComplex =>
            context.addSplit allocations (chaosMapDescriptor callbacks config output needsComplex)
              (.chaosMap config)
    | _, _ => (context, .error .invalidArgument)

/-! ### Updates -/

omit [CDouble D] in
/-- `sim_split_state` of a registered operator, with the address of its shared record. -/
def splitState (index : ℕ) (context : SimContext D OperatorMemory) :
    Except SimError (ℕ × OperatorState) :=
  match context.operators[index]? with
  | none => .error .notFound
  | some op =>
      match op.userdata with
      | none => .error .invalidState
      | some ref =>
          match context.memory.split ref.shared with
          | none => .error .invalidState
          | some state => .ok (ref.shared, state)

omit [CDouble D] in
/-- `sim_segmented_sieve_mark_update`. The private state of an operator of another kind
would be overwritten in C; it is left alone here, as in the other updates. -/
def segmentedSieveMarkUpdate (index : ℕ) (config : Option SimSegmentedSieveMarkOperatorConfig)
    (context : SimContext D OperatorMemory) : ContextCall D OperatorMemory :=
  match context.splitState index with
  | .error failure => (context, .error failure)
  | .ok (address, .segmentedSieveMark old) =>
      let config := config.getD old
      match segmentedSieveMarkValidateFields context.fields[config.candidateField]?
        context.fields[config.flagsField]? config.prime with
      | .error failure => (context, .error failure)
      | .ok () =>
          ((context.setSplitState address (.segmentedSieveMark config)).planInvalidate, .ok ())
  | .ok _ => (context, .error .invalidState)

omit [CDouble D] in
/-- `sim_segmented_sieve_mark_batch_update`. -/
def segmentedSieveMarkBatchUpdate (index : ℕ)
    (config : Option SimSegmentedSieveMarkBatchOperatorConfig)
    (context : SimContext D OperatorMemory) : ContextCall D OperatorMemory :=
  match context.splitState index with
  | .error failure => (context, .error failure)
  | .ok (address, .segmentedSieveMarkBatch old) =>
      let config := config.getD old
      match segmentedSieveMarkBatchValidateFields context.fields[config.candidateField]?
        context.fields[config.primesField]? context.fields[config.flagsField]? with
      | .error failure => (context, .error failure)
      | .ok () =>
          ((context.setSplitState address (.segmentedSieveMarkBatch config)).planInvalidate, .ok ())
  | .ok _ => (context, .error .invalidState)

omit [CDouble D] in
/-- `sim_mixer_update`. The bindings of a kernel do not follow its configuration. -/
def mixerUpdate (index : ℕ) (config : Option SimMixerOperatorConfig)
    (context : SimContext D OperatorMemory) : ContextCall D OperatorMemory :=
  let validate (config : SimMixerOperatorConfig) :=
    mixerValidateFields context.fields[config.lhsField.toNat]?
      context.fields[config.rhsField.toNat]? context.fields[config.outputField.toNat]?
  match context.splitState index with
  | .ok (address, .mixer old layout) =>
      let config := mixerNormalizeConfig (config.getD old)
      match validate config with
      | .error failure => (context, .error failure)
      | .ok () => ((context.setSplitState address (.mixer config layout)).planInvalidate, .ok ())
  | .ok _ => (context, .error .invalidState)
  | .error failure =>
      match context.memory.kernel index with
      | none => (context, .error failure)
      | some kernel =>
          let config := mixerNormalizeConfig (config.getD kernel.config)
          match validate config with
          | .error failure => (context, .error failure)
          | .ok () =>
              ((context.setKernelState index { kernel with config := config }).planInvalidate, .ok ())

omit [CDouble D] in
/-- `sim_chaos_map_update`, which checks nothing and keeps the plan. -/
def chaosMapUpdate (index : ℕ) (config : Option SimChaosMapOperatorConfig)
    (context : SimContext D OperatorMemory) : ContextCall D OperatorMemory :=
  match context.splitState index with
  | .error failure => (context, .error failure)
  | .ok (address, .chaosMap old) =>
      (context.setSplitState address (.chaosMap (config.getD old)), .ok ())
  | .ok _ => (context, .error .invalidState)

end SimContext

/-! ### Runs -/

inductive AccessCall where
  | addSegmentedSieveMark (allocations : AddAllocations)
      (config : Option SimSegmentedSieveMarkOperatorConfig)
  | addSegmentedSieveMarkBatch (allocations : AddAllocations)
      (config : Option SimSegmentedSieveMarkBatchOperatorConfig)
  | addMixer (allocations : AddAllocations) (offer : KernelOffer)
      (config : Option SimMixerOperatorConfig)
  | addChaosMap (allocations : AddAllocations) (config : Option SimChaosMapOperatorConfig)
  | segmentedSieveMarkUpdate (index : ℕ) (config : Option SimSegmentedSieveMarkOperatorConfig)
  | segmentedSieveMarkBatchUpdate (index : ℕ)
      (config : Option SimSegmentedSieveMarkBatchOperatorConfig)
  | mixerUpdate (index : ℕ) (config : Option SimMixerOperatorConfig)
  | chaosMapUpdate (index : ℕ) (config : Option SimChaosMapOperatorConfig)

/-- The context after a call. -/
def AccessCall.step {D : Type} [CDouble D] (callbacks : OperatorCallbacks D)
    (context : SimContext D OperatorMemory) (call : AccessCall) : SimContext D OperatorMemory :=
  match call with
  | .addSegmentedSieveMark allocations config =>
      (context.addSegmentedSieveMark callbacks allocations config).1
  | .addSegmentedSieveMarkBatch allocations config =>
      (context.addSegmentedSieveMarkBatch callbacks allocations config).1
  | .addMixer allocations offer config => (context.addMixer callbacks allocations offer config).1
  | .addChaosMap allocations config => (context.addChaosMap callbacks allocations config).1
  | .segmentedSieveMarkUpdate index config => (context.segmentedSieveMarkUpdate index config).1
  | .segmentedSieveMarkBatchUpdate index config =>
      (context.segmentedSieveMarkBatchUpdate index config).1
  | .mixerUpdate index config => (context.mixerUpdate index config).1
  | .chaosMapUpdate index config => (context.chaosMapUpdate index config).1

end Oakfield
