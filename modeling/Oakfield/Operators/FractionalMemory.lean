import Oakfield.Operators.Stateful

/-! The `fractional_memory` operator, registered as a split operator. -/
namespace Oakfield

open KernelIR CDouble

variable {D : Type} [CDouble D]

structure FractionalMemoryOperatorConfig (D : Type) where
  fieldIndex : ℕ
  order : D
  gain : D
  memorySteps : ℕ

/-- `FractionalMemoryOperatorState`, without what only the kernel path reads. The
cache of the response scale holds a timestep with its value. The last field is not
in the C record: whether a snapshot copy has left one of its buffers. -/
structure FractionalMemoryState (D : Type) where
  config : FractionalMemoryOperatorConfig D
  coefficients : Option (ℕ → D)
  history : Option (DoubleBuffer D)
  scratch : Bool
  historySnapshot : Option (DoubleBuffer D)
  historySnapshotBytes : ℕ
  snapshotHead : ℕ
  snapshotCount : ℕ
  capacity : ℕ
  head : ℕ
  count : ℕ
  responseScaleCache : Option (D × D)
  overran : Bool

/-- The defaults of `sim_add_fractional_memory_operator` and
`sim_fractional_memory_update`. -/
def FractionalMemoryOperatorConfig.normalize (config : FractionalMemoryOperatorConfig D) :
    FractionalMemoryOperatorConfig D :=
  { config with
    memorySteps := if config.memorySteps = 0 then 32 else config.memorySteps
    order := if le config.order zero then half else config.order }

/-- The binomial coefficients of the fractional derivative. -/
def fractionalMemoryCoefficient (order : D) : ℕ → D
  | 0 => one
  | j + 1 =>
      let index := ofU64 (BitVec.ofNat 64 (j + 1))
      mul (fractionalMemoryCoefficient order j) (div (sub (sub index one) order) index)

namespace FractionalMemoryState

/-- The state which `sim_add_fractional_memory_operator` allocates. -/
def added (config : FractionalMemoryOperatorConfig D) : FractionalMemoryState D where
  config := config.normalize
  coefficients := none
  history := none
  scratch := false
  historySnapshot := none
  historySnapshotBytes := 0
  snapshotHead := 0
  snapshotCount := 0
  capacity := 0
  head := 0
  count := 0
  responseScaleCache := none
  overran := false

omit [CDouble D] in
/-- The size of the history, computed in `size_t`. -/
def historyBytes (state : FractionalMemoryState D) : ℕ :=
  state.config.memorySteps * state.capacity * 8 % 2 ^ 64

/-- The first part of `fractional_memory_prepare`. -/
def resize (heap : Heap) (count : ℕ) (state : FractionalMemoryState D) :
    FractionalMemoryState D × Except SimError Unit :=
  if state.capacity = count then (state, .ok ())
  else
    let historyBytes := state.config.memorySteps * count * 8 % 2 ^ 64
    let scratchBytes := count * 8 % 2 ^ 64
    let history : Option (DoubleBuffer D) := DoubleBuffer.allocZeroed heap historyBytes
    let scratch : Option (DoubleBuffer D) := DoubleBuffer.allocZeroed heap scratchBytes
    let state := { state with
      history := history
      scratch := scratch.isSome
      historySnapshot := none
      historySnapshotBytes := 0
      snapshotHead := 0
      snapshotCount := 0 }
    if (0 < historyBytes && history.isNone) || (0 < scratchBytes && scratch.isNone) then
      (state, .error .outOfMemory)
    else ({ state with capacity := count, head := 0, count := 0 }, .ok ())

/-- The second part of `fractional_memory_prepare`. -/
def prepareCoefficients (heap : Heap) (state : FractionalMemoryState D) :
    FractionalMemoryState D × Except SimError Unit :=
  if state.coefficients.isSome then (state, .ok ())
  else if !heap.calloc state.config.memorySteps 8 then (state, .error .outOfMemory)
  else ({ state with coefficients := some (fractionalMemoryCoefficient state.config.order) }, .ok ())

/-- `fractional_memory_prepare`, for a positive number of memory steps. -/
def prepare (heap : Heap) (count : ℕ) (state : FractionalMemoryState D) :
    FractionalMemoryState D × Except SimError Unit :=
  match state.resize heap count with
  | (state, .error failure) => (state, .error failure)
  | (state, .ok _) => state.prepareCoefficients heap

/-- The value of `fractional_memory_response_scale`. -/
def scaleValue (config : FractionalMemoryOperatorConfig D) (dt : D) : D :=
  mul (mul dt config.gain) (pow dt (neg config.order))

/-- `fractional_memory_response_scale`, with its cache. -/
def responseScale (dt : D) (state : FractionalMemoryState D) : FractionalMemoryState D × D :=
  match state.responseScaleCache with
  | some (cachedDt, value) =>
      if eq cachedDt dt then (state, value)
      else
        ({ state with responseScaleCache := some (dt, scaleValue state.config dt) },
          scaleValue state.config dt)
  | none =>
      ({ state with responseScaleCache := some (dt, scaleValue state.config dt) },
        scaleValue state.config dt)

/-- `fractional_memory_apply_history_response`. -/
def historyResponse (state : FractionalMemoryState D) (current : ℕ → D) (count : ℕ)
    (responseScale : D) : ℕ → D :=
  let coefficient := state.coefficients.getD fun _ => indeterminate
  let past : ℕ → D := (state.history.map DoubleBuffer.lane).getD fun _ => indeterminate
  if state.config.memorySteps = 0 ∨ state.count = 0 then current
  else fun k =>
    let scale := add one (mul responseScale (coefficient 0))
    let start := if eq scale one then current k else mul scale (current k)
    ((List.range (state.count - 1)).foldl (fun (index, value) j =>
      let index := if index + 1 = state.config.memorySteps then 0 else index + 1
      (index, add value
        (mul (mul responseScale (coefficient (j + 1))) (past (index * count + k)))))
      (state.head, start)).2

omit [CDouble D] in
/-- Move the head of the history back by one and copy the field there. -/
def push (count : ℕ) (current : ℕ → D) (state : FractionalMemoryState D) :
    FractionalMemoryState D :=
  let steps := state.config.memorySteps
  let head := if state.head = 0 then steps - 1 else state.head - 1
  { state with
    count := if state.count < steps then state.count + 1 else state.count
    head := head
    history := state.history.map fun history =>
      { history with
        lane := fun k =>
          if head * count ≤ k ∧ k < head * count + count then current (k - head * count)
          else history.lane k } }

/-- The field with its data, when an application gets past its argument checks. -/
def argument (state : FractionalMemoryState D) (dt : D) (fields : List (SimField D)) :
    Option (SimField D × FieldData D) :=
  if state.config.memorySteps = 0 || le dt zero then none
  else
    match fields[state.config.fieldIndex]? with
    | none => none
    | some field =>
        match field.buffer with
        | none => none
        | some data => if field.bytes / 8 = 0 then none else some (field, data)

end FractionalMemoryState

open FractionalMemoryState

/-- `fractional_memory_apply`. -/
def fractionalMemoryApply (heap : Heap) (dt : D) : Callback D (FractionalMemoryState D) :=
  fun fields _ state =>
    match state.argument dt fields with
    | none => ⟨fun _ => none, state, .error .invalidArgument⟩
    | some (field, data) =>
        let count := field.bytes / 8
        match state.prepare heap count with
        | (state, .error _) => ⟨fun _ => none, state, .error .outOfMemory⟩
        | (state, .ok _) =>
            let pushed := state.push count data.lane
            let scaled := pushed.responseScale dt
            let response := scaled.1.historyResponse data.lane count scaled.2
            let lanes := .lanes fun k => if k < count then response k else data.lane k
            ⟨fun i => if i = state.config.fieldIndex then
                some ⟨lanes, field.repr, field.complexMode⟩ else none,
              scaled.1, .ok ()⟩

/-- The snapshot buffer with its size on record, which grows to `bytes` bytes. -/
def FractionalMemoryState.growSnapshot (heap : Heap) (bytes : ℕ)
    (state : FractionalMemoryState D) : Option (DoubleBuffer D × ℕ) :=
  let grown := (DoubleBuffer.realloc heap bytes state.historySnapshot).map (·, bytes)
  match state.historySnapshot with
  | none => grown
  | some snapshot =>
      if state.historySnapshotBytes < bytes then grown
      else some (snapshot, state.historySnapshotBytes)

/-- `fractional_memory_save`. -/
def fractionalMemorySave (heap : Heap) (state : FractionalMemoryState D) :
    FractionalMemoryState D × Except SimError Unit :=
  match state.history with
  | none => (state, .ok ())
  | some history =>
      if state.capacity = 0 then (state, .ok ())
      else
        let bytes := state.historyBytes
        match state.growSnapshot heap bytes with
        | none => (state, .error .outOfMemory)
        | some (snapshot, snapshotBytes) =>
            ({ state with
              historySnapshot := some (.copy bytes history snapshot)
              historySnapshotBytes := snapshotBytes
              snapshotHead := state.head
              snapshotCount := state.count
              overran := state.overran || !decide (DoubleBuffer.CopyFits bytes history snapshot) },
              .ok ())

/-- `fractional_memory_restore`. -/
def fractionalMemoryRestore (state : FractionalMemoryState D) :
    FractionalMemoryState D × Except SimError Unit :=
  match state.historySnapshot, state.history with
  | some snapshot, some history =>
      let bytes := state.historyBytes
      if state.historySnapshotBytes < bytes then (state, .error .invalidState)
      else
        ({ state with
          history := some (.copy bytes snapshot history)
          head := state.snapshotHead
          count := state.snapshotCount
          overran := state.overran || !decide (DoubleBuffer.CopyFits bytes snapshot history) },
          .ok ())
  | _, _ => (state, .ok ())

/-- `sim_fractional_memory_update`; without a configuration it keeps its own. -/
def fractionalMemoryUpdate (config : Option (FractionalMemoryOperatorConfig D))
    (state : FractionalMemoryState D) : FractionalMemoryState D × Except SimError Unit :=
  let fresh := (config.getD state.config).normalize
  let stepsChanged := fresh.memorySteps ≠ state.config.memorySteps
  let orderChanged := ne fresh.order state.config.order
  let cleared : FractionalMemoryState D :=
    if stepsChanged then
      { state with
        history := none
        scratch := false
        historySnapshot := none
        historySnapshotBytes := 0
        snapshotHead := 0
        snapshotCount := 0
        capacity := 0
        head := 0
        count := 0 }
    else state
  ({ cleared with
    config := fresh
    coefficients := if stepsChanged ∨ orderChanged = true then none else state.coefficients
    responseScaleCache := none }, .ok ())

/-! ### Registration -/

/-- The substep which `sim_add_fractional_memory_operator` registers. -/
def fractionalMemorySubstep (heap : Heap) : SimSplitSubstep D (FractionalMemoryState D) where
  fn := fractionalMemoryApply heap
  accesses := [⟨0, .rw⟩]
  dtScale := one
  barrierAfter := false

/-- The split descriptor of `sim_add_fractional_memory_operator`, for a field which
is complex or not, with the configuration shared by all operators. -/
def fractionalMemoryDescriptor (heap : Heap) (fieldIndex : SizeT) (needsComplex : Bool)
    (config : SimOperatorConfig D) : SimSplitDescriptor D (FractionalMemoryState D) where
  ports := [⟨fieldIndex, needsComplex⟩]
  substeps := [fractionalMemorySubstep heap]
  saveState := some (memoryCallback (fractionalMemorySave heap))
  restoreState := some (memoryCallback fractionalMemoryRestore)
  hasDestroy := true
  representation :=
    { requiresComplexInput := needsComplex
      requiresComplexRepresentation := needsComplex
      valueKind := if needsComplex then .complexScalar else .realScalar }
  config := config
  warpLevel := .none
  scratchBytesPerWorker := 0

/-- The operator as `sim_split_register` records it. -/
def fractionalMemoryOperator (heap : Heap) (fieldIndex : SizeT) (needsComplex : Bool)
    (config : SimOperatorConfig D) (address : ℕ) (sets : SplitAccessSets) :
    StatefulOperator D (FractionalMemoryState D) (Option (FractionalMemoryOperatorConfig D)) where
  op := substepDescriptor (fractionalMemoryDescriptor heap fieldIndex needsComplex config) []
    address 0 (fractionalMemorySubstep heap) sets
  evaluate := simSplitEval (fractionalMemorySubstep heap)
  save := fractionalMemorySave heap
  restore := fractionalMemoryRestore
  update _ := fractionalMemoryUpdate
  kernel_eq := rfl
  evaluate_eq := rfl
  saveState_eq := rfl
  restoreState_eq := rfl

end Oakfield
