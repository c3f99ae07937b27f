import Oakfield.Field.Representation
import Oakfield.Operators.Stateful

/-! The `hysteretic` operator. -/
namespace Oakfield

open KernelIR CDouble

variable {D : Type} [CDouble D]

/-! ### Configuration -/

inductive SimHystereticMode where
  | schmitt
  | play
  | boucWen
deriving DecidableEq, Repr

inductive SimHystereticThresholdMode where
  | bounds
  | centerWidth
deriving DecidableEq, Repr

inductive SimHystereticInputMode where
  | direct
  | abs
  | squared
deriving DecidableEq, Repr

structure SimHystereticOperatorConfig (D : Type) where
  inputField : ℕ
  outputField : ℕ
  mode : SimHystereticMode
  thresholdMode : SimHystereticThresholdMode
  inputMode : SimHystereticInputMode
  inputGain : D
  inputBias : D
  thresholdLow : D
  thresholdHigh : D
  thresholdCenter : D
  thresholdWidth : D
  outputLow : D
  outputHigh : D
  stateMin : D
  stateMax : D
  smooth : D
  rateLimit : D
  accumulate : Bool
  scaleByDt : Bool
  initializeFromInput : Bool
  initialOutput : D
  initialInput : D
  initialZ : D
  playRadius : D
  bwAlpha : D
  bwA : D
  bwBeta : D
  bwGamma : D
  bwN : D
  bwZClamp : D
  bwXdotClamp : D
  outputGain : D
  outputBias : D

/-- `DBL_MAX` and `HYST_WIDTH_MIN`. -/
def dblMax : D := lit 17976931348623157 292

def hystWidthMin : D := lit 1 (-9)

/-- A value, or a default in place of a NaN or an infinity. -/
def finiteOr (fallback value : D) : D := if isfinite value then value else fallback

/-- A value, or zero unless it is finite and positive. -/
def positiveOrZero (value : D) : D := if !isfinite value || le value zero then zero else value

namespace SimHystereticOperatorConfig

/-- Gains, biases and thresholds. -/
def normalizeThresholds (config : SimHystereticOperatorConfig D) :
    SimHystereticOperatorConfig D :=
  let low := finiteOr (neg half) config.thresholdLow
  let high := finiteOr half config.thresholdHigh
  let center := finiteOr zero config.thresholdCenter
  let width :=
    if !isfinite config.thresholdWidth || le config.thresholdWidth zero then fabs (sub high low)
    else config.thresholdWidth
  let width := if gt width zero then width else one
  let config := { config with
    inputGain := finiteOr one config.inputGain
    inputBias := finiteOr zero config.inputBias
    thresholdCenter := center
    thresholdWidth := width }
  match config.thresholdMode with
  | .centerWidth =>
      { config with
        thresholdLow := sub center (mul half width)
        thresholdHigh := add center (mul half width) }
  | .bounds =>
      { config with
        thresholdLow := low
        thresholdHigh := if le high low then add low (fmax width hystWidthMin) else high }

/-- The limits of outputs and of the state. -/
def normalizeLimits (config : SimHystereticOperatorConfig D) : SimHystereticOperatorConfig D :=
  let low := finiteOr zero config.outputLow
  let high := finiteOr one config.outputHigh
  let high := if eq high low then add low one else high
  let stateMin := finiteOr (neg dblMax) config.stateMin
  let stateMax := finiteOr dblMax config.stateMax
  { config with
    outputLow := if gt low high then high else low
    outputHigh := if gt low high then low else high
    stateMin := if gt stateMin stateMax then stateMax else stateMin
    stateMax := if gt stateMin stateMax then stateMin else stateMax
    smooth :=
      if !isfinite config.smooth || lt config.smooth zero then zero
      else if gt config.smooth one then one
      else config.smooth
    rateLimit := if !isfinite config.rateLimit || lt config.rateLimit zero then zero else config.rateLimit
    initialOutput := finiteOr zero config.initialOutput
    initialInput := finiteOr zero config.initialInput
    initialZ := finiteOr zero config.initialZ }

/-- The parameters of the play and the Bouc-Wen modes, and of the output. -/
def normalizeModes (config : SimHystereticOperatorConfig D) : SimHystereticOperatorConfig D :=
  let width := sub config.thresholdHigh config.thresholdLow
  let width := if gt width zero then width else config.thresholdWidth
  let width := if gt width zero then width else one
  let radius :=
    if !isfinite config.playRadius || le config.playRadius zero then mul half width
    else config.playRadius
  let alpha := finiteOr (lit 1 (-1)) config.bwAlpha
  { config with
    playRadius := if lt radius hystWidthMin then hystWidthMin else radius
    bwAlpha := if lt alpha zero then zero else if gt alpha one then one else alpha
    bwA := finiteOr one config.bwA
    bwBeta := finiteOr half config.bwBeta
    bwGamma := finiteOr half config.bwGamma
    bwN := if !isfinite config.bwN || lt config.bwN one then one else config.bwN
    bwZClamp := positiveOrZero config.bwZClamp
    bwXdotClamp := positiveOrZero config.bwXdotClamp
    outputGain := finiteOr one config.outputGain
    outputBias := finiteOr zero config.outputBias }

/-- `hysteretic_normalize_config`. -/
def normalize (config : SimHystereticOperatorConfig D) : SimHystereticOperatorConfig D :=
  config.normalizeThresholds.normalizeLimits.normalizeModes

/-- `hysteretic_transform_input`. -/
def transformInput (config : SimHystereticOperatorConfig D) (value : D) : D :=
  let x := add (mul config.inputGain value) config.inputBias
  match config.inputMode with
  | .abs => fabs x
  | .squared => mul x x
  | .direct => x

/-- `hysteretic_clamp_state`. -/
def clampState (config : SimHystereticOperatorConfig D) (value : D) : D :=
  if lt value config.stateMin then config.stateMin
  else if gt value config.stateMax then config.stateMax
  else value

end SimHystereticOperatorConfig

/-! ### One scalar -/

/-- The state of one scalar: its output and, in the Bouc-Wen mode, `z` and the
previous input. -/
structure HystereticCell (D : Type) where
  output : D
  z : D
  xPrev : D

/-- A value limited to the range from `-limit` to `limit`. -/
def clampSymmetric (limit value : D) : D :=
  if gt value limit then limit else if lt value (neg limit) then neg limit else value

namespace SimHystereticOperatorConfig

/-- The state of a scalar which `hysteretic_initialize_state` sets. -/
def initialCell (config : SimHystereticOperatorConfig D) (input : D) : HystereticCell D :=
  let x := config.transformInput input
  let y :=
    if config.initializeFromInput then
      match config.mode with
      | .schmitt => if ge x config.thresholdHigh then config.outputHigh else config.outputLow
      | .play => x
      | .boucWen => add (mul config.bwAlpha x) (mul (sub one config.bwAlpha) config.initialZ)
    else config.initialOutput
  { output := config.clampState y
    z := config.initialZ
    xPrev := if config.initializeFromInput then x else config.initialInput }

/-- The next output of the Schmitt trigger. -/
def schmitt (config : SimHystereticOperatorConfig D) (x yPrev : D) : D :=
  if ge yPrev (mul half (add config.outputLow config.outputHigh)) then
    if le x config.thresholdLow then config.outputLow else config.outputHigh
  else if ge x config.thresholdHigh then config.outputHigh
  else config.outputLow

/-- The next output of the play operator. -/
def play (config : SimHystereticOperatorConfig D) (x yPrev : D) : D :=
  if gt (sub x yPrev) config.playRadius then sub x config.playRadius
  else if gt (sub yPrev x) config.playRadius then add x config.playRadius
  else yPrev

/-- The next `z` of the Bouc-Wen model. -/
def boucWen (config : SimHystereticOperatorConfig D) (dtEffective x z xPrev : D) : D :=
  let running := gt dtEffective zero
  let xdot := if running then mul (sub x xPrev) (div one dtEffective) else zero
  let xdot := if gt config.bwXdotClamp zero then clampSymmetric config.bwXdotClamp xdot else xdot
  let absZ := fabs z
  let absZPow := if eq config.bwN one then absZ else pow absZ config.bwN
  let absZPowN1 :=
    if gt config.bwN one then if gt absZ zero then pow absZ (sub config.bwN one) else zero
    else one
  let zDot := sub (sub (mul config.bwA xdot)
    (mul (mul (mul config.bwBeta (fabs xdot)) absZPowN1) z)) (mul (mul config.bwGamma xdot) absZPow)
  let z := if running then add z (mul dtEffective zDot) else z
  if gt config.bwZClamp zero then clampSymmetric config.bwZClamp z else z

/-- The next output, smoothed, limited in its rate and clamped. -/
def settle (config : SimHystereticOperatorConfig D) (dtEffective yPrev yNext : D) : D :=
  let yNext :=
    if gt config.smooth zero then
      add (mul (sub one config.smooth) yNext) (mul config.smooth yPrev)
    else yNext
  let rateStep :=
    if gt config.rateLimit zero then
      mul config.rateLimit (if gt dtEffective zero then dtEffective else one)
    else zero
  let yNext :=
    if gt rateStep zero then add yPrev (clampSymmetric rateStep (sub yNext yPrev)) else yNext
  config.clampState yNext

/-- One pass of the loop of `hysteretic_apply`, on the state of a scalar. -/
def advance (config : SimHystereticOperatorConfig D) (dt input : D) (cell : HystereticCell D) :
    HystereticCell D :=
  let dtEffective := if gt dt zero && isfinite dt then dt else zero
  let x := config.transformInput input
  match config.mode with
  | .schmitt =>
      { cell with
        output := config.settle dtEffective cell.output (config.schmitt x cell.output) }
  | .play =>
      { cell with
        output := config.settle dtEffective cell.output (config.play x cell.output) }
  | .boucWen =>
      let z := config.boucWen dtEffective x cell.z cell.xPrev
      let yNext := add (mul config.bwAlpha x) (mul (sub one config.bwAlpha) z)
      { output := config.settle dtEffective cell.output yNext
        z := z
        xPrev := x }

/-- What the pass stores in the output field. -/
def response (config : SimHystereticOperatorConfig D) (dt before : D) (cell : HystereticCell D) : D :=
  let addScale := if config.scaleByDt then fmax dt zero else one
  let value := add (mul config.outputGain cell.output) config.outputBias
  if config.accumulate then add before (mul addScale value) else value

end SimHystereticOperatorConfig

/-! ### The state -/

/-- `SimHystereticOperatorState`. The arrays `z_state` and `x_prev` are allocated and
freed together. The last field is not in the C record: whether a snapshot copy has
left one of its buffers. -/
structure HystereticState (D : Type) where
  config : SimHystereticOperatorConfig D
  outputState : Option (DoubleBuffer D)
  boucWen : Option (DoubleBuffer D × DoubleBuffer D)
  capacity : ℕ
  initialized : Bool
  snapshotOutput : Option (DoubleBuffer D)
  snapshotZ : Option (DoubleBuffer D)
  snapshotXPrev : Option (DoubleBuffer D)
  snapshotCapacity : ℕ
  snapshotInitialized : Bool
  snapshotHasBoucWen : Bool
  overran : Bool

/-- `hysteretic_describe_fields`, with the number of scalars. -/
def hystereticDescribeFields (input output : Option (SimField D)) : Except SimError (Bool × ℕ) :=
  match input, output with
  | some input, some output =>
      let count := SimField.elementCount input.shape
      if count ≠ SimField.elementCount output.shape then .error .invalidArgument
      else
        let complex := input.storageIsComplex
        let size := if complex then 16 else 8
        if complex ≠ output.storageIsComplex then .error .typeMismatch
        else if input.elementSize ≠ size ∨ output.elementSize ≠ size then .error .typeMismatch
        else .ok (complex, count * (if complex then 2 else 1) % 2 ^ 64)
  | _, _ => .error .invalidArgument

namespace HystereticState

/-- The state which `sim_add_hysteretic_operator` allocates. -/
def added (config : SimHystereticOperatorConfig D) : HystereticState D where
  config := config.normalize
  outputState := none
  boucWen := none
  capacity := 0
  initialized := false
  snapshotOutput := none
  snapshotZ := none
  snapshotXPrev := none
  snapshotCapacity := 0
  snapshotInitialized := false
  snapshotHasBoucWen := false
  overran := false

/-- The arrays of the Bouc-Wen mode, when the heap grants them. -/
def allocBoucWen (heap : Heap) (count : ℕ) : Option (DoubleBuffer D × DoubleBuffer D) :=
  match (DoubleBuffer.calloc heap count : Option (DoubleBuffer D)),
      (DoubleBuffer.calloc heap count : Option (DoubleBuffer D)) with
  | some z, some xPrev => some (z, xPrev)
  | _, _ => none

/-- The part of `hysteretic_prepare_state` about the Bouc-Wen arrays. -/
def prepareBoucWen (heap : Heap) (count : ℕ) (state : HystereticState D) :
    HystereticState D × Except SimError Unit :=
  match state.config.mode, state.boucWen with
  | .boucWen, none =>
      match allocBoucWen heap count with
      | none => ({ state with initialized := false }, .error .outOfMemory)
      | some arrays => ({ state with boucWen := some arrays, initialized := false }, .ok ())
  | .boucWen, some _ => (state, .ok ())
  | _, none => (state, .ok ())
  | _, some _ => ({ state with boucWen := none, initialized := false }, .ok ())

/-- `hysteretic_prepare_state`, for a positive count. -/
def prepare (heap : Heap) (count : ℕ) (state : HystereticState D) :
    HystereticState D × Except SimError Unit :=
  if state.capacity = count then state.prepareBoucWen heap count
  else
    match (DoubleBuffer.calloc heap count : Option (DoubleBuffer D)) with
    | none => ({ state with outputState := none, boucWen := none, capacity := 0 }, .error .outOfMemory)
    | some output =>
        prepareBoucWen heap count { state with
          outputState := some output
          boucWen := none
          capacity := count
          initialized := false }

/-- Lane `k` of the live arrays. -/
def cell (state : HystereticState D) (k : ℕ) : HystereticCell D where
  output := (state.outputState.map (DoubleBuffer.lane · k)).getD zero
  z := (state.boucWen.map (DoubleBuffer.lane ·.1 k)).getD zero
  xPrev := (state.boucWen.map (DoubleBuffer.lane ·.2 k)).getD zero

/-- Store the first `count` lanes of the live arrays. -/
def store (count : ℕ) (cells : ℕ → HystereticCell D) (state : HystereticState D) :
    HystereticState D :=
  let put (value : ℕ → D) (buffer : DoubleBuffer D) : DoubleBuffer D :=
    { buffer with lane := fun k => if k < count then value k else buffer.lane k }
  { state with
    outputState := state.outputState.map (put fun k => (cells k).output)
    boucWen := state.boucWen.map fun arrays =>
      (put (fun k => (cells k).z) arrays.1, put (fun k => (cells k).xPrev) arrays.2) }

/-- `hysteretic_initialize_state`, behind the preparation, which leaves no Bouc-Wen
arrays in the other modes. -/
def initializeState (input : ℕ → D) (count : ℕ) (state : HystereticState D) : HystereticState D :=
  { state.store count fun k => state.config.initialCell (input k) with initialized := true }

end HystereticState

open HystereticState

/-- `hysteretic_apply`. -/
def hystereticApply (heap : Heap) (dt : D) : Callback D (HystereticState D) :=
  fun fields _ state =>
    let config := state.config
    let input := fields[config.inputField]?
    let output := fields[config.outputField]?
    match hystereticDescribeFields input output with
    | .error failure => ⟨fun _ => none, state, .error failure⟩
    | .ok (_, count) =>
        if count = 0 then ⟨fun _ => none, state, .ok ()⟩
        else
          match state.prepare heap count with
          | (state, .error failure) => ⟨fun _ => none, state, .error failure⟩
          | (state, .ok _) =>
              match input.bind SimField.buffer, output, output.bind SimField.buffer with
              | some source, some field, some target =>
                  let state := if state.initialized then state else state.initializeState source.lane count
                  let cells := fun k => config.advance dt (source.lane k) (state.cell k)
                  let lanes := .lanes fun k =>
                    if k < count then config.response dt (target.lane k) (cells k) else target.lane k
                  ⟨fun i => if i = config.outputField then
                      some ⟨lanes, field.repr, field.complexMode⟩ else none,
                    state.store count cells, .ok ()⟩
              | _, _, _ => ⟨fun _ => none, state, .error .invalidArgument⟩

/-- The copy of the Bouc-Wen arrays in `hysteretic_save`. Their buffers grow only
where one of them is missing: the recorded capacity has been raised before. -/
def HystereticState.saveBoucWen (heap : Heap) (z xPrev : DoubleBuffer D) (state : HystereticState D) :
    HystereticState D × Except SimError Unit :=
  let bytes := state.capacity * 8
  let copied (snapshotZ snapshotXPrev : DoubleBuffer D) (state : HystereticState D) :
      HystereticState D × Except SimError Unit :=
    ({ state with
      snapshotZ := some (.copy bytes z snapshotZ)
      snapshotXPrev := some (.copy bytes xPrev snapshotXPrev)
      snapshotInitialized := state.initialized
      overran := state.overran || !decide (DoubleBuffer.CopyFits bytes z snapshotZ) ||
        !decide (DoubleBuffer.CopyFits bytes xPrev snapshotXPrev) }, .ok ())
  let grown : HystereticState D × Except SimError Unit :=
    match DoubleBuffer.realloc heap bytes state.snapshotZ with
    | none => (state, .error .outOfMemory)
    | some nextZ =>
        match DoubleBuffer.realloc heap bytes state.snapshotXPrev with
        | none => ({ state with snapshotZ := some nextZ }, .error .outOfMemory)
        | some nextX => copied nextZ nextX state
  match state.snapshotZ, state.snapshotXPrev with
  | some snapshotZ, some snapshotXPrev =>
      if state.snapshotCapacity < state.capacity then grown else copied snapshotZ snapshotXPrev state
  | _, _ => grown

/-- `hysteretic_save`. -/
def hystereticSave (heap : Heap) (state : HystereticState D) :
    HystereticState D × Except SimError Unit :=
  match state.outputState with
  | none => (state, .ok ())
  | some output =>
      if state.capacity = 0 then (state, .ok ())
      else
        let bytes := state.capacity * 8
        let next :=
          if state.snapshotCapacity < state.capacity then
            (DoubleBuffer.realloc heap bytes state.snapshotOutput).map (·, state.capacity)
          else some (state.snapshotOutput.getD ⟨0, fun _ => indeterminate⟩, state.snapshotCapacity)
        match next with
        | none => (state, .error .outOfMemory)
        | some (snapshot, snapshotCapacity) =>
            let state := { state with
              snapshotOutput := some (.copy bytes output snapshot)
              snapshotCapacity := snapshotCapacity
              snapshotHasBoucWen := state.boucWen.isSome
              overran := state.overran || !decide (DoubleBuffer.CopyFits bytes output snapshot) }
            match state.boucWen with
            | none => ({ state with snapshotInitialized := state.initialized }, .ok ())
            | some (z, xPrev) => state.saveBoucWen heap z xPrev

/-- `hysteretic_restore`. -/
def hystereticRestore (state : HystereticState D) : HystereticState D × Except SimError Unit :=
  match state.outputState, state.snapshotOutput with
  | some output, some snapshot =>
      if state.capacity = 0 || decide (state.snapshotCapacity < state.capacity) then (state, .ok ())
      else
        let bytes := state.capacity * 8
        let state := { state with
          outputState := some (.copy bytes snapshot output)
          overran := state.overran || !decide (DoubleBuffer.CopyFits bytes snapshot output) }
        match state.boucWen, state.snapshotHasBoucWen with
        | some (z, xPrev), true =>
            let state := { state with initialized := state.snapshotInitialized }
            match state.snapshotZ, state.snapshotXPrev with
            | some snapshotZ, some snapshotXPrev =>
                ({ state with
                  boucWen := some (.copy bytes snapshotZ z, .copy bytes snapshotXPrev xPrev)
                  overran := state.overran || !decide (DoubleBuffer.CopyFits bytes snapshotZ z) ||
                    !decide (DoubleBuffer.CopyFits bytes snapshotXPrev xPrev) }, .ok ())
            | _, _ => (state, .ok ())
        | _, _ =>
            if state.config.mode = .boucWen then ({ state with initialized := false }, .ok ())
            else ({ state with initialized := state.snapshotInitialized }, .ok ())
  | _, _ => (state, .ok ())

/-- `sim_hysteretic_update`, on the fields of its context. -/
def hystereticUpdate (fields : List (SimField D)) (config : SimHystereticOperatorConfig D)
    (state : HystereticState D) : HystereticState D × Except SimError Unit :=
  let fresh := config.normalize
  match hystereticDescribeFields fields[fresh.inputField]? fields[fresh.outputField]? with
  | .error failure => (state, .error failure)
  | .ok _ => ({ state with config := fresh, initialized := false }, .ok ())

/-! ### Registration -/

/-- The substep which `sim_add_hysteretic_operator` registers. -/
def hystereticSubstep (heap : Heap) : SimSplitSubstep D (HystereticState D) where
  fn := hystereticApply heap
  accesses := [⟨0, .read⟩, ⟨1, .rw⟩]
  dtScale := one
  barrierAfter := false

/-- The split descriptor of `sim_add_hysteretic_operator`, for fields which are complex
or not, with the configuration shared by all operators. -/
def hystereticDescriptor (heap : Heap) (inputField outputField : SizeT) (needsComplex : Bool)
    (config : SimOperatorConfig D) : SimSplitDescriptor D (HystereticState D) where
  ports := [⟨inputField, needsComplex⟩, ⟨outputField, needsComplex⟩]
  substeps := [hystereticSubstep heap]
  saveState := some (memoryCallback (hystereticSave heap))
  restoreState := some (memoryCallback hystereticRestore)
  hasDestroy := true
  representation :=
    { requiresComplexInput := needsComplex
      requiresComplexRepresentation := needsComplex
      valueKind := if needsComplex then .complexScalar else .realScalar }
  config := config
  warpLevel := .none
  scratchBytesPerWorker := 0

/-- The operator as `sim_split_register` records it. -/
def hystereticOperator (heap : Heap) (inputField outputField : SizeT) (needsComplex : Bool)
    (config : SimOperatorConfig D) (address : ℕ) (sets : SplitAccessSets) :
    StatefulOperator D (HystereticState D) (SimHystereticOperatorConfig D) where
  op := substepDescriptor (hystereticDescriptor heap inputField outputField needsComplex config) []
    address 0 (hystereticSubstep heap) sets
  evaluate := simSplitEval (hystereticSubstep heap)
  save := hystereticSave heap
  restore := hystereticRestore
  update := hystereticUpdate
  kernel_eq := rfl
  evaluate_eq := rfl
  saveState_eq := rfl
  restoreState_eq := rfl

end Oakfield
