import Oakfield.Cpu.EvalInteger
import Oakfield.Cpu.FastPath
import Oakfield.Cpu.Frames
import Oakfield.Library.Loop

/-! Launching a kernel on the CPU backend: the outputs in order, each over all
elements of its destination. -/
namespace Oakfield.Cpu

open KernelIR CDouble Library.Memo Library.Loop

variable {D : Type} [CDouble D] {S σ : Type}

/-- Callbacks of stateful nodes. They see the kernel and the fields bound by it,
and have a state of their own. -/
abbrev Callbacks (D σ : Type) :=
  Kernel D → Fields D → StatefulRequest → σ → Except SimError D × σ

/-- What a launch needs of the evaluation frames. -/
structure LaunchFrames (S D : Type) where
  table : Table S NodeLane D
  /-- Acquire the base frame. -/
  begin : S → S × Bool
  nextGeneration : S → S
  /-- Release the base frame. -/
  finish : S → S
  /-- Allocate the two arrays of an integer output. -/
  integerCache : S → S × Bool

/-- The frames of a backend, for launching a kernel. -/
def backendCpuLaunchFrames (kernel : Kernel D) : LaunchFrames (SimBackendCPUState D) D where
  table := backendCpuFrames kernel
  begin state :=
    let components := backendCpuBuilderMaxComponents kernel
    andThen (backendCpuEnsureCapacity state kernel.builder.count components) fun state =>
    andThen (backendCpuFrameAcquire state kernel.builder.count components) fun state =>
    if state.topAllocated then (state, true) else (backendCpuFrameRelease state, false)
  nextGeneration := backendCpuFrameNextGeneration
  finish := backendCpuFrameRelease
  integerCache state :=
    ({ state with requests := state.requests + 2 },
      state.heap state.requests && state.heap (state.requests + 1))

/-- State of a launch: frames, state of the callbacks, contents of the fields. -/
structure LaunchState (S σ D : Type) where
  frames : S
  world : σ
  fields : Fields D

/-- Outcome of a step of a launch, `none` after undefined behaviour. -/
abbrev Outcome (S σ D : Type) := Option (Except SimError Unit × LaunchState S σ D)

/-! ### Integer outputs -/

/-- Write an element of the field at an address as raw bits. -/
def Fields.setWord (fields : Fields D) (address k : ℕ) (raw : Word) : Fields D :=
  Function.update fields address
    { fields address with data := (fields address).data.map fun data => data.setWord k raw }

/-- `backend_cpu_store_integer_value`. -/
def backendCpuStoreIntegerValue (fields : Fields D) (address elementIndex : ℕ)
    (domain : SimScalarDomain) (raw : Word) : Except SimError (Fields D) :=
  let field := fields address
  if !domain.isInteger || field.domain != domain then .error .invalidArgument
  else if domain.bitWidth = 32 ∨ domain.bitWidth = 64 then
    if field.buffer.isNone then .error .invalidArgument
    else .ok (fields.setWord address elementIndex (backendCpuIntegerTruncate raw domain))
  else .error .invalidArgument

/-- An element of an integer output; the flags are cleared before it. -/
def backendCpuIntegerElement (kernel : Kernel D) (expression : SimIRNodeId) (domain : SimScalarDomain)
    (address elementIndex : ℕ) (st : LaunchState S σ D) : Outcome S σ D :=
  match backendCpuEvaluateInteger kernel st.fields elementIndex expression with
  | none => none
  | some (.error e) => some (.error e, st)
  | some (.ok raw) =>
      match backendCpuStoreIntegerValue st.fields address elementIndex domain raw with
      | .error e => some (.error e, st)
      | .ok fields => some (.ok (), { st with fields := fields })

/-- `backend_cpu_execute_integer_output`. -/
def backendCpuExecuteIntegerOutput (frames : LaunchFrames S D) (kernel : Kernel D)
    (expression : SimIRNodeId) (root : SimIRNode D) (address : ℕ) (st : LaunchState S σ D) :
    Outcome S σ D :=
  let domain := root.valueType.domain
  let dest := st.fields address
  if !domain.isInteger || dest.domain != domain || !domain.matchesStorage dest.elementSize then
    some (.error .typeMismatch, st)
  else if backendCpuElementCount dest = 0 then some (.ok (), st)
  else
    match frames.integerCache st.frames with
    | (cache, false) => some (.error .outOfMemory, { st with frames := cache })
    | (cache, true) =>
        forEach (backendCpuIntegerElement kernel expression domain address)
          (List.range (backendCpuElementCount dest)) { st with frames := cache }

/-! ### Other outputs -/

/-- `backend_cpu_eval_components_*`: the lanes of the root from `component` on.
The row they are written to is the row of the root in the base frame. -/
def backendCpuEvalComponents (evalLane : ℕ → S → σ → Option (Except SimError D × S × σ)) :
    ℕ → ℕ → S → σ → Option (Except SimError (List D) × S × σ)
  | 0, _, s, w => some (.ok [], s, w)
  | limit + 1, component, s, w =>
      match evalLane component s w with
      | none => none
      | some (.error e, s, w) => some (.error e, s, w)
      | some (.ok value, s, w) =>
          match backendCpuEvalComponents evalLane limit (component + 1) s w with
          | none => none
          | some (.error e, s, w) => some (.error e, s, w)
          | some (.ok row, s, w) => some (.ok (value :: row), s, w)

/-- Evaluate a lane of a node at an element. -/
def backendCpuEvaluate (frames : LaunchFrames S D) (kernel : Kernel D) (callbacks : Callbacks D σ)
    (fields : Fields D) (reference : SimField D) (elementIndex : ℕ) (lane : NodeLane) (s : S)
    (w : σ) : Option (Except SimError D × S × σ) :=
  eval (backendCpuRules kernel fields reference) frames.table (callbacks kernel fields)
    (kernel.builder.count + 1) elementIndex lane s w

/-- Store a row of lanes from a lane of the field on. -/
def Fields.storeRow (fields : Fields D) (address : ℕ) : ℕ → List D → Fields D
  | _, [] => fields
  | k, value :: row => (fields.setLane address k value).storeRow address (k + 1) row

/-- One element of an output of the general path. -/
def backendCpuElement (frames : LaunchFrames S D) (kernel : Kernel D) (callbacks : Callbacks D σ)
    (expression : SimIRNodeId) (address componentLimit : ℕ) (elementIndex : ℕ)
    (st : LaunchState S σ D) : Outcome S σ D :=
  let dest := st.fields address
  match backendCpuEvalComponents (fun component =>
      backendCpuEvaluate frames kernel callbacks st.fields dest elementIndex (expression, component))
      componentLimit 0 (frames.nextGeneration st.frames) st.world with
  | none => none
  | some (.error e, s, w) => some (.error e, { st with frames := s, world := w })
  | some (.ok row, s, w) =>
      some (.ok (), ⟨s, w,
        st.fields.storeRow address (elementIndex * (dest.elementSize / 8)) row⟩)

/-- The lanes of a destination which the general path computes: the base frame
has the largest number of components of the builder. -/
def backendCpuComponentLimit (kernel : Kernel D) (dest : SimField D) : ℕ :=
  min (dest.elementSize / 8) (backendCpuBuilderMaxComponents kernel)

/-- The general path over all elements of a destination. -/
def backendCpuGeneralPath (frames : LaunchFrames S D) (kernel : Kernel D)
    (callbacks : Callbacks D σ) (expression : SimIRNodeId) (address : ℕ)
    (st : LaunchState S σ D) : Outcome S σ D :=
  let dest := st.fields address
  forEach (backendCpuElement frames kernel callbacks expression address
    (backendCpuComponentLimit kernel dest)) (List.range (backendCpuElementCount dest)) st

/-- One output of `backend_cpu_launch_impl`. -/
def backendCpuExecuteOutput (frames : LaunchFrames S D) (kernel : Kernel D)
    (callbacks : Callbacks D σ) (output : SimKernelIROutput) (st : LaunchState S σ D) :
    Outcome S σ D :=
  match backendCpuFindField kernel output.fieldIndex with
  | none => some (.error .notFound, st)
  | some address =>
      match kernel.builder.node? output.expression with
      | none => some (.error .invalidArgument, st)
      | some root =>
          let dest := st.fields address
          if root.valueType.normalize.domain.isInteger then
            backendCpuExecuteIntegerOutput frames kernel output.expression root address st
          else if dest.elementSize = 0 ∨ dest.elementSize % 8 ≠ 0 then
            some (.error .invalidArgument, st)
          else if backendCpuElementCount dest = 0 then some (.ok (), st)
          else if dest.buffer.isNone then some (.error .invalidArgument, st)
          else
            match backendCpuTrySimpleFieldOp kernel st.fields output.expression address
                (backendCpuElementCount dest) with
            | some fields => some (.ok (), { st with fields := fields })
            | none => backendCpuGeneralPath frames kernel callbacks output.expression address st

/-- `backend_cpu_launch_impl` over any frames. -/
def backendCpuLaunchWith (frames : LaunchFrames S D) (kernel : Kernel D)
    (callbacks : Callbacks D σ) (st : LaunchState S σ D) : Outcome S σ D :=
  match frames.begin st.frames with
  | (s, false) => some (.error .outOfMemory, { st with frames := s })
  | (s, true) =>
      (forEach (backendCpuExecuteOutput frames kernel callbacks) kernel.outputs
        { st with frames := s }).map fun out =>
          (out.1, { out.2 with frames := frames.finish out.2.frames })

/-- `backend_cpu_launch_impl`. -/
def backendCpuLaunch (kernel : Kernel D) (callbacks : Callbacks D σ)
    (st : LaunchState (SimBackendCPUState D) σ D) : Outcome (SimBackendCPUState D) σ D :=
  backendCpuLaunchWith (backendCpuLaunchFrames kernel) kernel callbacks st

/-! ### Launches over other frames -/

/-- Unbounded tables, empty in each generation. -/
def freshLaunchFrames : LaunchFrames (List (NodeLane → Slot D)) D where
  table := fresh
  begin s := ((fun _ => .clean) :: s, true)
  nextGeneration s := s.modifyHead fun _ _ => .clean
  finish s := s.tail
  integerCache s := (s, true)

/-- No cache: every lane is evaluated each time it is asked for. -/
def noLaunchFrames : LaunchFrames Unit D where
  table := noTable
  begin s := (s, true)
  nextGeneration s := s
  finish s := s
  integerCache s := (s, true)

end Oakfield.Cpu
