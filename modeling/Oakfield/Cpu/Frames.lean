import Oakfield.Cpu.EvalNode
import Oakfield.Library.Stamped

/-! The stack of reusable evaluation frames: generation-stamped caches of node
lanes, which launches of different sizes share. -/
namespace Oakfield.Cpu

open KernelIR CDouble Library.Memo

variable {D : Type} [CDouble D]

/-- The arrays `flag_generation`, `flags` and `scratch` of a frame, with its
generation counter. -/
structure FrameArrays (D : Type) where
  /-- Length of the two flag arrays. -/
  slots : ℕ
  /-- Length of `scratch`, whose byte count is computed in `size_t`. -/
  scratchLanes : ℕ
  cells : Stamped 32 D

/-- `SimBackendCPUFrame`; the three arrays are null together. -/
structure SimBackendCPUFrame (D : Type) where
  arrays : Option (FrameArrays D)
  capacity : ℕ
  components : ℕ

/-- `SimBackendCPUState`. The heap decides which of the requests for memory it
serves. -/
structure SimBackendCPUState (D : Type) where
  frames : List (Option (SimBackendCPUFrame D))
  frameCount : ℕ
  capacity : ℕ
  componentCapacity : ℕ
  heap : ℕ → Bool
  requests : ℕ

/-- The state of a new backend. -/
def backendCpuInit (heap : ℕ → Bool) : SimBackendCPUState D := ⟨[], 0, 0, 0, heap, 0⟩

/-- `backend_cpu_frame_destroy`, and a frame from `calloc`. -/
def backendCpuFrameDestroy : SimBackendCPUFrame D := ⟨none, 0, 0⟩

/-- `backend_cpu_frame_resize`; the old contents are dropped. -/
def backendCpuFrameResize (served : Bool) (capacity components : ℕ) :
    Option (SimBackendCPUFrame D) :=
  if capacity = 0 then some backendCpuFrameDestroy
  else
    let slots := capacity * components % 2 ^ 64
    if served && decide (slots * 4 < 2 ^ 64) then
      some ⟨some ⟨slots, slots * 8 % 2 ^ 64 / 8, .empty fun _ => indeterminate⟩, capacity,
        components⟩
    else none

/-- The loop of `backend_cpu_ensure_capacity`, which stops where memory runs out. -/
def backendCpuResizeFrames (heap : ℕ → Bool) (required components : ℕ) :
    List (Option (SimBackendCPUFrame D)) → ℕ → List (Option (SimBackendCPUFrame D)) × ℕ × Bool
  | [], requests => ([], requests, true)
  | none :: rest, requests =>
      let (rest, requests, ok) := backendCpuResizeFrames heap required components rest requests
      (none :: rest, requests, ok)
  | some frame :: rest, requests =>
      match backendCpuFrameResize (heap requests) required components with
      | none => (some frame :: rest, requests + 1, false)
      | some frame =>
          let (rest, requests, ok) :=
            backendCpuResizeFrames heap required components rest (requests + 1)
          (some frame :: rest, requests, ok)

def backendCpuEnsureCapacity (state : SimBackendCPUState D) (required components : ℕ) :
    SimBackendCPUState D × Bool :=
  if required ≤ state.capacity ∧ components ≤ state.componentCapacity then (state, true)
  else
    match backendCpuResizeFrames state.heap required components state.frames state.requests with
    | (frames, requests, true) =>
        ({ state with
            frames := frames, requests := requests
            capacity := required, componentCapacity := components }, true)
    | (frames, requests, false) =>
        ({ state with frames := frames, requests := requests }, false)

/-- Go on after a step which succeeded. -/
def andThen {S : Type} (first : S × Bool) (next : S → S × Bool) : S × Bool :=
  if first.2 then next first.1 else (first.1, false)

/-- The growth of the frame array. -/
def growFrames (state : SimBackendCPUState D) : SimBackendCPUState D × Bool :=
  if state.frameCount = state.frames.length then
    if state.heap state.requests then
      ({ state with frames := state.frames ++ [none], requests := state.requests + 1 }, true)
    else ({ state with requests := state.requests + 1 }, false)
  else (state, true)

/-- Allocate the next frame of the stack if there is none yet. -/
def openFrame (state : SimBackendCPUState D) : SimBackendCPUState D × Bool :=
  match state.frames[state.frameCount]? with
  | some none =>
      if state.heap state.requests then
        ({ state with
            frames := state.frames.set state.frameCount (some backendCpuFrameDestroy)
            requests := state.requests + 1 }, true)
      else ({ state with requests := state.requests + 1 }, false)
  | _ => (state, true)

/-- Resize the next frame of the stack when it has to be. -/
def resizeNext (needed : SimBackendCPUFrame D → Bool) (components : ℕ)
    (state : SimBackendCPUState D) : SimBackendCPUState D × Bool :=
  match state.frames[state.frameCount]? with
  | some (some frame) =>
      if needed frame then
        match backendCpuFrameResize (state.heap state.requests) state.capacity components with
        | none => ({ state with requests := state.requests + 1 }, false)
        | some frame =>
            ({ state with
                frames := state.frames.set state.frameCount (some frame)
                requests := state.requests + 1 }, true)
      else (state, true)
  | _ => (state, true)

/-- What `backend_cpu_frame_acquire` does to the next frame of the stack. -/
def prepareFrame (components : ℕ) (state : SimBackendCPUState D) : SimBackendCPUState D × Bool :=
  andThen (growFrames state) fun state =>
  andThen (openFrame state) fun state =>
  andThen (resizeNext (fun frame => decide (0 < state.capacity) && frame.arrays.isNone)
    state.componentCapacity state) fun state =>
  resizeNext (fun frame => frame.components != components) components state

/-- `backend_cpu_frame_acquire`; the acquired frame is the top of the stack. -/
def backendCpuFrameAcquire (state : SimBackendCPUState D) (required components : ℕ) :
    SimBackendCPUState D × Bool :=
  andThen (backendCpuEnsureCapacity state required components) fun state =>
  andThen (prepareFrame components state) fun state =>
  ({ state with frameCount := state.frameCount + 1 }, true)

def backendCpuFrameRelease (state : SimBackendCPUState D) : SimBackendCPUState D :=
  { state with frameCount := state.frameCount - 1 }

/-- The frame on top of the stack. -/
def SimBackendCPUState.top (state : SimBackendCPUState D) : Option (SimBackendCPUFrame D) :=
  (state.frames[state.frameCount - 1]?).join

/-- Change the cells of the frame on top of the stack. -/
def SimBackendCPUState.modifyTop (state : SimBackendCPUState D)
    (change : SimBackendCPUFrame D → Stamped 32 D → Stamped 32 D) : SimBackendCPUState D :=
  { state with
    frames := state.frames.modify (state.frameCount - 1) <| Option.map fun frame =>
      { frame with arrays := frame.arrays.map fun arrays =>
          { arrays with cells := change frame arrays.cells } } }

/-- `backend_cpu_frame_next_generation` of the top frame. -/
def backendCpuFrameNextGeneration (state : SimBackendCPUState D) : SimBackendCPUState D :=
  state.modifyTop fun _ cells => cells.nextGeneration

/-- The arrays of the top frame are not null. -/
def SimBackendCPUState.topAllocated (state : SimBackendCPUState D) : Bool :=
  state.top.any fun frame => frame.arrays.isSome

/-- The slot of a lane, in `size_t`. -/
def SimBackendCPUFrame.slot (frame : SimBackendCPUFrame D) (lane : NodeLane) : ℕ :=
  (lane.1 * frame.components + lane.2) % 2 ^ 64

/-- The frames as a table of node lanes for a kernel. Using a slot outside the
arrays is a fault. A nested frame without arrays is refused by the first
evaluation in it, as if it could not be acquired. -/
def backendCpuFrames (kernel : Kernel D) : Table (SimBackendCPUState D) NodeLane D where
  look state lane :=
    state.top.bind fun frame => frame.arrays.bind fun arrays =>
      if frame.slot lane < arrays.slots ∧ frame.slot lane < arrays.scratchLanes then
        some (arrays.cells.slot (frame.slot lane))
      else none
  mark state lane := state.modifyTop fun frame cells => cells.setActive (frame.slot lane)
  store state lane value :=
    state.modifyTop fun frame cells => cells.setDone (frame.slot lane) value
  clear state lane := state.modifyTop fun frame cells => cells.setClean (frame.slot lane)
  enter state :=
    andThen (backendCpuFrameAcquire state kernel.builder.count
      (backendCpuBuilderMaxComponents kernel)) fun state =>
    if state.topAllocated then (backendCpuFrameNextGeneration state, true)
    else (backendCpuFrameRelease state, false)
  leave state := backendCpuFrameRelease state

end Oakfield.Cpu
