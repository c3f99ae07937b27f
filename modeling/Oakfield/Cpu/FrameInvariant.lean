import Oakfield.Cpu.Frames

/-! What holds of the frames of a backend in every state: arrays of the sizes
which the frame records, and stamps which are never ahead of the generation.
Acquiring a frame for a kernel yields arrays large enough for its grid. -/
namespace Oakfield.Cpu

open KernelIR CDouble Library.Memo

variable {D : Type}

/-- A frame of a backend with the given capacities: its arrays have one slot for
each lane, and a frame smaller than the backend asks for has too many
components, so it is resized before it is used. -/
structure FrameOk (capacity componentCapacity : ℕ) (frame : SimBackendCPUFrame D) : Prop where
  sized : ∀ arrays, frame.arrays = some arrays →
    arrays.slots = frame.capacity * frame.components ∧
      arrays.scratchLanes = frame.capacity * frame.components
  current : ∀ arrays, frame.arrays = some arrays → arrays.cells.Current
  small : ∀ arrays, frame.arrays = some arrays → frame.capacity * frame.components * 8 < 2 ^ 64
  large : ∀ arrays, frame.arrays = some arrays →
    capacity ≤ frame.capacity ∨ componentCapacity < frame.components

structure StateOk (state : SimBackendCPUState D) : Prop where
  fits : state.capacity * state.componentCapacity * 8 < 2 ^ 64
  depth : state.frameCount ≤ state.frames.length
  frames : ∀ frame, some frame ∈ state.frames →
    FrameOk state.capacity state.componentCapacity frame

theorem stateOk_init (heap : ℕ → Bool) : StateOk (backendCpuInit heap : SimBackendCPUState D) :=
  ⟨by simp [backendCpuInit], Nat.le_refl _, fun frame hMem => by cases hMem⟩

theorem frameOk_destroy (capacity componentCapacity : ℕ) :
    FrameOk capacity componentCapacity (backendCpuFrameDestroy : SimBackendCPUFrame D) := by
  constructor <;> intro arrays hArrays <;> cases hArrays

variable [CDouble D]

/-- A resized frame has the size which was asked for, or no arrays. -/
theorem frameResize_spec {served : Bool} {capacity components : ℕ} {frame : SimBackendCPUFrame D}
    (hFits : capacity * components * 8 < 2 ^ 64)
    (hResize : backendCpuFrameResize served capacity components = some frame) :
    (∀ cap comps, cap ≤ capacity ∨ comps < components → FrameOk cap comps frame) ∧
      (frame.arrays.isSome = true → frame.components = components) := by
  unfold backendCpuFrameResize at hResize
  split at hResize
  case isTrue hZero =>
    cases hResize
    exact ⟨fun cap comps _ => frameOk_destroy cap comps, fun hSome => by cases hSome⟩
  case isFalse =>
    dsimp only at hResize
    split at hResize
    case isFalse => cases hResize
    case isTrue =>
      cases hResize
      refine ⟨fun cap comps hLarge => ⟨?_, ?_, ?_, ?_⟩, fun _ => rfl⟩
      · rintro arrays ⟨⟩
        have hSlots : capacity * components % 2 ^ 64 = capacity * components :=
          Nat.mod_eq_of_lt (by omega)
        exact ⟨hSlots, by
          dsimp only
          rw [hSlots, Nat.mod_eq_of_lt hFits, Nat.mul_div_cancel _ (by decide)]⟩
      · rintro arrays ⟨⟩
        exact Stamped.current_empty (by decide) _
      · exact fun _ _ => hFits
      · exact fun _ _ => hLarge

/-- Resizing all frames keeps every frame in order, also when it stops early. -/
theorem resizeFrames_spec (heap : ℕ → Bool) {required components cap comps : ℕ}
    (hFits : required * components * 8 < 2 ^ 64) (hLarge : cap ≤ required ∨ comps < components)
    (frames : List (Option (SimBackendCPUFrame D))) (requests : ℕ)
    (hFrames : ∀ frame, some frame ∈ frames → FrameOk cap comps frame) :
    (backendCpuResizeFrames heap required components frames requests).1.length = frames.length ∧
      (∀ frame, some frame ∈ (backendCpuResizeFrames heap required components frames requests).1 →
        FrameOk cap comps frame) ∧
      ((backendCpuResizeFrames heap required components frames requests).2.2 = true →
        ∀ frame, some frame ∈ (backendCpuResizeFrames heap required components frames requests).1 →
          FrameOk required components frame) := by
  induction frames generalizing requests with
  | nil => exact ⟨rfl, hFrames, fun _ frame hMem => by cases hMem⟩
  | cons head rest ih =>
      have hRest : ∀ frame, some frame ∈ rest → FrameOk cap comps frame :=
        fun frame hMem => hFrames frame (List.mem_cons_of_mem _ hMem)
      cases head with
      | none =>
          obtain ⟨hLength, hKept, hDone⟩ := ih requests hRest
          simp only [backendCpuResizeFrames]
          refine ⟨by simp [hLength], fun frame hMem => ?_, fun hOk frame hMem => ?_⟩
          · exact hKept frame (by simpa using hMem)
          · exact hDone hOk frame (by simpa using hMem)
      | some frame =>
          unfold backendCpuResizeFrames
          cases hResize : (backendCpuFrameResize (heap requests) required components :
              Option (SimBackendCPUFrame D)) with
          | none => exact ⟨rfl, hFrames, fun hOk => by cases hOk⟩
          | some resized =>
              obtain ⟨hResized, -⟩ := frameResize_spec hFits hResize
              obtain ⟨hLength, hKept, hDone⟩ := ih (requests + 1) hRest
              refine ⟨by simp [hLength], fun frame' hMem => ?_, fun hOk frame' hMem => ?_⟩
              · rcases List.mem_cons.mp hMem with hEq | hMem
                · cases hEq
                  exact hResized cap comps hLarge
                · exact hKept frame' hMem
              · rcases List.mem_cons.mp hMem with hEq | hMem
                · cases hEq
                  exact hResized required components (.inl (Nat.le_refl _))
                · exact hDone hOk frame' hMem

theorem ensureCapacity_of_le {state : SimBackendCPUState D} {required components : ℕ}
    (hCapacity : required ≤ state.capacity) (hComponents : components ≤ state.componentCapacity) :
    backendCpuEnsureCapacity state required components = (state, true) :=
  if_pos ⟨hCapacity, hComponents⟩

theorem ensureCapacity_spec {state : SimBackendCPUState D} (hState : StateOk state)
    {required components : ℕ} (hFits : required * components * 8 < 2 ^ 64) :
    StateOk (backendCpuEnsureCapacity state required components).1 ∧
      (backendCpuEnsureCapacity state required components).1.frameCount = state.frameCount ∧
      ((backendCpuEnsureCapacity state required components).2 = true →
        required ≤ (backendCpuEnsureCapacity state required components).1.capacity ∧
          components ≤ (backendCpuEnsureCapacity state required components).1.componentCapacity) := by
  by_cases hEnough : required ≤ state.capacity ∧ components ≤ state.componentCapacity
  · rw [ensureCapacity_of_le hEnough.1 hEnough.2]
    exact ⟨hState, rfl, fun _ => hEnough⟩
  · have hLarge : state.capacity ≤ required ∨ state.componentCapacity < components := by omega
    obtain ⟨hLength, hKept, hDone⟩ := resizeFrames_spec state.heap hFits hLarge state.frames
      state.requests hState.frames
    unfold backendCpuEnsureCapacity
    rw [if_neg hEnough]
    cases hRun : backendCpuResizeFrames state.heap required components state.frames
        state.requests with
    | mk frames rest =>
        obtain ⟨requests, ok⟩ := rest
        rw [hRun] at hLength hKept hDone
        cases ok with
        | true =>
            exact ⟨⟨hFits, by simpa [hLength] using hState.depth, hDone rfl⟩, rfl,
              fun _ => ⟨Nat.le_refl _, Nat.le_refl _⟩⟩
        | false =>
            exact ⟨⟨hState.fits, by simpa [hLength] using hState.depth, hKept⟩, rfl,
              fun hOk => by cases hOk⟩

/-! ### Acquiring a frame -/

/-- A later state with the same capacities and the same frames in use. -/
structure Prepared (state state' : SimBackendCPUState D) : Prop where
  ok : StateOk state'
  frameCount : state'.frameCount = state.frameCount
  capacity : state'.capacity = state.capacity
  componentCapacity : state'.componentCapacity = state.componentCapacity
  below : ∀ i, i < state.frameCount → state'.frames[i]? = state.frames[i]?

omit [CDouble D] in
theorem Prepared.refl {state : SimBackendCPUState D} (hState : StateOk state) :
    Prepared state state :=
  ⟨hState, rfl, rfl, rfl, fun _ _ => rfl⟩

omit [CDouble D] in
theorem Prepared.trans {s₁ s₂ s₃ : SimBackendCPUState D} (hFirst : Prepared s₁ s₂)
    (hSecond : Prepared s₂ s₃) : Prepared s₁ s₃ :=
  ⟨hSecond.ok, hSecond.frameCount.trans hFirst.frameCount, hSecond.capacity.trans hFirst.capacity,
    hSecond.componentCapacity.trans hFirst.componentCapacity, fun i hI =>
      (hSecond.below i (by rw [hFirst.frameCount]; exact hI)).trans (hFirst.below i hI)⟩

omit [CDouble D] in
/-- A step, and what follows it when it succeeds. -/
theorem Prepared.andThen {state : SimBackendCPUState D} {first : SimBackendCPUState D × Bool}
    {next : SimBackendCPUState D → SimBackendCPUState D × Bool} {P Q : SimBackendCPUState D → Prop}
    (hFirst : Prepared state first.1 ∧ (first.2 = true → P first.1))
    (hNext : ∀ s, Prepared state s → P s →
      Prepared state (next s).1 ∧ ((next s).2 = true → Q (next s).1)) :
    Prepared state (Cpu.andThen first next).1 ∧
      ((Cpu.andThen first next).2 = true → Q (Cpu.andThen first next).1) := by
  unfold Cpu.andThen
  cases hOk : first.2 with
  | true => exact hNext first.1 hFirst.1 (hFirst.2 hOk)
  | false => exact ⟨hFirst.1, fun h => by cases h⟩

omit [CDouble D] in
/-- More requests do not matter. -/
theorem Prepared.requests {state : SimBackendCPUState D} (hState : StateOk state) (requests : ℕ) :
    Prepared state { state with requests := requests } :=
  ⟨⟨hState.fits, hState.depth, hState.frames⟩, rfl, rfl, rfl, fun _ _ => rfl⟩

omit [CDouble D] in
/-- Replacing the next frame of the stack by one in order. -/
theorem Prepared.setNext {state : SimBackendCPUState D} (hState : StateOk state)
    {frame : SimBackendCPUFrame D}
    (hFrame : FrameOk state.capacity state.componentCapacity frame) (requests : ℕ) :
    Prepared state { state with
      frames := state.frames.set state.frameCount (some frame), requests := requests } := by
  refine ⟨⟨hState.fits, by simpa using hState.depth, fun frame' hMem => ?_⟩, rfl, rfl, rfl,
    fun i hI => ?_⟩
  · rcases List.mem_or_eq_of_mem_set hMem with hMem | hEq
    · exact hState.frames frame' hMem
    · cases hEq
      exact hFrame
  · exact List.getElem?_set_ne (Nat.ne_of_gt hI)

omit [CDouble D] in
theorem growFrames_spec {state : SimBackendCPUState D} (hState : StateOk state) :
    Prepared state (growFrames state).1 ∧ ((growFrames state).2 = true →
      (growFrames state).1.frameCount < (growFrames state).1.frames.length) := by
  unfold growFrames
  split
  case isTrue hFull =>
    split
    · refine ⟨⟨⟨hState.fits, by simp [hFull], fun frame hMem => ?_⟩, rfl, rfl, rfl, fun i hI => ?_⟩,
        fun _ => by simp [hFull]⟩
      · exact hState.frames frame (by simpa using hMem)
      · exact List.getElem?_append_left (by omega)
    · exact ⟨.requests hState _, fun h => by cases h⟩
  case isFalse hRoom =>
    exact ⟨.refl hState, fun _ => Nat.lt_of_le_of_ne hState.depth hRoom⟩

/-- The next frame of the stack. -/
def NextFrame (state : SimBackendCPUState D) (P : SimBackendCPUFrame D → Prop) : Prop :=
  ∃ frame, state.frames[state.frameCount]? = some (some frame) ∧ P frame

omit [CDouble D] in
theorem openFrame_spec {state : SimBackendCPUState D} (hState : StateOk state)
    (hRoom : state.frameCount < state.frames.length) :
    Prepared state (openFrame state).1 ∧ ((openFrame state).2 = true →
      NextFrame (openFrame state).1 fun _ => True) := by
  unfold openFrame
  split
  case h_1 =>
    split
    · exact ⟨.setNext hState (frameOk_destroy _ _) _, fun _ =>
        ⟨backendCpuFrameDestroy, by simp [List.getElem?_set_self hRoom], trivial⟩⟩
    · exact ⟨.requests hState _, fun h => by cases h⟩
  case h_2 hNotNone =>
    refine ⟨.refl hState, fun _ => ?_⟩
    have hSome := List.getElem?_eq_getElem hRoom
    cases hFrame : state.frames[state.frameCount] with
    | none => exact absurd (hSome.trans (congrArg some hFrame)) hNotNone
    | some frame => exact ⟨frame, hSome.trans (congrArg some hFrame), trivial⟩

/-- After a resize step the next frame was not in need of it, or has the new size. -/
theorem resizeNext_spec {state : SimBackendCPUState D} (hState : StateOk state) {components : ℕ}
    (hComponents : components ≤ state.componentCapacity) (needed : SimBackendCPUFrame D → Bool)
    {P : SimBackendCPUFrame D → Prop} (hNext : NextFrame state P) :
    Prepared state (resizeNext needed components state).1 ∧
      ((resizeNext needed components state).2 = true →
        NextFrame (resizeNext needed components state).1 fun frame =>
          (P frame ∧ needed frame = false) ∨
            (frame.arrays.isSome = true → frame.components = components)) := by
  obtain ⟨frame, hFrame, hP⟩ := hNext
  have hRoom : state.frameCount < state.frames.length := by
    by_contra hOut
    rw [List.getElem?_eq_none (Nat.le_of_not_lt hOut)] at hFrame
    cases hFrame
  unfold resizeNext
  simp only [hFrame]
  cases hNeeded : needed frame with
  | false =>
      exact ⟨.refl hState, fun _ => ⟨frame, hFrame, .inl ⟨hP, hNeeded⟩⟩⟩
  | true =>
      simp only [if_true]
      cases hResize : (backendCpuFrameResize (state.heap state.requests) state.capacity components :
          Option (SimBackendCPUFrame D)) with
      | none => exact ⟨.requests hState _, fun h => by cases h⟩
      | some resized =>
          have hFits : state.capacity * components * 8 < 2 ^ 64 :=
            Nat.lt_of_le_of_lt
              (Nat.mul_le_mul_right 8 (Nat.mul_le_mul_left state.capacity hComponents)) hState.fits
          obtain ⟨hOk, hSize⟩ := frameResize_spec hFits hResize
          exact ⟨.setNext hState (hOk _ _ (.inl (Nat.le_refl _))) _, fun _ => ⟨resized, by
            simp [List.getElem?_set_self hRoom], .inr hSize⟩⟩

/-- The next frame of the stack has arrays of the given components, if it has any. -/
def NextComponents (components : ℕ) (state : SimBackendCPUState D) : Prop :=
  NextFrame state fun frame => frame.arrays.isSome = true → frame.components = components

theorem prepareFrame_spec {state : SimBackendCPUState D} (hState : StateOk state) {components : ℕ}
    (hComponents : components ≤ state.componentCapacity) :
    Prepared state (prepareFrame components state).1 ∧
      ((prepareFrame components state).2 = true →
        NextComponents components (prepareFrame components state).1) := by
  refine Prepared.andThen (P := fun s => s.frameCount < s.frames.length)
    (Q := NextComponents components) (growFrames_spec hState) fun s hS hRoom => ?_
  have hOpen := openFrame_spec hS.ok hRoom
  refine Prepared.andThen (P := fun s => NextFrame s fun _ => True)
    (Q := NextComponents components) ⟨hS.trans hOpen.1, hOpen.2⟩ fun s hS hNext => ?_
  have hFirst := resizeNext_spec hS.ok (Nat.le_refl _)
    (fun frame => decide (0 < s.capacity) && frame.arrays.isNone) hNext
  refine Prepared.andThen (P := fun s => NextFrame s fun _ => True)
    (Q := NextComponents components) ⟨hS.trans hFirst.1, fun hOk => ?_⟩ fun s hS hNext => ?_
  · obtain ⟨frame, hFrame, -⟩ := hFirst.2 hOk
    exact ⟨frame, hFrame, trivial⟩
  · have hLe : components ≤ s.componentCapacity := by
      rw [hS.componentCapacity]
      exact hComponents
    have hSecond :=
      resizeNext_spec hS.ok hLe (fun frame => frame.components != components) hNext
    refine ⟨hS.trans hSecond.1, fun hOk => ?_⟩
    obtain ⟨frame, hFrame, hSize⟩ := hSecond.2 hOk
    refine ⟨frame, hFrame, fun hSome => ?_⟩
    rcases hSize with ⟨-, hSame⟩ | hSize
    · simpa using hSame
    · exact hSize hSome

/-! ### Frames in use -/

/-- The cells of a frame are the slots of a table, for the lanes of a kernel. -/
structure Holds (kernel : Kernel D) (frame : SimBackendCPUFrame D) (tbl : NodeLane → Slot D) :
    Prop where
  components : frame.components = backendCpuBuilderMaxComponents kernel
  capacity : kernel.builder.count ≤ frame.capacity
  slots : ∃ arrays, frame.arrays = some arrays ∧
    ∀ lane, InGrid kernel lane → arrays.cells.slot (frame.slot lane) = tbl lane

/-- The frames in use hold the tables of a stack, the top one first. -/
def Stack (kernel : Kernel D) (frames : List (Option (SimBackendCPUFrame D))) :
    List (NodeLane → Slot D) → Prop
  | [] => True
  | tbl :: rest =>
      (∃ frame, frames[rest.length]? = some (some frame) ∧ Holds kernel frame tbl) ∧
        Stack kernel frames rest

/-- The state of the backend within a launch of a kernel, and the tables which
the frames in use stand for. -/
structure Corresponds (kernel : Kernel D) (state : SimBackendCPUState D)
    (tbls : List (NodeLane → Slot D)) : Prop where
  ok : StateOk state
  capacity : kernel.builder.count ≤ state.capacity
  components : backendCpuBuilderMaxComponents kernel ≤ state.componentCapacity
  depth : state.frameCount = tbls.length
  stack : Stack kernel state.frames tbls

variable {kernel : Kernel D}

omit [CDouble D] in
/-- A stack only reads the frames in use. -/
theorem Stack.congr {frames frames' : List (Option (SimBackendCPUFrame D))}
    {tbls : List (NodeLane → Slot D)} (hStack : Stack kernel frames tbls)
    (hSame : ∀ i, i < tbls.length → frames'[i]? = frames[i]?) : Stack kernel frames' tbls := by
  induction tbls with
  | nil => trivial
  | cons tbl rest ih =>
      obtain ⟨⟨frame, hFrame, hHolds⟩, hRest⟩ := hStack
      refine ⟨⟨frame, ?_, hHolds⟩, ih hRest fun i hI => hSame i ?_⟩
      · rw [hSame _ (Nat.lt_succ_self _), hFrame]
      · exact Nat.lt_succ_of_lt hI

omit [CDouble D] in
/-- Lanes of the grid have slots of their own inside the arrays. -/
theorem slot_lt {frame : SimBackendCPUFrame D} {lane : NodeLane} (hGrid : InGrid kernel lane)
    (hComponents : frame.components = backendCpuBuilderMaxComponents kernel)
    (hCapacity : kernel.builder.count ≤ frame.capacity)
    (hSmall : frame.capacity * frame.components * 8 < 2 ^ 64) :
    frame.slot lane = lane.1 * frame.components + lane.2 ∧
      frame.slot lane < frame.capacity * frame.components := by
  have hLane : lane.2 < frame.components := hComponents ▸ hGrid.2
  have hBound : lane.1 * frame.components + lane.2 < frame.capacity * frame.components :=
    calc lane.1 * frame.components + lane.2
        < lane.1 * frame.components + frame.components := Nat.add_lt_add_left hLane _
      _ = (lane.1 + 1) * frame.components := (Nat.succ_mul _ _).symm
      _ ≤ frame.capacity * frame.components :=
          Nat.mul_le_mul_right _ (Nat.le_trans hGrid.1 hCapacity)
  have hSize : frame.capacity * frame.components < 2 ^ 64 := by omega
  have hExact : frame.slot lane = lane.1 * frame.components + lane.2 :=
    Nat.mod_eq_of_lt (Nat.lt_trans hBound hSize)
  exact ⟨hExact, by rw [hExact]; exact hBound⟩

omit [CDouble D] in
theorem slot_injective {frame : SimBackendCPUFrame D}
    (hComponents : frame.components = backendCpuBuilderMaxComponents kernel)
    (hCapacity : kernel.builder.count ≤ frame.capacity)
    (hSmall : frame.capacity * frame.components * 8 < 2 ^ 64) {lane lane' : NodeLane}
    (hGrid : InGrid kernel lane) (hGrid' : InGrid kernel lane')
    (hSame : frame.slot lane = frame.slot lane') : lane = lane' := by
  have hLane : lane.2 < frame.components := hComponents ▸ hGrid.2
  have hLane' : lane'.2 < frame.components := hComponents ▸ hGrid'.2
  rw [(slot_lt hGrid hComponents hCapacity hSmall).1,
    (slot_lt hGrid' hComponents hCapacity hSmall).1] at hSame
  have hQuotient : ∀ id c, c < frame.components → (id * frame.components + c) / frame.components = id := by
    intro id c hC
    rw [Nat.add_comm, Nat.add_mul_div_right _ _ (Nat.zero_lt_of_lt hC), Nat.div_eq_of_lt hC,
      Nat.zero_add]
  have hNode : lane.1 = lane'.1 := by
    rw [← hQuotient lane.1 lane.2 hLane, hSame, hQuotient lane'.1 lane'.2 hLane']
  refine Prod.ext hNode ?_
  rw [hNode] at hSame
  exact Nat.add_left_cancel hSame

section Top

variable {state : SimBackendCPUState D} {tbl : NodeLane → Slot D}
  {rest : List (NodeLane → Slot D)}

omit [CDouble D] in
/-- The frame on top of the stack, and what is known of it. -/
theorem Corresponds.top (hCorr : Corresponds kernel state (tbl :: rest)) :
    ∃ frame arrays, state.frames[rest.length]? = some (some frame) ∧
      state.top = some frame ∧ frame.arrays = some arrays ∧
      frame.components = backendCpuBuilderMaxComponents kernel ∧
      kernel.builder.count ≤ frame.capacity ∧
      FrameOk state.capacity state.componentCapacity frame ∧
      ∀ lane, InGrid kernel lane → arrays.cells.slot (frame.slot lane) = tbl lane := by
  obtain ⟨⟨frame, hFrame, hHolds⟩, -⟩ := hCorr.stack
  obtain ⟨arrays, hArrays, hSlots⟩ := hHolds.slots
  refine ⟨frame, arrays, hFrame, ?_, hArrays, hHolds.components, hHolds.capacity,
    hCorr.ok.frames frame (List.mem_of_getElem? hFrame), hSlots⟩
  unfold SimBackendCPUState.top
  rw [hCorr.depth, List.length_cons, Nat.add_sub_cancel, hFrame]
  rfl

omit [CDouble D] in
/-- Changing cells of the top frame changes the top table. -/
theorem Corresponds.modifyTop (hCorr : Corresponds kernel state (tbl :: rest))
    {change : SimBackendCPUFrame D → Stamped 32 D → Stamped 32 D} {tbl' : NodeLane → Slot D}
    (hCurrent : ∀ frame cells, cells.Current → (change frame cells).Current)
    (hSlots : ∀ frame cells, cells.Current →
      (∀ lane lane', InGrid kernel lane → InGrid kernel lane' →
        frame.slot lane = frame.slot lane' → lane = lane') →
      (∀ lane, InGrid kernel lane → cells.slot (frame.slot lane) = tbl lane) →
      ∀ lane, InGrid kernel lane → (change frame cells).slot (frame.slot lane) = tbl' lane) :
    Corresponds kernel (state.modifyTop change) (tbl' :: rest) := by
  obtain ⟨frame, arrays, hFrame, -, hArrays, hComponents, hCapacity, hOk, hTbl⟩ := hCorr.top
  have hIndex : state.frameCount - 1 = rest.length := by
    rw [hCorr.depth, List.length_cons, Nat.add_sub_cancel]
  have hTop : (state.modifyTop change).frames[rest.length]? = some (some { frame with
      arrays := some { arrays with cells := change frame arrays.cells } }) := by
    simp [SimBackendCPUState.modifyTop, hIndex, hFrame, hArrays]
  have hOther : ∀ i, i ≠ rest.length →
      (state.modifyTop change).frames[i]? = state.frames[i]? := by
    intro i hNe
    simp [SimBackendCPUState.modifyTop, hIndex, Ne.symm hNe]
  have hInjective : ∀ lane lane', InGrid kernel lane → InGrid kernel lane' →
      frame.slot lane = frame.slot lane' → lane = lane' :=
    fun _ _ hGrid hGrid' => slot_injective hComponents hCapacity (hOk.small _ hArrays) hGrid hGrid'
  refine ⟨⟨hCorr.ok.fits, ?_, fun frame' hMem => ?_⟩, hCorr.capacity, hCorr.components, hCorr.depth,
    ⟨⟨_, hTop, ⟨hComponents, hCapacity, _, rfl, ?_⟩⟩, hCorr.stack.2.congr fun i hI =>
      hOther i (Nat.ne_of_lt hI)⟩⟩
  · simpa [SimBackendCPUState.modifyTop] using hCorr.ok.depth
  · obtain ⟨i, hI⟩ := List.mem_iff_getElem?.mp hMem
    by_cases hEq : i = rest.length
    · rw [hEq, hTop] at hI
      cases hI
      refine ⟨?_, ?_, ?_, ?_⟩
      · rintro arrays' ⟨⟩
        exact hOk.sized arrays hArrays
      · rintro arrays' ⟨⟩
        exact hCurrent _ _ (hOk.current _ hArrays)
      · rintro arrays' ⟨⟩
        exact hOk.small arrays hArrays
      · rintro arrays' ⟨⟩
        exact hOk.large arrays hArrays
    · rw [hOther i hEq] at hI
      exact hCorr.ok.frames frame' (List.mem_of_getElem? hI)
  · exact hSlots frame arrays.cells (hOk.current _ hArrays) hInjective hTbl

omit [CDouble D] in
/-- A new generation clears the top table. -/
theorem Corresponds.nextGeneration (hCorr : Corresponds kernel state (tbl :: rest)) :
    Corresponds kernel (backendCpuFrameNextGeneration state) ((fun _ => .clean) :: rest) :=
  hCorr.modifyTop (fun _ _ hCurrent => hCurrent.nextGeneration (by decide))
    fun _ _ hCurrent _ _ _ _ => Stamped.slot_nextGeneration (by decide) hCurrent _

omit [CDouble D] in
theorem Corresponds.release (hCorr : Corresponds kernel state (tbl :: rest)) :
    Corresponds kernel (backendCpuFrameRelease state) rest := by
  have hDepth := hCorr.ok.depth
  have hCount := hCorr.depth
  rw [List.length_cons] at hCount
  refine ⟨⟨hCorr.ok.fits, ?_, hCorr.ok.frames⟩, hCorr.capacity, hCorr.components, ?_,
    hCorr.stack.2⟩
  · simp only [backendCpuFrameRelease]
    omega
  · simp only [backendCpuFrameRelease]
    omega

end Top

omit [CDouble D] in
/-- Preparing a frame does not touch the frames in use. -/
theorem Corresponds.prepared {state state' : SimBackendCPUState D}
    {tbls : List (NodeLane → Slot D)} (hCorr : Corresponds kernel state tbls)
    (hPrepared : Prepared state state') : Corresponds kernel state' tbls :=
  ⟨hPrepared.ok, hPrepared.capacity ▸ hCorr.capacity,
    hPrepared.componentCapacity ▸ hCorr.components, hPrepared.frameCount.trans hCorr.depth,
    hCorr.stack.congr fun i hI => hPrepared.below i (by rw [hCorr.depth]; exact hI)⟩

omit [CDouble D] in
/-- The state after a frame was acquired, when its arrays are not null. -/
theorem Corresponds.push {state : SimBackendCPUState D} {tbls : List (NodeLane → Slot D)}
    (hCorr : Corresponds kernel state tbls)
    (hNext : NextComponents (backendCpuBuilderMaxComponents kernel) state)
    (hAllocated : ({ state with frameCount := state.frameCount + 1 } :
      SimBackendCPUState D).topAllocated = true) :
    ∃ tbl, Corresponds kernel { state with frameCount := state.frameCount + 1 } (tbl :: tbls) := by
  obtain ⟨frame, hFrame, hSize⟩ := hNext
  have hRoom : state.frameCount < state.frames.length := (List.getElem?_eq_some_iff.mp hFrame).1
  have hSome : frame.arrays.isSome = true := by
    simpa [SimBackendCPUState.topAllocated, SimBackendCPUState.top, hFrame] using hAllocated
  obtain ⟨arrays, hArrays⟩ := Option.isSome_iff_exists.mp hSome
  have hFrameOk := hCorr.ok.frames frame (List.mem_of_getElem? hFrame)
  have hLarge : state.capacity ≤ frame.capacity := by
    rcases hFrameOk.large arrays hArrays with hLarge | hMany
    · exact hLarge
    · rw [hSize hSome] at hMany
      exact absurd hCorr.components (Nat.not_le_of_lt hMany)
  refine ⟨fun lane => arrays.cells.slot (frame.slot lane), ⟨⟨hCorr.ok.fits, hRoom, hCorr.ok.frames⟩,
    hCorr.capacity, hCorr.components, ?_, ⟨frame, ?_, hSize hSome,
      Nat.le_trans hCorr.capacity hLarge, arrays, hArrays, fun _ _ => rfl⟩, hCorr.stack⟩⟩
  · rw [List.length_cons, hCorr.depth]
  · rw [← hCorr.depth]
    exact hFrame

/-- What acquiring a frame does within a launch of the kernel. -/
theorem Corresponds.acquire {state : SimBackendCPUState D} {tbls : List (NodeLane → Slot D)}
    (hCorr : Corresponds kernel state tbls) :
    ∃ state', Corresponds kernel state' tbls ∧
      (backendCpuFrameAcquire state kernel.builder.count (backendCpuBuilderMaxComponents kernel) =
          (state', false) ∨
        backendCpuFrameAcquire state kernel.builder.count (backendCpuBuilderMaxComponents kernel) =
          ({ state' with frameCount := state'.frameCount + 1 }, true) ∧
        NextComponents (backendCpuBuilderMaxComponents kernel) state') := by
  obtain ⟨hPrepared, hNext⟩ := prepareFrame_spec hCorr.ok hCorr.components
  refine ⟨_, hCorr.prepared hPrepared, ?_⟩
  unfold backendCpuFrameAcquire
  rw [ensureCapacity_of_le hCorr.capacity hCorr.components]
  simp only [Cpu.andThen, if_true]
  cases hOk : (prepareFrame (backendCpuBuilderMaxComponents kernel) state).2 with
  | false => exact .inl rfl
  | true => exact .inr ⟨rfl, hNext hOk⟩

/-- The frames of a backend simulate fresh tables for every kernel whose grid
was made room for. -/
theorem simulation_backendCpuFrames (kernel : Kernel D) :
    Simulation (backendCpuFrames kernel) (Corresponds kernel) (InGrid kernel) where
  look state tbl rest lane hCorr hGrid := by
    obtain ⟨frame, arrays, -, hTop, hArrays, hComponents, hCapacity, hOk, hTbl⟩ := hCorr.top
    have hSlot := (slot_lt hGrid hComponents hCapacity (hOk.small _ hArrays)).2
    obtain ⟨hSlots, hScratch⟩ := hOk.sized _ hArrays
    simp only [backendCpuFrames, hTop, hArrays, Option.bind_some, hSlots, hScratch, hSlot, and_self,
      if_true, hTbl lane hGrid]
  mark state tbl rest lane hCorr hGrid := by
    refine hCorr.modifyTop (fun _ _ hCurrent => hCurrent.setActive _)
      fun frame cells _ hInjective hSlots lane' hGrid' => ?_
    rw [Stamped.slot_setActive, Function.update_apply, hSlots lane' hGrid']
    by_cases hEq : lane' = lane
    · rw [hEq, if_pos rfl, if_pos rfl]
    · rw [if_neg hEq, if_neg fun h => hEq (hInjective _ _ hGrid' hGrid h)]
  store state tbl rest lane value hCorr hGrid hActive := by
    refine hCorr.modifyTop (fun _ _ hCurrent => hCurrent.setDone _ _)
      fun frame cells _ hInjective hSlots lane' hGrid' => ?_
    rw [Stamped.slot_setDone ((hSlots lane hGrid).trans hActive), Function.update_apply,
      hSlots lane' hGrid']
    by_cases hEq : lane' = lane
    · rw [hEq, if_pos rfl, if_pos rfl]
    · rw [if_neg hEq, if_neg fun h => hEq (hInjective _ _ hGrid' hGrid h)]
  clear state tbl rest lane hCorr hGrid _ := by
    refine hCorr.modifyTop (fun _ _ hCurrent => hCurrent.setClean _)
      fun frame cells _ hInjective hSlots lane' hGrid' => ?_
    rw [Stamped.slot_setClean, Function.update_apply, hSlots lane' hGrid']
    by_cases hEq : lane' = lane
    · rw [hEq, if_pos rfl, if_pos rfl]
    · rw [if_neg hEq, if_neg fun h => hEq (hInjective _ _ hGrid' hGrid h)]
  enter state tbls hCorr hEntered := by
    obtain ⟨state', hCorr', hFail | ⟨hAcquired, hNext⟩⟩ := hCorr.acquire
    · simp [backendCpuFrames, hFail, Cpu.andThen] at hEntered
    · simp only [backendCpuFrames, hAcquired, Cpu.andThen, if_true] at hEntered ⊢
      split at hEntered
      case isTrue hAllocated =>
        obtain ⟨tbl, hPushed⟩ := hCorr'.push hNext hAllocated
        rw [if_pos hAllocated]
        exact hPushed.nextGeneration
      case isFalse => cases hEntered
  enterFail state tbls hCorr hFailed := by
    obtain ⟨state', hCorr', hFail | ⟨hAcquired, -⟩⟩ := hCorr.acquire
    · simpa [backendCpuFrames, hFail, Cpu.andThen] using hCorr'
    · simp only [backendCpuFrames, hAcquired, Cpu.andThen, if_true] at hFailed ⊢
      split at hFailed
      case isTrue => cases hFailed
      case isFalse hNull =>
        rw [if_neg hNull]
        exact hCorr'
  leave state tbl rest hCorr _ := hCorr.release

end Oakfield.Cpu
