import Oakfield.Field.Buffer
import Oakfield.Library.Loop

/-! Owning buffers: creation, copies of views, reshaping, and writes through a
view. Elements are copied as they are, so their type is a parameter. -/
namespace Oakfield

open Library KernelIR

/-- `SimBuffer`. The layout arrays belong to it. -/
structure SimBuffer (α : Type) where
  data : Option (ℕ → α)
  count : ℕ
  bytes : ℕ
  type : SimBufferDataType
  layout : SimFieldLayout

/-- The stride loop of `sim_buffer_layout_assign`, last axis first: the strides,
and the stride of the next axis. -/
def simBufferAssignStrides : List ℕ → Option (List ℕ × ℕ)
  | [] => some ([], 1)
  | extent :: shape =>
      match simBufferAssignStrides shape with
      | none => none
      | some (strides, stride) =>
          if 0 < extent ∧ (2 ^ 64 - 1) / extent < stride then none
          else some (stride :: strides, stride * (if 0 < extent then extent else 1) % 2 ^ 64)

/-- `sim_buffer_layout_assign`; without a result the old layout stays. -/
def simBufferLayoutAssign (heap : Heap) (shape : List ℕ) : Option SimFieldLayout :=
  if shape = [] then none
  else if !heap.calloc shape.length 8 || !heap.calloc shape.length 8 then none
  else
    match simBufferAssignStrides shape with
    | none => none
    | some (strides, _) => some ⟨shape, strides, true⟩

section Buffers

variable {α : Type}

/-- `sim_buffer_view`. -/
def SimBuffer.view (buffer : SimBuffer α) : SimBufferView (ℕ → α) :=
  ⟨buffer.data, buffer.count, buffer.type, buffer.layout, none⟩

/-- `sim_buffer_create`, with zero bytes as the elements. -/
def simBufferCreate (heap : Heap) (zero : α) (shape : List ℕ) (type : SimBufferDataType) :
    Option (SimBuffer α) :=
  let elementSize := type.elementSize
  if elementSize = 0 then none
  else
    match simBufferShapeCount shape with
    | none => none
    | some count =>
        if (2 ^ 64 - 1) / elementSize < count then none
        else if !heap.calloc 1 80 then none
        else
          match simBufferLayoutAssign heap shape with
          | none => none
          | some layout =>
              let bytes := count * elementSize % 2 ^ 64
              if bytes = 0 then some ⟨none, count, bytes, type, layout⟩
              else if !heap.calloc count elementSize then none
              else some ⟨some fun _ => zero, count, bytes, type, layout⟩

/-- The body of the copying loop of `sim_buffer_clone_view`. -/
def simBufferCopyElement (view : SimBufferView (ℕ → α)) (source : ℕ → α) (i : ℕ)
    (target : ℕ → α) : Option (Except Unit Unit × (ℕ → α)) :=
  match view.offsetForLinearIndex i with
  | none => some (.error (), target)
  | some offset => some (.ok (), Function.update target i (source offset))

/-- `sim_buffer_clone_view`. -/
def simBufferCloneView (heap : Heap) (zero : α) (view : SimBufferView (ℕ → α)) :
    Option (SimBuffer α) :=
  let created :=
    if view.type.elementSize = 0 then none
    else if view.layout.shape ≠ [] then
      if simBufferLayoutCount view.layout ≠ some view.count then none
      else simBufferCreate heap zero view.layout.shape view.type
    else simBufferCreate heap zero [view.count] view.type
  match created with
  | none => none
  | some buffer =>
      if view.count = 0 then some buffer
      else
        match buffer.data, view.data with
        | some target, some source =>
            match Loop.forEach (simBufferCopyElement view source) (List.range view.count) target with
            | some (.ok (), target) => some { buffer with data := some target }
            | _ => none
        | _, _ => none

/-- `sim_buffer_reshape`: the buffer it leaves, and the result. -/
def simBufferReshape (heap : Heap) (shape : List ℕ) (buffer : SimBuffer α) :
    SimBuffer α × Except SimError Unit :=
  match simBufferShapeCount shape with
  | none => (buffer, .error .invalidArgument)
  | some newCount =>
      if newCount ≠ buffer.count then (buffer, .error .invalidArgument)
      else
        match simBufferLayoutAssign heap shape with
        | none => (buffer, .error .outOfMemory)
        | some layout => ({ buffer with layout := layout }, .ok ())

/-- The element at a linear index, as reads through the view find it. -/
def SimBufferView.element (view : SimBufferView (ℕ → α)) (logicalIndex : ℕ) : Option α :=
  match view.data, view.offsetForLinearIndex logicalIndex with
  | some data, some offset => some (data offset)
  | _, _ => none

end Buffers

section Complex

variable {D : Type} [CDouble D]

/-- An element of a typed buffer. -/
inductive SimBufferElement (D : Type) where
  | double (value : D)
  | complexDouble (value : D × D)
  | integer (value : ℤ)

/-- `sim_buffer_view_set_complex`: the view it leaves, and the result. -/
def simBufferViewSetComplex (view : SimBufferView (ℕ → SimBufferElement D)) (logicalIndex : ℕ)
    (value : D × D) : SimBufferView (ℕ → SimBufferElement D) × Bool :=
  match view.data, view.offsetForLinearIndex logicalIndex with
  | some data, some offset =>
      match view.type with
      | .double =>
          if CDouble.ne value.2 CDouble.zero then (view, false)
          else ({ view with data := some (Function.update data offset (.double value.1)) }, true)
      | .complexDouble =>
          ({ view with data := some (Function.update data offset (.complexDouble value)) }, true)
      | _ => (view, false)
  | _, _ => (view, false)

theorem simBufferViewSetComplex_false {view : SimBufferView (ℕ → SimBufferElement D)}
    {logicalIndex : ℕ} {value : D × D}
    (hFails : (simBufferViewSetComplex view logicalIndex value).2 = false) :
    (simBufferViewSetComplex view logicalIndex value).1 = view := by
  unfold simBufferViewSetComplex at hFails ⊢
  split at hFails
  · split at hFails
    · split_ifs at hFails ⊢
      rfl
    · cases hFails
    · rfl
  · rfl

end Complex

/-! ### Compact buffers -/

theorem simBufferAssignStrides_eq {shape : List ℕ} (hPos : 0 ∉ shape)
    (hFits : shape.prod < 2 ^ 64) :
    simBufferAssignStrides shape = some (MixedRadix.strides shape, shape.prod) := by
  induction shape with
  | nil => rfl
  | cons extent shape ih =>
      rw [List.mem_cons, not_or] at hPos
      have hExtent : 0 < extent := Nat.pos_of_ne_zero (Ne.symm hPos.1)
      rw [List.prod_cons] at hFits
      have hTail : shape.prod < 2 ^ 64 :=
        Nat.lt_of_le_of_lt (Nat.le_mul_of_pos_left _ hExtent) hFits
      have hNext : ¬(0 < extent ∧ (2 ^ 64 - 1) / extent < shape.prod) := by
        rintro ⟨_, hLarge⟩
        rw [Nat.div_lt_iff_lt_mul hExtent, Nat.mul_comm] at hLarge
        omega
      rw [simBufferAssignStrides, ih hPos.2 hTail]
      dsimp only
      rw [if_neg hNext, if_pos hExtent, Nat.mul_comm, Nat.mod_eq_of_lt hFits]
      rfl

theorem simBufferLayoutAssign_some {heap : Heap} {shape : List ℕ} {layout : SimFieldLayout}
    (hLayout : simBufferLayoutAssign heap shape = some layout) :
    layout.shape = shape ∧ layout.contiguous = true ∧
      ∃ stride, simBufferAssignStrides shape = some (layout.strides, stride) := by
  unfold simBufferLayoutAssign at hLayout
  split_ifs at hLayout
  split at hLayout
  · cases hLayout
  · next strides stride hStrides =>
      cases hLayout
      exact ⟨rfl, rfl, stride, hStrides⟩

section Compact

variable {α : Type} {buffer : SimBuffer α}

/-- The layout of an owning buffer: row-major strides of a shape which counts its
elements. -/
structure SimBuffer.Compact (buffer : SimBuffer α) : Prop where
  count : simBufferShapeCount buffer.layout.shape = some buffer.count
  contiguous : buffer.layout.contiguous = true
  strides : ∃ stride, simBufferAssignStrides buffer.layout.shape =
    some (buffer.layout.strides, stride)

/-- Elements of a compact buffer lie in linear order. -/
theorem SimBuffer.Compact.offset (hCompact : buffer.Compact) (logicalIndex : ℕ) :
    buffer.view.offsetForLinearIndex logicalIndex =
      if logicalIndex < buffer.count then some logicalIndex else none := by
  obtain ⟨hRank, hProd, hFits⟩ := simBufferShapeCount_some hCompact.count
  by_cases hIndex : logicalIndex < buffer.count
  · have hPos : 0 ∉ buffer.layout.shape := by
      intro hZero
      rw [List.prod_eq_zero hZero] at hProd
      omega
    rw [hProd] at hFits
    obtain ⟨stride, hStrides⟩ := hCompact.strides
    rw [simBufferAssignStrides_eq hPos hFits] at hStrides
    have hRowMajor : buffer.layout.strides = MixedRadix.strides buffer.layout.shape :=
      (congrArg Prod.fst (Option.some.inj hStrides)).symm
    have hBelow : logicalIndex < buffer.layout.shape.prod := hProd ▸ hIndex
    have hLinear := simBufferLinearOffsetLoop_eq (MixedRadix.inRange_digits hPos hBelow)
      (MixedRadix.strides buffer.layout.shape) (MixedRadix.length_strides _) 0
    rw [Nat.zero_mul, Nat.zero_add, MixedRadix.address_digits hPos hBelow,
      Nat.mod_eq_of_lt (Nat.lt_trans hBelow hFits)] at hLinear
    rw [if_pos hIndex, SimBufferView.offsetForLinearIndex, SimBuffer.view]
    dsimp only
    rw [if_neg (by omega), if_neg hRank, simBufferLayoutCount_eq, hCompact.count, hRowMajor,
      hLinear]
    simp
  · have hCount : buffer.view.count = buffer.count := rfl
    rw [if_neg hIndex, SimBufferView.offsetForLinearIndex, hCount,
      if_pos (Nat.le_of_not_lt hIndex)]

theorem SimBuffer.Compact.element (hCompact : buffer.Compact) (logicalIndex : ℕ) :
    buffer.view.element logicalIndex =
      if logicalIndex < buffer.count then buffer.data.map (· logicalIndex) else none := by
  have hData : buffer.view.data = buffer.data := rfl
  rw [SimBufferView.element, hCompact.offset, hData]
  cases buffer.data with
  | none => simp
  | some data => split_ifs <;> rfl

theorem simBufferCreate_some {heap : Heap} {zero : α} {shape : List ℕ}
    {type : SimBufferDataType} (hCreate : simBufferCreate heap zero shape type = some buffer) :
    buffer.Compact ∧ buffer.type = type ∧ buffer.layout.shape = shape := by
  unfold simBufferCreate at hCreate
  dsimp only at hCreate
  cases hCount : simBufferShapeCount shape with
  | none =>
      rw [hCount] at hCreate
      split_ifs at hCreate
  | some count =>
      cases hLayout : simBufferLayoutAssign heap shape with
      | none =>
          rw [hCount, hLayout] at hCreate
          dsimp only at hCreate
          split_ifs at hCreate
      | some layout =>
          obtain ⟨hShape, hContiguous, hStrides⟩ := simBufferLayoutAssign_some hLayout
          rw [hCount, hLayout] at hCreate
          dsimp only at hCreate
          rw [← hShape] at hCount hStrides
          split_ifs at hCreate
          · cases hCreate
            exact ⟨⟨hCount, hContiguous, hStrides⟩, rfl, hShape⟩
          · cases hCreate
            exact ⟨⟨hCount, hContiguous, hStrides⟩, rfl, hShape⟩

/-! ### Copies -/

/-- The copying loop stores the logical elements in order. -/
theorem forEach_copyElement {view : SimBufferView (ℕ → α)} {source target target' : ℕ → α} {n : ℕ}
    (hRun : Loop.forEach (simBufferCopyElement view source) (List.range n) target =
      some (.ok (), target')) :
    ∀ i < n, ∃ offset, view.offsetForLinearIndex i = some offset ∧ target' i = source offset := by
  apply Loop.forEach_range_ok (P := fun k target => ∀ i < k, ∃ offset,
    view.offsetForLinearIndex i = some offset ∧ target i = source offset) _ _ hRun
  · intro k target target' _ hDone hBody i hI
    unfold simBufferCopyElement at hBody
    cases hOffset : view.offsetForLinearIndex k with
    | none =>
        rw [hOffset] at hBody
        cases hBody
    | some offset =>
        rw [hOffset] at hBody
        cases hBody
        rcases Nat.lt_or_eq_of_le (Nat.le_of_lt_succ hI) with hLess | rfl
        · rw [Function.update_of_ne (Nat.ne_of_lt hLess)]
          exact hDone i hLess
        · exact ⟨offset, hOffset, Function.update_self _ _ _⟩
  · intro i hI
    exact absurd hI (Nat.not_lt_zero i)

theorem forEach_copyElement_total {view : SimBufferView (ℕ → α)} (source target : ℕ → α) {n : ℕ}
    (hOffsets : ∀ i < n, (view.offsetForLinearIndex i).isSome) :
    ∃ target', Loop.forEach (simBufferCopyElement view source) (List.range n) target =
      some (.ok (), target') := by
  have hStep : ∀ k target, k < n → True → ∃ target',
      simBufferCopyElement view source k target = some (.ok (), target') ∧ True := by
    intro k target hK _
    obtain ⟨offset, hOffset⟩ := Option.isSome_iff_exists.mp (hOffsets k hK)
    refine ⟨Function.update target k (source offset), ?_, trivial⟩
    rw [simBufferCopyElement, hOffset]
  obtain ⟨target', hRun, _⟩ := Loop.forEach_range_total hStep trivial
  exact ⟨target', hRun⟩

/-- What a copy of a view is. -/
structure CloneOf (view : SimBufferView (ℕ → α)) (buffer : SimBuffer α) : Prop where
  type : buffer.type = view.type
  count : buffer.count = view.count
  shape : buffer.layout.shape = if view.layout.shape = [] then [view.count] else view.layout.shape
  compact : buffer.Compact
  elements : ∀ logicalIndex, buffer.view.element logicalIndex = view.element logicalIndex

theorem SimBufferView.element_of_le {view : SimBufferView (ℕ → α)} {logicalIndex : ℕ}
    (hIndex : view.count ≤ logicalIndex) : view.element logicalIndex = none := by
  rw [element, offsetForLinearIndex, if_pos hIndex]
  cases view.data <;> rfl

/-- The buffer which the elements are copied into. -/
theorem simBufferCreate_target {heap : Heap} {zero : α} {view : SimBufferView (ℕ → α)}
    (hCreated : (if view.type.elementSize = 0 then none
      else if view.layout.shape ≠ [] then
        if simBufferLayoutCount view.layout ≠ some view.count then none
        else simBufferCreate heap zero view.layout.shape view.type
      else simBufferCreate heap zero [view.count] view.type) = some buffer) :
    buffer.Compact ∧ buffer.type = view.type ∧ buffer.count = view.count ∧
      buffer.layout.shape =
        if view.layout.shape = [] then [view.count] else view.layout.shape := by
  split_ifs at hCreated with hSize hRank hCount
  · rw [not_not] at hCount
    obtain ⟨hCompact, hType, hShape⟩ := simBufferCreate_some hCreated
    have hSame := hCompact.count
    rw [hShape, ← simBufferLayoutCount_eq, hCount] at hSame
    exact ⟨hCompact, hType, (Option.some.inj hSame).symm, by rw [hShape, if_neg hRank]⟩
  · obtain ⟨hCompact, hType, hShape⟩ := simBufferCreate_some hCreated
    have hSame := (simBufferShapeCount_some hCompact.count).2.1
    rw [hShape, List.prod_singleton] at hSame
    exact ⟨hCompact, hType, hSame, by rw [hShape, if_pos (not_not.mp hRank)]⟩

theorem simBufferCloneView_some {heap : Heap} {zero : α} {view : SimBufferView (ℕ → α)}
    (hClone : simBufferCloneView heap zero view = some buffer) : CloneOf view buffer := by
  unfold simBufferCloneView at hClone
  dsimp only at hClone
  split at hClone
  · cases hClone
  · next created hCreated =>
      obtain ⟨hCompact, hType, hCount, hShape⟩ := simBufferCreate_target hCreated
      split_ifs at hClone with hEmpty
      · cases hClone
        refine ⟨hType, hCount, hShape, hCompact, ?_⟩
        intro logicalIndex
        rw [hCompact.element, if_neg (by omega), SimBufferView.element_of_le (by omega)]
      · split at hClone
        · next target source hTarget hSource =>
            split at hClone
            · next copied hRun =>
                cases hClone
                have hCopied := forEach_copyElement hRun
                have hSame : ({ created with data := some copied } : SimBuffer α).Compact :=
                  ⟨hCompact.count, hCompact.contiguous, hCompact.strides⟩
                refine ⟨hType, hCount, hShape, hSame, ?_⟩
                intro logicalIndex
                rw [hSame.element, hCount]
                split_ifs with hIndex
                · obtain ⟨offset, hOffset, hEq⟩ := hCopied logicalIndex hIndex
                  rw [SimBufferView.element, hSource, hOffset, Option.map_some, hEq]
                · rw [SimBufferView.element_of_le (Nat.le_of_not_lt hIndex)]
            · cases hClone
        · cases hClone

/-- The heap grants everything, and the sizes a call computes are `size_t`. -/
structure Room (heap : Heap) (type : SimBufferDataType) (shape : List ℕ) : Prop where
  grants : ∀ size, heap.grants size = true
  rank : shape.length * 8 < 2 ^ 64
  bytes : shape.prod * type.elementSize < 2 ^ 64

theorem simBufferLayoutAssign_total {heap : Heap} {shape : List ℕ} (hRank : shape ≠ [])
    (hPos : 0 ∉ shape) (hFits : shape.prod < 2 ^ 64) (hLength : shape.length * 8 < 2 ^ 64)
    (hGrants : ∀ size, heap.grants size = true) :
    simBufferLayoutAssign heap shape = some ⟨shape, MixedRadix.strides shape, true⟩ := by
  have hAxes : heap.calloc shape.length 8 = true := by
    rw [Heap.calloc, hGrants, decide_eq_true hLength]
    rfl
  rw [simBufferLayoutAssign, if_neg hRank, hAxes, simBufferAssignStrides_eq hPos hFits]
  rfl

theorem simBufferCreate_total {heap : Heap} (zero : α) {shape : List ℕ} {type : SimBufferDataType}
    (hRank : shape ≠ []) (hPos : 0 ∉ shape) (hSize : 0 < type.elementSize)
    (hRoom : Room heap type shape) :
    ∃ buffer, simBufferCreate heap zero shape type = some buffer ∧ buffer.data.isSome := by
  have hProd := MixedRadix.prod_pos hPos
  have hBytes := hRoom.bytes
  have hFits : shape.prod < 2 ^ 64 :=
    Nat.lt_of_le_of_lt (Nat.le_mul_of_pos_right _ hSize) hBytes
  have hCount : simBufferShapeCount shape = some shape.prod := by
    rw [simBufferShapeCount, if_neg hRank, simBufferShapeCountLoop_eq hPos (by omega),
      Nat.one_mul]
  have hBelow : ¬(2 ^ 64 - 1) / type.elementSize < shape.prod := by
    rw [Nat.div_lt_iff_lt_mul hSize]
    omega
  have hElements : heap.calloc shape.prod type.elementSize = true := by
    rw [Heap.calloc, hRoom.grants, decide_eq_true hBytes]
    rfl
  have hStruct : heap.calloc 1 80 = true := by
    rw [Heap.calloc, hRoom.grants]
    rfl
  have hSome : shape.prod * type.elementSize % 2 ^ 64 ≠ 0 := by
    rw [Nat.mod_eq_of_lt hBytes]
    exact (Nat.mul_pos hProd hSize).ne'
  rw [simBufferCreate, if_neg hSize.ne', hCount]
  dsimp only
  rw [if_neg hBelow, hStruct, simBufferLayoutAssign_total hRank hPos hFits hRoom.rank
    hRoom.grants]
  dsimp only
  rw [if_neg hSome, hElements]
  exact ⟨_, rfl, rfl⟩

/-- With enough memory a valid view can be copied. -/
theorem simBufferCloneView_total {heap : Heap} (zero : α) {view : SimBufferView (ℕ → α)}
    (hValid : view.isValid = true) (hShape : view.ValidShape)
    (hRoom : Room heap view.type view.layout.shape) :
    (simBufferCloneView heap zero view).isSome := by
  simp only [SimBufferView.isValid, Bool.and_eq_true, decide_eq_true_eq] at hValid
  obtain ⟨⟨hData, hCount⟩, hSize⟩ := hValid
  obtain ⟨source, hSource⟩ := Option.isSome_iff_exists.mp hData
  have hCounted := hShape.count
  rw [simBufferLayoutCount_eq] at hCounted
  obtain ⟨hRank, hProd, _⟩ := simBufferShapeCount_some hCounted
  have hPos : 0 ∉ view.layout.shape := by
    intro hZero
    rw [List.prod_eq_zero hZero] at hProd
    omega
  obtain ⟨buffer, hCreate, hTarget⟩ := simBufferCreate_total zero hRank hPos hSize hRoom
  obtain ⟨target, hTarget⟩ := Option.isSome_iff_exists.mp hTarget
  obtain ⟨copied, hRun⟩ := forEach_copyElement_total source target
    fun i hI => SimBufferView.offsetForLinearIndex_isSome hShape hI
  have hCopies : simBufferCloneView heap zero view = some { buffer with data := some copied } := by
    rw [simBufferCloneView, if_neg hSize.ne', if_pos hRank, if_neg (by rw [hShape.count]; simp),
      hCreate]
    dsimp only
    rw [if_neg hCount.ne', hTarget, hSource]
    dsimp only
    rw [hRun]
  rw [hCopies]
  rfl

/-! ### Reshaping -/

theorem simBufferReshape_error {heap : Heap} {shape : List ℕ} {failure : SimError}
    (hFails : (simBufferReshape heap shape buffer).2 = .error failure) :
    (simBufferReshape heap shape buffer).1 = buffer := by
  unfold simBufferReshape at hFails ⊢
  split at hFails
  · rfl
  · split_ifs at hFails ⊢ with hCount
    · rfl
    · split at hFails
      · rfl
      · cases hFails

theorem simBufferReshape_ok {heap : Heap} {shape : List ℕ}
    (hRun : (simBufferReshape heap shape buffer).2 = .ok ()) :
    (simBufferReshape heap shape buffer).1.Compact ∧
      (simBufferReshape heap shape buffer).1.layout.shape = shape ∧
      (simBufferReshape heap shape buffer).1.count = buffer.count ∧
      (simBufferReshape heap shape buffer).1.data = buffer.data := by
  unfold simBufferReshape at hRun ⊢
  split at hRun
  · cases hRun
  · next newCount hNewCount =>
      split_ifs at hRun ⊢ with hCount
      split at hRun
      · cases hRun
      · next layout hLayout =>
          rw [not_not] at hCount
          obtain ⟨hShape, hContiguous, hStrides⟩ := simBufferLayoutAssign_some hLayout
          rw [← hShape] at hNewCount hStrides
          rw [hCount] at hNewCount
          exact ⟨⟨hNewCount, hContiguous, hStrides⟩, hShape, rfl, rfl⟩

/-- The buffers which the functions hand out, with any contents. -/
inductive SimBufferMade : SimBuffer α → Prop where
  | create {heap : Heap} {zero : α} {shape : List ℕ} {type : SimBufferDataType}
      {buffer : SimBuffer α} (hRun : simBufferCreate heap zero shape type = some buffer) :
      SimBufferMade buffer
  | clone {heap : Heap} {zero : α} {view : SimBufferView (ℕ → α)} {buffer : SimBuffer α}
      (hRun : simBufferCloneView heap zero view = some buffer) : SimBufferMade buffer
  | reshape {buffer : SimBuffer α} (hMade : SimBufferMade buffer) (heap : Heap) (shape : List ℕ) :
      SimBufferMade (simBufferReshape heap shape buffer).1
  | store {buffer : SimBuffer α} (hMade : SimBufferMade buffer) (write : (ℕ → α) → ℕ → α) :
      SimBufferMade { buffer with data := buffer.data.map write }

theorem SimBufferMade.compact (hMade : SimBufferMade buffer) : buffer.Compact := by
  induction hMade with
  | create hRun => exact (simBufferCreate_some hRun).1
  | clone hRun => exact (simBufferCloneView_some hRun).compact
  | @reshape buffer hMade heap shape ih =>
      cases hResult : (simBufferReshape heap shape buffer).2 with
      | error failure =>
          rw [simBufferReshape_error hResult]
          exact ih
      | ok done => exact (simBufferReshape_ok hResult).1
  | store hMade write ih => exact ⟨ih.count, ih.contiguous, ih.strides⟩

theorem simBufferReshape_element (hMade : SimBufferMade buffer) (heap : Heap) (shape : List ℕ)
    (logicalIndex : ℕ) : (simBufferReshape heap shape buffer).1.view.element logicalIndex =
      buffer.view.element logicalIndex := by
  cases hResult : (simBufferReshape heap shape buffer).2 with
  | error failure => rw [simBufferReshape_error hResult]
  | ok done =>
      obtain ⟨hCompact, _, hCount, hData⟩ := simBufferReshape_ok hResult
      rw [hCompact.element, hMade.compact.element, hCount, hData]

theorem simBufferReshape_total {heap : Heap} {shape : List ℕ} (hRank : shape ≠ [])
    (hProd : shape.prod = buffer.count) (hPos : 0 < buffer.count) (hFits : buffer.count < 2 ^ 64)
    (hLength : shape.length * 8 < 2 ^ 64) (hGrants : ∀ size, heap.grants size = true) :
    (simBufferReshape heap shape buffer).2 = .ok () := by
  have hNoZero : 0 ∉ shape := by
    intro hZero
    rw [List.prod_eq_zero hZero] at hProd
    omega
  have hCount : simBufferShapeCount shape = some buffer.count := by
    rw [simBufferShapeCount, if_neg hRank, simBufferShapeCountLoop_eq hNoZero (by omega),
      Nat.one_mul, hProd]
  rw [simBufferReshape, hCount]
  dsimp only
  rw [if_neg (by simp), simBufferLayoutAssign_total hRank hNoZero (by omega) hLength hGrants]

/-- What a reshape does: the elements stay in their row-major order, a failing call
changes nothing, and with enough memory every shape of as many elements is taken. -/
structure ReshapeKeeps (heap : Heap) (shape : List ℕ) (buffer : SimBuffer α) : Prop where
  elements : ∀ logicalIndex, (simBufferReshape heap shape buffer).1.view.element logicalIndex =
    buffer.view.element logicalIndex
  shaped : (simBufferReshape heap shape buffer).2 = .ok () →
    (simBufferReshape heap shape buffer).1.layout.shape = shape
  failed : ∀ failure, (simBufferReshape heap shape buffer).2 = .error failure →
    (simBufferReshape heap shape buffer).1 = buffer
  taken : shape ≠ [] → shape.prod = buffer.count → 0 < buffer.count →
    shape.length * 8 < 2 ^ 64 → (∀ size, heap.grants size = true) →
    (simBufferReshape heap shape buffer).2 = .ok ()

theorem simBufferReshape_keeps (hMade : SimBufferMade buffer) (heap : Heap) (shape : List ℕ) :
    ReshapeKeeps heap shape buffer where
  elements := simBufferReshape_element hMade heap shape
  shaped := fun hRun => (simBufferReshape_ok hRun).2.1
  failed := fun _ hFails => simBufferReshape_error hFails
  taken := fun hRank hProd hPos hLength hGrants =>
    simBufferReshape_total hRank hProd hPos (simBufferShapeCount_some hMade.compact.count).2.2
      hLength hGrants

end Compact

/-- Views are addressed alike by index tuples and by row-major linear indices, copies
and reshapes keep the elements in order, and failing calls change nothing. -/
theorem simBufferView_addressing {P α D : Type} [CDouble D] :
    (∀ (view : SimBufferView P) (indices : List ℕ), view.ValidShape →
      MixedRadix.InRange indices view.layout.shape →
      ∃ offset, view.offsetForIndices indices = some offset ∧
        view.offsetForLinearIndex
          (MixedRadix.address indices (MixedRadix.strides view.layout.shape)) = some offset) ∧
    (∀ (heap : Heap) (zero : α) (view : SimBufferView (ℕ → α)),
      (∀ buffer, simBufferCloneView heap zero view = some buffer → CloneOf view buffer) ∧
      (view.isValid = true → view.ValidShape → Room heap view.type view.layout.shape →
        (simBufferCloneView heap zero view).isSome)) ∧
    (∀ (heap : Heap) (shape : List ℕ) (buffer : SimBuffer α), SimBufferMade buffer →
      ReshapeKeeps heap shape buffer) ∧
    ∀ (view : SimBufferView (ℕ → SimBufferElement D)) (logicalIndex : ℕ) (value : D × D),
      (simBufferViewSetComplex view logicalIndex value).2 = false →
      (simBufferViewSetComplex view logicalIndex value).1 = view := by
  refine ⟨?_, ?_, ?_, ?_⟩
  · intro view indices hShape hRange
    have hCount := hShape.count
    rw [simBufferLayoutCount_eq] at hCount
    have hBelow : MixedRadix.address indices (MixedRadix.strides view.layout.shape) < view.count := by
      rw [(simBufferShapeCount_some hCount).2.1]
      exact MixedRadix.address_lt hRange
    obtain ⟨offset, hOffset⟩ := Option.isSome_iff_exists.mp
      (SimBufferView.offsetForLinearIndex_isSome hShape hBelow)
    exact ⟨offset, (SimBufferView.offsetForIndices_eq hShape hRange).trans hOffset, hOffset⟩
  · intro heap zero view
    exact ⟨fun buffer hClone => simBufferCloneView_some hClone, simBufferCloneView_total zero⟩
  · intro heap shape buffer hMade
    exact simBufferReshape_keeps hMade heap shape
  · intro view logicalIndex value hFails
    exact simBufferViewSetComplex_false hFails

/-- Two rows of three elements, in columns and through a table. -/
theorem simBufferView_addressing_columns :
    ∃ offset, (⟨some (), 6, .double, ⟨[2, 3], [1, 2], false⟩, some fun k => 5 - k⟩ :
        SimBufferView Unit).offsetForIndices [1, 2] = some offset ∧
      (⟨some (), 6, .double, ⟨[2, 3], [1, 2], false⟩, some fun k => 5 - k⟩ :
        SimBufferView Unit).offsetForLinearIndex
          (MixedRadix.address [1, 2] (MixedRadix.strides [2, 3])) = some offset :=
  (simBufferView_addressing (α := ℤ) (D := ℤ)).1 _ [1, 2] ⟨by decide, rfl⟩
    (.cons (by decide) (.cons (by decide) .nil))

end Oakfield
