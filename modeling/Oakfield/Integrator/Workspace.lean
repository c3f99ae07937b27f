import Oakfield.Result
import Oakfield.Library.Run
import Mathlib.Algebra.Order.Group.Nat
import Mathlib.Data.List.Basic

/-! The scratch buffers of an integrator: one recorded size for all of them, although they
are allocated at different times. -/
namespace Oakfield.Integrator

open Library.Run

/-! ### Allocation -/

/-- `integrator_align_up`. -/
def alignUp (value alignment : ℕ) : ℕ :=
  if alignment ≤ 1 then value
  else
    let remainder := value % alignment
    if remainder = 0 then value
    else if value > 2 ^ 64 - 1 - (alignment - remainder) then 0
    else value + (alignment - remainder)

/-- `INTEGRATOR_WORKSPACE_ALIGNMENT`. -/
def workspaceAlignment : ℕ := 64

/-- `integrator_aligned_alloc_bytes`: the size of the new allocation. -/
def alignedAllocBytes (bytes : ℕ) (granted : Bool) : Option ℕ :=
  let bytes := if bytes = 0 then 1 else bytes
  let allocSize := alignUp bytes workspaceAlignment
  if allocSize = 0 then none else if granted then some allocSize else none

/-- A copy out of an old allocation, and the size of that allocation. -/
structure BufferCopy where
  bytes : ℕ
  capacity : ℕ
deriving DecidableEq, Repr

/-- `integrator_aligned_realloc_copy`: the new allocation, what the slot of the caller points
to if there is none, and the copy made. A pointer to freed memory holds no bytes. -/
def alignedReallocCopy (existing : Option ℕ) (existingBytes newBytes : ℕ) (granted : Bool) :
    Option ℕ × Option ℕ × List BufferCopy :=
  if newBytes = 0 then (none, existing.map fun _ => 0, [])
  else
    match alignedAllocBytes newBytes granted with
    | none => (none, existing, [])
    | some replacement =>
        let copyBytes := if existingBytes < newBytes then existingBytes else newBytes
        (some replacement, existing, match existing with
          | none => []
          | some capacity => if copyBytes > 0 then [⟨copyBytes, capacity⟩] else [])

/-! ### The workspace -/

/-- The workspace of an `Integrator`: each slot is `NULL` or points to an allocation of some
size. -/
structure WorkspaceState where
  isComplex : Bool
  buffers : List (Option ℕ)
  bufferElements : ℕ
  bufferElementSize : ℕ
deriving DecidableEq, Repr

/-- The workspace which `integrator_configure` starts from. -/
def WorkspaceState.configured : WorkspaceState := ⟨false, [], 0, 8⟩

/-- `is_complex ? sizeof(SimComplexDouble) : sizeof(double)`. -/
def WorkspaceState.elementSize (ws : WorkspaceState) : ℕ := if ws.isComplex then 16 else 8

/-- The slots once the array of pointers is large enough; new ones are `NULL`. -/
def WorkspaceState.grown (ws : WorkspaceState) (buffers : ℕ) : List (Option ℕ) :=
  ws.buffers ++ List.replicate (buffers - ws.buffers.length) none

def WorkspaceState.needsResize (ws : WorkspaceState) (elements : ℕ) : Bool :=
  ws.bufferElements < elements || ws.bufferElementSize != ws.elementSize

/-- The loop which reallocates every buffer: whether it ends, the slots, and the copies. -/
def resizeSlots (oldBytes newBytes : ℕ) : List Bool → List (Option ℕ) →
    Bool × List (Option ℕ) × List BufferCopy
  | _, [] => (true, [], [])
  | granted, slot :: slots =>
      match alignedReallocCopy slot oldBytes newBytes (granted.headD true) with
      | (none, left, copies) => (false, left :: slots, copies)
      | (some replacement, _, copies) =>
          let rest := resizeSlots oldBytes newBytes granted.tail slots
          (rest.1, some replacement :: rest.2.1, copies ++ rest.2.2)

/-- The loop which allocates the missing buffers. -/
def fillSlots (bytes : ℕ) : List Bool → List (Option ℕ) → Bool × List (Option ℕ)
  | _, [] => (true, [])
  | granted, some capacity :: slots =>
      let rest := fillSlots bytes granted slots
      (rest.1, some capacity :: rest.2)
  | granted, none :: slots =>
      match alignedAllocBytes bytes (granted.headD true) with
      | none => (false, none :: slots)
      | some capacity =>
          let rest := fillSlots bytes granted.tail slots
          (rest.1, some capacity :: rest.2)

/-- `integrator_ensure_workspace`. `arrayMemory` is the outcome of the allocation of the
pointers, and `granted` lists those of the buffers; later ones are granted. Products of
sizes are `size_t`. -/
def integratorEnsureWorkspace (ws : WorkspaceState) (buffers elements : ℕ) (arrayMemory : Bool)
    (granted : List Bool) : Except SimError Unit × WorkspaceState × List BufferCopy :=
  if buffers = 0 ∨ elements = 0 then (.error .invalidArgument, ws, [])
  else if ws.buffers.length < buffers ∧ arrayMemory = false then (.error .outOfMemory, ws, [])
  else
    let slots := ws.grown buffers
    let newBytes := elements * ws.elementSize % 2 ^ 64
    if ws.needsResize elements then
      let oldBytes := ws.bufferElements * ws.bufferElementSize % 2 ^ 64
      match resizeSlots oldBytes newBytes granted slots with
      | (false, slots, copies) => (.error .outOfMemory, { ws with buffers := slots }, copies)
      | (true, slots, copies) =>
          (.ok (), { ws with
            buffers := slots
            bufferElements := elements
            bufferElementSize := ws.elementSize }, copies)
    else
      match fillSlots newBytes granted slots with
      | (false, slots) => (.error .outOfMemory, { ws with buffers := slots }, [])
      | (true, slots) => (.ok (), { ws with buffers := slots }, [])

/-! ### Runs -/

/-- What happens to a workspace: a step function sets the kind of its elements, or asks for
buffers. -/
inductive WorkspaceCall where
  | setComplex (isComplex : Bool)
  | ensure (buffers elements : ℕ) (arrayMemory : Bool) (granted : List Bool)
deriving DecidableEq, Repr

def workspaceStep (ws : WorkspaceState) : WorkspaceCall → WorkspaceState
  | .setComplex isComplex => { ws with isComplex := isComplex }
  | .ensure buffers elements arrayMemory granted =>
      (integratorEnsureWorkspace ws buffers elements arrayMemory granted).2.1

/-- A call which succeeds leaves buffers of the size asked for, and no copy reads beyond an
old buffer. -/
def CallSound (ws : WorkspaceState) : WorkspaceCall → Prop
  | .setComplex _ => True
  | .ensure buffers elements arrayMemory granted =>
      ((integratorEnsureWorkspace ws buffers elements arrayMemory granted).1 = .ok () →
        ∀ i < buffers, ∃ capacity,
          (integratorEnsureWorkspace ws buffers elements arrayMemory granted).2.1.buffers[i]? =
            some (some capacity) ∧ elements * ws.elementSize ≤ capacity) ∧
      ∀ copy ∈ (integratorEnsureWorkspace ws buffers elements arrayMemory granted).2.2,
        copy.bytes ≤ copy.capacity

/-- The recorded size in bytes. -/
def WorkspaceState.recordedBytes (ws : WorkspaceState) : ℕ :=
  ws.bufferElements * ws.bufferElementSize

/-- Calls which keep the recorded size true of all buffers: sizes do not wrap, a buffer which
is filled in is as large as the recorded size, and so is one which a failing resize may
leave behind. -/
def CallFits (ws : WorkspaceState) : WorkspaceCall → Prop
  | .setComplex _ => True
  | .ensure buffers elements _ granted =>
      buffers * 8 < 2 ^ 64 ∧ elements * ws.elementSize < 2 ^ 64 ∧
      (ws.needsResize elements = false → none ∈ ws.grown buffers →
        ws.recordedBytes ≤ alignUp (elements * ws.elementSize) workspaceAlignment) ∧
      (ws.needsResize elements = true → false ∈ granted → granted.head? = some false ∨
        ws.recordedBytes ≤ alignUp (elements * ws.elementSize) workspaceAlignment)

/-- Every buffer has the recorded size, which has not wrapped. -/
structure WorkspaceState.WellSized (ws : WorkspaceState) : Prop where
  capacity : ∀ capacity, some capacity ∈ ws.buffers → ws.recordedBytes ≤ capacity
  recorded : ws.recordedBytes < 2 ^ 64

theorem le_alignUp {value alignment : ℕ} (hFits : alignUp value alignment ≠ 0) :
    value ≤ alignUp value alignment := by
  unfold alignUp at hFits ⊢
  dsimp only at hFits ⊢
  split_ifs at hFits ⊢ <;> omega

theorem alignedAllocBytes_some {bytes capacity : ℕ} {granted : Bool} (hPos : 0 < bytes)
    (hSome : alignedAllocBytes bytes granted = some capacity) :
    capacity = alignUp bytes workspaceAlignment ∧ bytes ≤ capacity := by
  unfold alignedAllocBytes at hSome
  rw [if_neg (Nat.ne_of_gt hPos)] at hSome
  dsimp only at hSome
  split_ifs at hSome with hZero hGranted
  obtain rfl := Option.some.inj hSome
  exact ⟨rfl, le_alignUp hZero⟩

theorem alignedAllocBytes_refused (bytes : ℕ) : alignedAllocBytes bytes false = none := by
  rw [alignedAllocBytes, if_neg Bool.false_ne_true, ite_self]

theorem alignedReallocCopy_copies {existing : Option ℕ} {existingBytes : ℕ} (newBytes : ℕ)
    (hOld : ∀ capacity, existing = some capacity → existingBytes ≤ capacity) (granted : Bool) :
    ∀ copy ∈ (alignedReallocCopy existing existingBytes newBytes granted).2.2,
      copy.bytes ≤ copy.capacity := by
  intro copy hCopy
  unfold alignedReallocCopy at hCopy
  by_cases hZero : newBytes = 0
  · rw [if_pos hZero] at hCopy
    cases hCopy
  rw [if_neg hZero] at hCopy
  cases hAlloc : alignedAllocBytes newBytes granted with
  | none =>
      rw [hAlloc] at hCopy
      cases hCopy
  | some replacement =>
      rw [hAlloc] at hCopy
      cases existing with
      | none => cases hCopy
      | some capacity =>
          dsimp only at hCopy
          have hBound := hOld capacity rfl
          rw [List.mem_ite_nil_right, List.mem_singleton] at hCopy
          rw [hCopy.2]
          dsimp only
          split_ifs with hLess
          · exact hBound
          · exact (Nat.not_lt.mp hLess).trans hBound

/-- A slot whose reallocation fails is kept, since the new size is not zero. -/
theorem alignedReallocCopy_eq (existing : Option ℕ) (existingBytes : ℕ) {newBytes : ℕ}
    (hPos : 0 < newBytes) (granted : Bool) :
    (alignedReallocCopy existing existingBytes newBytes granted).1 =
        alignedAllocBytes newBytes granted ∧
      (alignedReallocCopy existing existingBytes newBytes granted).2.1 = existing := by
  unfold alignedReallocCopy
  rw [if_neg (Nat.ne_of_gt hPos)]
  cases alignedAllocBytes newBytes granted <;> exact ⟨rfl, rfl⟩

/-- The reallocations of a resize, in order, when all buffers have the old size. -/
theorem resizeSlots_spec {oldBytes newBytes : ℕ} (hPos : 0 < newBytes) (granted : List Bool)
    {slots : List (Option ℕ)} (hOld : ∀ capacity, some capacity ∈ slots → oldBytes ≤ capacity) :
    (∀ copy ∈ (resizeSlots oldBytes newBytes granted slots).2.2, copy.bytes ≤ copy.capacity) ∧
      ((resizeSlots oldBytes newBytes granted slots).1 = true →
        (resizeSlots oldBytes newBytes granted slots).2.1.length = slots.length ∧
          ∀ slot ∈ (resizeSlots oldBytes newBytes granted slots).2.1,
            ∃ capacity, slot = some capacity ∧ newBytes ≤ capacity) ∧
      ∀ capacity, some capacity ∈ (resizeSlots oldBytes newBytes granted slots).2.1 →
        some capacity ∈ slots ∨ capacity = alignUp newBytes workspaceAlignment := by
  induction slots generalizing granted with
  | nil => exact ⟨fun _ hMem => (nomatch hMem), fun _ => ⟨rfl, fun _ hMem => (nomatch hMem)⟩,
      fun _ hMem => (nomatch hMem)⟩
  | cons slot slots ih =>
      have hHead := alignedReallocCopy_copies newBytes
        (fun capacity hSlot => hOld capacity (hSlot ▸ List.mem_cons_self)) (granted.headD true)
      obtain ⟨hNew, hLeft⟩ := alignedReallocCopy_eq slot oldBytes hPos (granted.headD true)
      obtain ⟨hCopies, hDone, hSlots⟩ :=
        ih granted.tail fun capacity hMem => hOld capacity (List.mem_cons_of_mem _ hMem)
      rw [resizeSlots]
      cases hRealloc : alignedReallocCopy slot oldBytes newBytes (granted.headD true) with
      | mk replacement rest =>
      obtain ⟨left, copies⟩ := rest
      rw [hRealloc] at hHead hNew hLeft
      dsimp only at hHead hNew hLeft
      subst hLeft
      cases replacement with
      | none =>
          refine ⟨hHead, fun hEnd => (nomatch hEnd), fun capacity hMem => .inl hMem⟩
      | some replacement =>
          obtain ⟨hSize, hRoom⟩ := alignedAllocBytes_some hPos hNew.symm
          refine ⟨fun copy hMem => ?_, fun hEnd => ?_, fun capacity hMem => ?_⟩
          · rcases List.mem_append.mp hMem with hFirst | hLater
            · exact hHead copy hFirst
            · exact hCopies copy hLater
          · obtain ⟨hLength, hAll⟩ := hDone hEnd
            refine ⟨congrArg (· + 1) hLength, fun other hMem => ?_⟩
            rcases List.mem_cons.mp hMem with rfl | hLater
            · exact ⟨replacement, rfl, hRoom⟩
            · exact hAll other hLater
          · rcases List.mem_cons.mp hMem with hFirst | hLater
            · exact .inr ((Option.some.inj hFirst).trans hSize)
            · exact (hSlots capacity hLater).imp (List.mem_cons_of_mem _) id

/-- A resize whose first allocation fails changes nothing. -/
theorem resizeSlots_refused (oldBytes : ℕ) {newBytes : ℕ} (hPos : 0 < newBytes)
    (slots : List (Option ℕ)) (granted : List Bool)
    (hRefused : alignedAllocBytes newBytes (granted.headD true) = none) :
    (resizeSlots oldBytes newBytes granted slots).2.1 = slots := by
  cases slots with
  | nil => rfl
  | cons slot slots =>
      obtain ⟨hNew, hLeft⟩ := alignedReallocCopy_eq slot oldBytes hPos (granted.headD true)
      rw [resizeSlots]
      cases hRealloc : alignedReallocCopy slot oldBytes newBytes (granted.headD true) with
      | mk replacement rest =>
      rw [hRealloc] at hNew hLeft
      dsimp only at hNew hLeft
      rw [hRefused] at hNew
      subst hNew
      rw [← hLeft]

/-- A resize without a refused allocation ends. -/
theorem resizeSlots_granted (oldBytes : ℕ) {newBytes : ℕ} (hPos : 0 < newBytes)
    (slots : List (Option ℕ)) (granted : List Bool)
    (hFits : alignUp newBytes workspaceAlignment ≠ 0) (hGranted : false ∉ granted) :
    (resizeSlots oldBytes newBytes granted slots).1 = true := by
  induction slots generalizing granted with
  | nil => rfl
  | cons slot slots ih =>
      have hHead : granted.headD true = true := by
        cases granted with
        | nil => rfl
        | cons head granted =>
            cases head with
            | false => exact absurd List.mem_cons_self hGranted
            | true => rfl
      have hAlloc : alignedAllocBytes newBytes (granted.headD true) =
          some (alignUp newBytes workspaceAlignment) := by
        rw [alignedAllocBytes, if_neg (Nat.ne_of_gt hPos), if_neg hFits, hHead, if_pos rfl]
      obtain ⟨hNew, -⟩ := alignedReallocCopy_eq slot oldBytes hPos (granted.headD true)
      rw [resizeSlots]
      cases hRealloc : alignedReallocCopy slot oldBytes newBytes (granted.headD true) with
      | mk replacement rest =>
      rw [hRealloc, hAlloc] at hNew
      dsimp only at hNew
      subst hNew
      exact ih granted.tail fun hMem => hGranted (List.mem_of_mem_tail hMem)

/-- The allocations of missing buffers. -/
theorem fillSlots_spec {bytes : ℕ} (hPos : 0 < bytes) (granted : List Bool)
    (slots : List (Option ℕ)) :
    ((fillSlots bytes granted slots).1 = true →
        (fillSlots bytes granted slots).2.length = slots.length ∧
          none ∉ (fillSlots bytes granted slots).2) ∧
      ∀ capacity, some capacity ∈ (fillSlots bytes granted slots).2 →
        some capacity ∈ slots ∨
          none ∈ slots ∧ capacity = alignUp bytes workspaceAlignment ∧ bytes ≤ capacity := by
  induction slots generalizing granted with
  | nil => exact ⟨fun _ => ⟨rfl, fun hMem => (nomatch hMem)⟩, fun _ hMem => (nomatch hMem)⟩
  | cons slot slots ih =>
      cases slot with
      | some capacity =>
          obtain ⟨hDone, hSlots⟩ := ih granted
          rw [fillSlots]
          refine ⟨fun hEnd => ?_, fun other hMem => ?_⟩
          · obtain ⟨hLength, hNone⟩ := hDone hEnd
            refine ⟨congrArg (· + 1) hLength, fun hMem => ?_⟩
            rcases List.mem_cons.mp hMem with hFirst | hLater
            · cases hFirst
            · exact hNone hLater
          · rcases List.mem_cons.mp hMem with hFirst | hLater
            · exact .inl (hFirst ▸ List.mem_cons_self)
            · exact (hSlots other hLater).imp (List.mem_cons_of_mem _)
                (And.imp_left (List.mem_cons_of_mem _))
      | none =>
          obtain ⟨hDone, hSlots⟩ := ih granted.tail
          rw [fillSlots]
          cases hAlloc : alignedAllocBytes bytes (granted.headD true) with
          | none => exact ⟨fun hEnd => (nomatch hEnd), fun _ hMem => .inl hMem⟩
          | some capacity =>
              refine ⟨fun hEnd => ?_, fun other hMem => ?_⟩
              · obtain ⟨hLength, hNone⟩ := hDone hEnd
                refine ⟨congrArg (· + 1) hLength, fun hMem => ?_⟩
                rcases List.mem_cons.mp hMem with hFirst | hLater
                · cases hFirst
                · exact hNone hLater
              · rcases List.mem_cons.mp hMem with hFirst | hLater
                · obtain rfl := Option.some.inj hFirst
                  exact .inr ⟨List.mem_cons_self, alignedAllocBytes_some hPos hAlloc⟩
                · exact (hSlots other hLater).imp (List.mem_cons_of_mem _)
                    (And.imp_left (List.mem_cons_of_mem _))

/-! ### The recorded size -/

theorem WorkspaceState.mem_grown {ws : WorkspaceState} {buffers capacity : ℕ}
    (hMem : some capacity ∈ ws.grown buffers) : some capacity ∈ ws.buffers := by
  rcases List.mem_append.mp hMem with hOld | hNew
  · exact hOld
  · exact absurd (List.eq_of_mem_replicate hNew) (Option.some_ne_none capacity)

theorem WorkspaceState.le_length_grown (ws : WorkspaceState) (buffers : ℕ) :
    buffers ≤ (ws.grown buffers).length := by
  rw [WorkspaceState.grown, List.length_append, List.length_replicate]
  omega

theorem exists_slot {slots : List (Option ℕ)} {bytes buffers : ℕ} (hLength : buffers ≤ slots.length)
    (hSlots : ∀ slot ∈ slots, ∃ capacity, slot = some capacity ∧ bytes ≤ capacity) :
    ∀ i < buffers, ∃ capacity, slots[i]? = some (some capacity) ∧ bytes ≤ capacity := by
  intro i hI
  have hLt : i < slots.length := Nat.lt_of_lt_of_le hI hLength
  obtain ⟨capacity, hSlot, hRoom⟩ := hSlots _ (List.getElem_mem hLt)
  exact ⟨capacity, by rw [List.getElem?_eq_getElem hLt, hSlot], hRoom⟩

/-- One fitting call is sound and keeps the recorded size true. -/
theorem WorkspaceState.WellSized.step {ws : WorkspaceState} (hWell : ws.WellSized)
    (call : WorkspaceCall) (hFits : CallFits ws call) :
    CallSound ws call ∧ (workspaceStep ws call).WellSized := by
  cases call with
  | setComplex isComplex => exact ⟨trivial, hWell.capacity, hWell.recorded⟩
  | ensure buffers elements arrayMemory granted =>
  obtain ⟨-, hWrap, hFill, hResize⟩ := hFits
  unfold CallSound workspaceStep
  dsimp only
  unfold integratorEnsureWorkspace
  by_cases hArgs : buffers = 0 ∨ elements = 0
  · rw [if_pos hArgs]
    exact ⟨⟨fun hOk => (nomatch hOk), fun _ hMem => (nomatch hMem)⟩, hWell⟩
  rw [if_neg hArgs]
  by_cases hArray : ws.buffers.length < buffers ∧ arrayMemory = false
  · rw [if_pos hArray]
    exact ⟨⟨fun hOk => (nomatch hOk), fun _ hMem => (nomatch hMem)⟩, hWell⟩
  rw [if_neg hArray]
  dsimp only
  rw [Nat.mod_eq_of_lt hWrap]
  have hSize : 0 < ws.elementSize := by
    unfold WorkspaceState.elementSize
    split_ifs <;> decide
  have hPos : 0 < elements * ws.elementSize := Nat.mul_pos (by omega) hSize
  have hGrown : ∀ capacity, some capacity ∈ ws.grown buffers → ws.recordedBytes ≤ capacity :=
    fun capacity hMem => hWell.capacity capacity (WorkspaceState.mem_grown hMem)
  have hLength := ws.le_length_grown buffers
  cases hNeeds : ws.needsResize elements with
  | true =>
      rw [if_pos rfl]
      have hOldBytes : ws.bufferElements * ws.bufferElementSize % 2 ^ 64 = ws.recordedBytes :=
        Nat.mod_eq_of_lt hWell.recorded
      rw [hOldBytes]
      obtain ⟨hCopies, hDone, hSlots⟩ := resizeSlots_spec hPos granted hGrown
      cases hLoop : resizeSlots ws.recordedBytes (elements * ws.elementSize) granted
          (ws.grown buffers) with
      | mk ended rest =>
      obtain ⟨slots, copies⟩ := rest
      have hKept := resizeSlots_refused ws.recordedBytes hPos (ws.grown buffers) granted
      have hEnds := resizeSlots_granted ws.recordedBytes hPos (ws.grown buffers) granted
      rw [hLoop] at hCopies hDone hSlots hKept hEnds
      dsimp only at hCopies hDone hSlots hKept hEnds
      cases ended with
      | true =>
          obtain ⟨hSame, hAll⟩ := hDone rfl
          refine ⟨⟨fun _ => exists_slot (hSame ▸ hLength) hAll, hCopies⟩, fun capacity hMem => ?_,
            hWrap⟩
          obtain ⟨capacity', hSlot, hRoom⟩ := hAll _ hMem
          exact Option.some.inj hSlot ▸ hRoom
      | false =>
          refine ⟨⟨fun hOk => (nomatch hOk), hCopies⟩, fun capacity hMem => ?_, hWell.recorded⟩
          -- A slot which is not kept has the new size, rounded up.
          by_cases hSame : slots = ws.grown buffers
          · exact hGrown capacity (hSame ▸ hMem)
          · have hZero : alignUp (elements * ws.elementSize) workspaceAlignment ≠ 0 := by
              intro hZero
              refine hSame (hKept ?_)
              rw [alignedAllocBytes, if_neg (Nat.ne_of_gt hPos), if_pos hZero]
            have hRefused : false ∈ granted := by
              by_contra hGranted
              exact Bool.false_ne_true (hEnds hZero hGranted)
            rcases hResize hNeeds hRefused with hFirst | hRoom
            · refine absurd (hKept ?_) hSame
              rw [List.headD_eq_head?_getD, hFirst]
              exact alignedAllocBytes_refused _
            · rcases hSlots capacity hMem with hOld | hNew
              · exact hGrown capacity hOld
              · exact hNew ▸ hRoom
  | false =>
      rw [if_neg Bool.false_ne_true]
      obtain ⟨hDone, hSlots⟩ := fillSlots_spec hPos granted (ws.grown buffers)
      cases hLoop : fillSlots (elements * ws.elementSize) granted (ws.grown buffers) with
      | mk ended slots =>
      rw [hLoop] at hDone hSlots
      dsimp only at hDone hSlots
      have hRecorded : ∀ capacity, some capacity ∈ slots → ws.recordedBytes ≤ capacity := by
        intro capacity hMem
        rcases hSlots capacity hMem with hOld | ⟨hMissing, hNew, -⟩
        · exact hGrown capacity hOld
        · exact hNew ▸ hFill hNeeds hMissing
      cases ended with
      | true =>
          obtain ⟨hSame, hFull⟩ := hDone rfl
          have hAsked : elements * ws.elementSize ≤ ws.recordedBytes := by
            rw [WorkspaceState.needsResize, Bool.or_eq_false_iff, decide_eq_false_iff_not,
              Nat.not_lt, bne_eq_false_iff_eq] at hNeeds
            rw [WorkspaceState.recordedBytes, hNeeds.2]
            exact Nat.mul_le_mul_right _ hNeeds.1
          have hAll : ∀ slot ∈ slots, ∃ capacity, slot = some capacity ∧
              elements * ws.elementSize ≤ capacity := by
            intro slot hMem
            cases slot with
            | none => exact absurd hMem hFull
            | some capacity => exact ⟨capacity, rfl, hAsked.trans (hRecorded capacity hMem)⟩
          exact ⟨⟨fun _ => exists_slot (hSame ▸ hLength) hAll, fun _ hMem => (nomatch hMem)⟩,
            hRecorded, hWell.recorded⟩
      | false =>
          exact ⟨⟨fun hOk => (nomatch hOk), fun _ hMem => (nomatch hMem)⟩, hRecorded,
            hWell.recorded⟩

theorem configured_wellSized : WorkspaceState.configured.WellSized :=
  ⟨fun _ hMem => (nomatch hMem), by decide⟩

/-- In a run of fitting calls from a configured integrator, every call which succeeds leaves
buffers of the size asked for, and no copy reads beyond an old buffer. -/
theorem workspace_sound (calls : List WorkspaceCall)
    (hCalls : EachCall workspaceStep CallFits .configured calls) :
    EachCall workspaceStep CallSound .configured calls :=
  hCalls.imp_of_invariant WorkspaceState.WellSized
    (fun _ call hWell hFits => (hWell.step call hFits).1)
    (fun _ call hWell hFits => (hWell.step call hFits).2) configured_wellSized

/-- A hint of 100 elements, then six buffers of as many. -/
theorem workspace_sound_hint :
    EachCall workspaceStep CallFits .configured [.ensure 1 100 true [], .ensure 6 100 true []] ∧
      EachCall workspaceStep CallSound .configured
        [.ensure 1 100 true [], .ensure 6 100 true []] := by
  have hFits : EachCall workspaceStep CallFits .configured
      [.ensure 1 100 true [], .ensure 6 100 true []] := by
    refine ⟨⟨by decide, by decide, fun _ _ => ?_, fun _ hMem => (nomatch hMem)⟩,
      ⟨by decide, by decide, fun _ _ => ?_, fun _ hMem => (nomatch hMem)⟩, trivial⟩
    · decide
    · decide
  exact ⟨hFits, workspace_sound _ hFits⟩

/-- A second buffer is filled in for 10 elements while 100 are recorded: a later call for 100
succeeds without enlarging it, and the next resize copies 800 bytes out of its 128. -/
theorem filledBuffer_overread :
    let ws := after workspaceStep .configured [.ensure 1 100 true [], .ensure 2 10 true []]
    integratorEnsureWorkspace ws 2 100 true [] = (.ok (), ws, []) ∧
      ws.buffers = [some 832, some 128] ∧ 128 < 100 * ws.elementSize ∧
      (integratorEnsureWorkspace ws 2 200 true []).2.2 = [⟨800, 832⟩, ⟨800, 128⟩] ∧
      ¬EachCall workspaceStep CallSound .configured
        [.ensure 1 100 true [], .ensure 2 10 true [], .ensure 2 100 true []] := by
  refine ⟨by decide, by decide, by decide, by decide, fun hSound => ?_⟩
  obtain ⟨capacity, hSlot, hRoom⟩ := hSound.2.2.1.1 rfl 1 (by decide)
  have hCapacity : capacity = 128 := (Option.some.inj (Option.some.inj hSlot)).symm
  rw [hCapacity] at hRoom
  exact absurd hRoom (by decide)

end Oakfield.Integrator
