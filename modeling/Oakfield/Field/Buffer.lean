import Oakfield.Field.Layout
import Oakfield.KernelIR.CDouble

/-! Buffers and buffer views (`sim_buffer.c`): offsets of elements from index
tuples and from linear indices. Indices, strides and offsets are `size_t`. -/
namespace Oakfield

open Library KernelIR

/-- `SimBufferView`, by what its data pointer leads to. The arrays of the layout
are null exactly when the rank is 0. -/
structure SimBufferView (P : Type) where
  data : Option P
  count : ℕ
  type : SimBufferDataType
  layout : SimFieldLayout
  logicalToPhysical : Option (ℕ → ℕ)

/-! ### Shapes -/

/-- The loop of `sim_buffer_shape_count`, with the count so far. -/
def simBufferShapeCountLoop : List ℕ → ℕ → Option ℕ
  | [], count => some count
  | extent :: shape, count =>
      if extent ≠ 0 ∧ (2 ^ 64 - 1) / extent < count then none
      else simBufferShapeCountLoop shape (count * extent % 2 ^ 64)

/-- `sim_buffer_shape_count`. -/
def simBufferShapeCount (shape : List ℕ) : Option ℕ :=
  if shape = [] then none else simBufferShapeCountLoop shape 1

/-- `sim_buffer_layout_count`. -/
def simBufferLayoutCount (layout : SimFieldLayout) : Option ℕ :=
  if layout.shape = [] then none else simBufferShapeCount layout.shape

/-- The loop of `sim_buffer_shape_linear_index`, last axis first: the linear index
and the stride of the next axis. -/
def simBufferShapeLinearLoop : List ℕ → List ℕ → Option (ℕ × ℕ)
  | extent :: shape, index :: indices =>
      match simBufferShapeLinearLoop shape indices with
      | none => none
      | some (linearIndex, stride) =>
          if extent ≤ index then none
          else if 0 < index ∧ (2 ^ 64 - 1) / index < stride then none
          else
            let term := index * stride % 2 ^ 64
            if 2 ^ 64 - 1 - term < linearIndex then none
            else if 0 < extent ∧ (2 ^ 64 - 1) / extent < stride then none
            else
              some ((linearIndex + term) % 2 ^ 64,
                stride * (if 0 < extent then extent else 1) % 2 ^ 64)
  | _, _ => some (0, 1)

/-- `sim_buffer_shape_linear_index`. -/
def simBufferShapeLinearIndex (shape indices : List ℕ) : Option ℕ :=
  if shape = [] then none else (simBufferShapeLinearLoop shape indices).map Prod.fst

/-! ### Offsets -/

/-- The loop over axes of `sim_buffer_view_offset_for_linear_index`, last axis
first: what is left of the index, and the offset. -/
def simBufferLinearOffsetLoop : List ℕ → List ℕ → ℕ → Option (ℕ × ℕ)
  | extent :: shape, stride :: strides, logicalIndex =>
      match simBufferLinearOffsetLoop shape strides logicalIndex with
      | none => none
      | some (logicalIndex, offset) =>
          if extent = 0 then none
          else some (logicalIndex / extent, (offset + logicalIndex % extent * stride) % 2 ^ 64)
  | _, _, logicalIndex => some (logicalIndex, 0)

/-- The loop over axes of `sim_buffer_view_offset_for_indices`. -/
def simBufferIndicesOffsetLoop : List ℕ → List ℕ → List ℕ → ℕ → Option ℕ
  | index :: indices, extent :: shape, stride :: strides, offset =>
      if extent ≤ index then none
      else simBufferIndicesOffsetLoop indices shape strides ((offset + index * stride) % 2 ^ 64)
  | _, _, _, offset => some offset

namespace SimBufferView

variable {P : Type}

/-- `sim_buffer_view_is_valid`. -/
def isValid (view : SimBufferView P) : Bool :=
  view.data.isSome && decide (0 < view.count) && decide (0 < view.type.elementSize)

/-- `sim_buffer_view_offset_for_linear_index`. -/
def offsetForLinearIndex (view : SimBufferView P) (logicalIndex : ℕ) : Option ℕ :=
  if view.count ≤ logicalIndex then none
  else
    match view.logicalToPhysical with
    | some physical => some (physical logicalIndex)
    | none =>
        if view.layout.shape = [] then some logicalIndex
        else if simBufferLayoutCount view.layout ≠ some view.count then none
        else
          match simBufferLinearOffsetLoop view.layout.shape view.layout.strides logicalIndex with
          | none => none
          | some (logicalIndex, offset) => if logicalIndex ≠ 0 then none else some offset

/-- `sim_buffer_view_offset_for_indices`. -/
def offsetForIndices (view : SimBufferView P) (indices : List ℕ) : Option ℕ :=
  if view.layout.shape = [] then
    if indices.length ≠ 1 ∨ view.count ≤ indices.getD 0 0 then none else some (indices.getD 0 0)
  else if indices.length ≠ view.layout.shape.length then none
  else
    match view.logicalToPhysical with
    | some _ =>
        match simBufferShapeLinearIndex view.layout.shape indices with
        | none => none
        | some logicalIndex => view.offsetForLinearIndex logicalIndex
    | none => simBufferIndicesOffsetLoop indices view.layout.shape view.layout.strides 0

/-- The shape counts the elements of the view, and every axis has a stride. -/
structure ValidShape (view : SimBufferView P) : Prop where
  count : simBufferLayoutCount view.layout = some view.count
  strides : view.layout.strides.length = view.layout.shape.length

end SimBufferView

/-! ### Counts which do not overflow -/

theorem simBufferShapeCountLoop_some {shape : List ℕ} {start count : ℕ} (hStart : start < 2 ^ 64)
    (hCount : simBufferShapeCountLoop shape start = some count) :
    count = start * shape.prod ∧ count < 2 ^ 64 := by
  induction shape generalizing start with
  | nil =>
      cases hCount
      exact ⟨(Nat.mul_one _).symm, hStart⟩
  | cons extent shape ih =>
      rw [simBufferShapeCountLoop] at hCount
      split_ifs at hCount with hOverflow
      have hFits : start * extent < 2 ^ 64 := by
        rcases Nat.eq_zero_or_pos extent with rfl | hPos
        · norm_num
        · have hLe : start ≤ (2 ^ 64 - 1) / extent := by
            by_contra hMore
            exact hOverflow ⟨by omega, by omega⟩
          rw [Nat.le_div_iff_mul_le hPos] at hLe
          omega
      rw [Nat.mod_eq_of_lt hFits] at hCount
      obtain ⟨hProd, hBound⟩ := ih hFits hCount
      rw [List.prod_cons, ← Nat.mul_assoc]
      exact ⟨hProd, hBound⟩

theorem simBufferShapeCountLoop_eq {shape : List ℕ} (hPos : 0 ∉ shape) {start : ℕ}
    (hFits : start * shape.prod < 2 ^ 64) :
    simBufferShapeCountLoop shape start = some (start * shape.prod) := by
  induction shape generalizing start with
  | nil => rw [simBufferShapeCountLoop, List.prod_nil, Nat.mul_one]
  | cons extent shape ih =>
      rw [List.mem_cons, not_or] at hPos
      have hExtent : 0 < extent := Nat.pos_of_ne_zero (Ne.symm hPos.1)
      rw [List.prod_cons, ← Nat.mul_assoc] at hFits ⊢
      have hStep : start * extent < 2 ^ 64 :=
        Nat.lt_of_le_of_lt (Nat.le_mul_of_pos_right _ (MixedRadix.prod_pos hPos.2)) hFits
      have hLe : start ≤ (2 ^ 64 - 1) / extent := by
        rw [Nat.le_div_iff_mul_le hExtent]
        omega
      rw [simBufferShapeCountLoop, if_neg (by omega), Nat.mod_eq_of_lt hStep, ih hPos.2 hFits]

/-- A counted shape has a rank, and its number of elements fits. -/
theorem simBufferShapeCount_some {shape : List ℕ} {count : ℕ}
    (hCount : simBufferShapeCount shape = some count) :
    shape ≠ [] ∧ count = shape.prod ∧ count < 2 ^ 64 := by
  rw [simBufferShapeCount] at hCount
  split_ifs at hCount with hRank
  obtain ⟨hProd, hFits⟩ := simBufferShapeCountLoop_some (by norm_num) hCount
  exact ⟨hRank, by rw [hProd, Nat.one_mul], hFits⟩

theorem simBufferLayoutCount_eq (layout : SimFieldLayout) :
    simBufferLayoutCount layout = simBufferShapeCount layout.shape := by
  rw [simBufferLayoutCount, simBufferShapeCount]
  split_ifs <;> rfl

/-! ### Both ways to an offset -/

theorem zero_notMem_of_inRange {indices shape : List ℕ} (hRange : MixedRadix.InRange indices shape) :
    0 ∉ shape := by
  induction hRange with
  | nil => simp
  | cons hLess _ ih =>
      rw [List.mem_cons, not_or]
      exact ⟨by omega, ih⟩

theorem simBufferShapeLinearLoop_eq {indices shape : List ℕ}
    (hRange : MixedRadix.InRange indices shape) (hFits : shape.prod < 2 ^ 64) :
    simBufferShapeLinearLoop shape indices =
      some (MixedRadix.address indices (MixedRadix.strides shape), shape.prod) := by
  induction hRange with
  | nil => rfl
  | @cons index extent indices shape hLess hRest ih =>
      have hExtent : 0 < extent := by omega
      have hPos := MixedRadix.prod_pos (zero_notMem_of_inRange hRest)
      have hBelow := MixedRadix.address_lt (List.Forall₂.cons hLess hRest)
      rw [List.prod_cons] at hFits
      rw [List.prod_cons, MixedRadix.strides_cons, MixedRadix.address_cons] at hBelow
      have hTail : shape.prod < 2 ^ 64 :=
        Nat.lt_of_le_of_lt (Nat.le_mul_of_pos_left _ hExtent) hFits
      have hIndex : ¬(0 < index ∧ (2 ^ 64 - 1) / index < shape.prod) := by
        rintro ⟨hIndexPos, hLarge⟩
        rw [Nat.div_lt_iff_lt_mul hIndexPos, Nat.mul_comm] at hLarge
        omega
      have hNext : ¬(0 < extent ∧ (2 ^ 64 - 1) / extent < shape.prod) := by
        rintro ⟨_, hLarge⟩
        rw [Nat.div_lt_iff_lt_mul hExtent, Nat.mul_comm] at hLarge
        omega
      rw [simBufferShapeLinearLoop, ih hTail]
      dsimp only
      rw [if_neg (by omega), if_neg hIndex, Nat.mod_eq_of_lt (by omega), if_neg (by omega),
        if_neg hNext, if_pos hExtent, Nat.mod_eq_of_lt (by omega), Nat.mod_eq_of_lt (by
          rwa [Nat.mul_comm]), MixedRadix.strides_cons, MixedRadix.address_cons, List.prod_cons,
        Nat.add_comm, Nat.mul_comm shape.prod]

theorem simBufferIndicesOffsetLoop_eq {indices shape : List ℕ}
    (hRange : MixedRadix.InRange indices shape) (strides : List ℕ)
    (hLength : strides.length = shape.length) {offset : ℕ} (hOffset : offset < 2 ^ 64) :
    simBufferIndicesOffsetLoop indices shape strides offset =
      some ((offset + MixedRadix.address indices strides) % 2 ^ 64) := by
  induction hRange generalizing strides offset with
  | nil =>
      rw [List.eq_nil_of_length_eq_zero hLength, simBufferIndicesOffsetLoop, MixedRadix.address,
        Nat.add_zero, Nat.mod_eq_of_lt hOffset]
      all_goals simp
  | @cons index extent indices shape hLess hRest ih =>
      cases strides with
      | nil => simp at hLength
      | cons stride strides =>
          rw [simBufferIndicesOffsetLoop, if_neg (by omega),
            ih strides (by simpa using hLength) (Nat.mod_lt _ (by norm_num)), Nat.mod_add_mod,
            MixedRadix.address_cons, Nat.add_assoc]

/-- Divisions by the extents give the digits of the index, each with its stride. -/
theorem simBufferLinearOffsetLoop_eq {indices shape : List ℕ}
    (hRange : MixedRadix.InRange indices shape) (strides : List ℕ)
    (hLength : strides.length = shape.length) (rest : ℕ) :
    simBufferLinearOffsetLoop shape strides
        (rest * shape.prod + MixedRadix.address indices (MixedRadix.strides shape)) =
      some (rest, MixedRadix.address indices strides % 2 ^ 64) := by
  induction hRange generalizing strides rest with
  | nil =>
      rw [List.eq_nil_of_length_eq_zero hLength]
      simp [simBufferLinearOffsetLoop, MixedRadix.address]
  | @cons index extent indices shape hLess hRest ih =>
      cases strides with
      | nil => simp at hLength
      | cons stride strides =>
          have hExtent : 0 < extent := by omega
          have hDigits : rest * (extent * shape.prod) + (index * shape.prod +
              MixedRadix.address indices (MixedRadix.strides shape)) =
                (rest * extent + index) * shape.prod +
                  MixedRadix.address indices (MixedRadix.strides shape) := by
            rw [Nat.add_mul, Nat.mul_assoc, Nat.add_assoc]
          have hDiv : (rest * extent + index) / extent = rest := by
            rw [Nat.add_comm, Nat.add_mul_div_right _ _ hExtent, Nat.div_eq_of_lt hLess,
              Nat.zero_add]
          have hMod : (rest * extent + index) % extent = index := by
            rw [Nat.add_comm, Nat.add_mul_mod_self_right, Nat.mod_eq_of_lt hLess]
          rw [List.prod_cons, MixedRadix.strides_cons, MixedRadix.address_cons, hDigits,
            simBufferLinearOffsetLoop, ih strides (by simpa using hLength) (rest * extent + index)]
          dsimp only
          rw [if_neg (by omega), hDiv, hMod, Nat.mod_add_mod, MixedRadix.address_cons, Nat.add_comm]

section Offsets

variable {P : Type} {view : SimBufferView P} {indices : List ℕ}

/-- The row-major linear index of a tuple leads to the offset of the tuple. -/
theorem SimBufferView.offsetForIndices_eq (hShape : view.ValidShape)
    (hRange : MixedRadix.InRange indices view.layout.shape) :
    view.offsetForIndices indices = view.offsetForLinearIndex
      (MixedRadix.address indices (MixedRadix.strides view.layout.shape)) := by
  have hCount := hShape.count
  rw [simBufferLayoutCount_eq] at hCount
  obtain ⟨hRank, hProd, hFits⟩ := simBufferShapeCount_some hCount
  rw [hProd] at hFits
  have hBelow := MixedRadix.address_lt hRange
  have hLength : indices.length = view.layout.shape.length := List.Forall₂.length_eq hRange
  rw [offsetForIndices, if_neg hRank, if_neg (by simpa using hLength)]
  cases hTable : view.logicalToPhysical with
  | some physical =>
      dsimp only
      rw [simBufferShapeLinearIndex, if_neg hRank, simBufferShapeLinearLoop_eq hRange hFits]
      rfl
  | none =>
      have hLinear := simBufferLinearOffsetLoop_eq hRange view.layout.strides hShape.strides 0
      rw [Nat.zero_mul, Nat.zero_add] at hLinear
      dsimp only
      rw [simBufferIndicesOffsetLoop_eq hRange _ hShape.strides (by norm_num), Nat.zero_add,
        offsetForLinearIndex, if_neg (by omega), hTable]
      dsimp only
      rw [if_neg hRank, if_neg (by rw [hShape.count]; simp), hLinear]
      simp

/-- Every linear index below the count has an offset. -/
theorem SimBufferView.offsetForLinearIndex_isSome (hShape : view.ValidShape) {logicalIndex : ℕ}
    (hIndex : logicalIndex < view.count) :
    (view.offsetForLinearIndex logicalIndex).isSome := by
  have hCount := hShape.count
  rw [simBufferLayoutCount_eq] at hCount
  obtain ⟨hRank, hProd, hFits⟩ := simBufferShapeCount_some hCount
  rw [offsetForLinearIndex, if_neg (by omega)]
  cases view.logicalToPhysical with
  | some physical => rfl
  | none =>
      have hPos : 0 ∉ view.layout.shape := by
        intro hZero
        rw [List.prod_eq_zero hZero] at hProd
        omega
      rw [hProd] at hIndex
      have hLinear := simBufferLinearOffsetLoop_eq (MixedRadix.inRange_digits hPos hIndex)
        view.layout.strides hShape.strides 0
      rw [Nat.zero_mul, Nat.zero_add, MixedRadix.address_digits hPos hIndex] at hLinear
      dsimp only
      rw [if_neg hRank, if_neg (by rw [hShape.count]; simp), hLinear]
      simp

end Offsets

end Oakfield
