import Oakfield.Field.Buffer
import Oakfield.Field.Coordinates
import Oakfield.Field.Patch
import Oakfield.Library.Loop
import Mathlib.Tactic.Ring

/-! Views of a patch of a field (`sim_field_patch_view_from_field`) and the
iteration over their rows. The data pointer of a view is its byte offset in the
field's storage. -/
namespace Oakfield

open Library KernelIR

/-- `SimFieldPatchView`. The arrays of its layout are its own. -/
structure SimFieldPatchView where
  patch : SimFieldPatch
  bufferView : SimBufferView ℕ
  rowStride : ℕ
  readonly : Bool
  zeroCopy : Bool

/-- `sim_field_scalar_domain`. -/
def SimField.effectiveScalarDomain {D : Type} (field : SimField D) : SimScalarDomain :=
  if !field.initialized then simScalarDomainUnknown
  else if field.scalarDomain.validate && field.scalarDomain.kind != .unknown then
    field.scalarDomain
  else field.domain

/-- The element type which a view takes from the scalar domain of the field. -/
def SimField.patchViewType {D : Type} (field : SimField D) : SimBufferDataType :=
  .fromScalarDomain field.effectiveScalarDomain

namespace SimFieldPatchView

/-- `sim_field_patch_view_is_valid`. -/
def isValid (view : SimFieldPatchView) : Bool :=
  if !view.patch.isValid || !view.bufferView.isValid then false
  else
    let expectedCount := view.patch.width * view.patch.height % 2 ^ 64
    let layout := view.bufferView.layout
    if view.bufferView.count ≠ expectedCount ∨ view.rowStride < view.patch.width then false
    else if layout.shape.length = 1 then
      decide (layout.shape.getD 0 0 = view.patch.width) && decide (layout.strides.getD 0 0 = 1) &&
        layout.contiguous
    else if layout.shape.length ≠ 2 then false
    else
      decide (layout.shape.getD 0 0 = view.patch.height) &&
        decide (layout.shape.getD 1 0 = view.patch.width) &&
        decide (layout.strides.getD 1 0 = 1) &&
        decide (layout.strides.getD 0 0 = view.rowStride)

/-- The address of a row, as `sim_field_patch_iter_rows` computes it. -/
def rowData (view : SimFieldPatchView) (row : ℕ) : ℕ :=
  (view.bufferView.data.getD 0 + row * view.rowStride * view.bufferView.type.elementSize) % 2 ^ 64

end SimFieldPatchView

/-- `sim_field_patch_iter_rows`, with the state which the callback changes. -/
def simFieldPatchIterRows {S : Type} (view : SimFieldPatchView)
    (rowFn : ℕ → ℕ → ℕ → S → Except SimError Unit × S) (userdata : S) :
    Option (Except SimError Unit × S) :=
  if !view.isValid then some (.error .invalidArgument, userdata)
  else
    let rowCount := if view.bufferView.layout.shape.length = 1 then 1 else view.patch.height
    Loop.forEach (fun row userdata => some (rowFn row (view.rowData row) view.patch.width userdata))
      (List.range rowCount) userdata

/-- `sim_field_patch_view_from_field`. -/
def simFieldPatchViewFromField {D : Type} (field : SimField D) (patch : SimFieldPatch)
    (readonly : Bool) : Except SimError SimFieldPatchView :=
  if !patch.isValid then .error .invalidArgument
  else
    let rank := field.rank
    if rank = 0 ∨ field.buffer.isNone ∨ field.width ≠ patch.fieldWidth ∨
        field.height ≠ patch.fieldHeight then .error .invalidArgument
    else if 2 < rank then .error .notSupported
    else
      let axisX := rank - 1
      if field.strides.getD axisX 0 ≠ 1 then .error .notSupported
      else
        match field.xyToIndex patch.x0 patch.y0 with
        | .error _ => .error .invalidArgument
        | .ok baseIndex =>
            let type := field.patchViewType
            if type.elementSize = 0 then .error .notSupported
            else
              let data := some (baseIndex * type.elementSize % 2 ^ 64)
              let count := patch.width * patch.height % 2 ^ 64
              let view : SimFieldPatchView :=
                if rank = 1 then
                  { patch := patch
                    bufferView := ⟨data, count, type, ⟨[patch.width], [1], true⟩, none⟩
                    rowStride := patch.width
                    readonly := readonly
                    zeroCopy := true }
                else
                  let axisY := rank - 2
                  let strideY := field.strides.getD axisY 0
                  { patch := patch
                    bufferView := ⟨data, count, type, ⟨[patch.height, patch.width],
                      [strideY, field.strides.getD axisX 0], patch.flags.coversFullRows⟩, none⟩
                    rowStride := strideY
                    readonly := readonly
                    zeroCopy := true }
              if !view.isValid then .error .invalidState else .ok view

/-! ### What a view should give access to -/

/-- The index tuple of a cell of the patch, in the rank of the view. -/
def patchCell (rank row column : ℕ) : List ℕ := if rank = 1 then [column] else [row, column]

/-- The view and the row iteration lead to the elements of the field's patch, and a
view which is marked contiguous has them in linear order. -/
structure ViewFaithful {D : Type} (field : SimField D) (patch : SimFieldPatch)
    (view : SimFieldPatchView) : Prop where
  elementSize : view.bufferView.type.elementSize = field.elementSize
  element : ∀ row < patch.height, ∀ column < patch.width, ∃ index offset,
    field.xyToIndex (patch.x0 + column) (patch.y0 + row) = .ok index ∧
    view.bufferView.offsetForIndices (patchCell field.rank row column) = some offset ∧
    view.bufferView.offsetForLinearIndex (row * patch.width + column) = some offset ∧
    (view.bufferView.data.getD 0 + offset * view.bufferView.type.elementSize) % 2 ^ 64 =
      index * field.elementSize % 2 ^ 64
  rows : ∀ row < patch.height, ∀ column < patch.width, ∃ index,
    field.xyToIndex (patch.x0 + column) (patch.y0 + row) = .ok index ∧
    (view.rowData row + column * view.bufferView.type.elementSize) % 2 ^ 64 =
      index * field.elementSize % 2 ^ 64
  iteration : ∀ (S : Type) (rowFn : ℕ → ℕ → ℕ → S → Except SimError Unit × S) (userdata : S),
    simFieldPatchIterRows view rowFn userdata =
      Loop.forEach (fun row userdata => some (rowFn row (view.rowData row) patch.width userdata))
        (List.range patch.height) userdata
  consecutive : view.bufferView.layout.contiguous = true →
    ∀ k < patch.width * patch.height, view.bufferView.offsetForLinearIndex k = some k

/-- The element type has the size of the field's elements, the cells can be counted,
and the flag for full rows is right about the memory between the rows. -/
def ViewFits {D : Type} (field : SimField D) (patch : SimFieldPatch) : Prop :=
  field.patchViewType.elementSize = field.elementSize ∧
    patch.width * patch.height < 2 ^ 64 ∧
    (field.rank = 2 → patch.flags.coversFullRows = true →
      patch.height = 1 ∨ field.strides.getD 0 0 = patch.width)

section Views

variable {D : Type} {field : SimField D} {patch : SimFieldPatch} {view : SimFieldPatchView}
  {readonly : Bool} {strideY : ℕ}

/-! ### What the constructor makes -/

/-- A made view, with one stride between rows for fields of one and of two axes. -/
structure ViewMade (field : SimField D) (patch : SimFieldPatch) (view : SimFieldPatchView)
    (strideY : ℕ) : Prop where
  valid : view.isValid = true
  patch_eq : view.patch = patch
  patchValid : patch.isValid = true
  type : view.bufferView.type = field.patchViewType
  data : view.bufferView.data =
    some ((patch.x0 + patch.y0 * strideY) % 2 ^ 64 * field.patchViewType.elementSize % 2 ^ 64)
  count : view.bufferView.count = patch.width * patch.height % 2 ^ 64
  table : view.bufferView.logicalToPhysical = none
  rowStride : view.rowStride = strideY
  strideSized : strideY < 2 ^ 64
  layout : (field.rank = 1 ∧ patch.height = 1 ∧
      view.bufferView.layout = ⟨[patch.width], [1], true⟩) ∨
    (field.rank = 2 ∧ field.strides.getD 0 0 = strideY ∧
      view.bufferView.layout =
        ⟨[patch.height, patch.width], [strideY, 1], patch.flags.coversFullRows⟩)
  index : ∀ row < patch.height, ∀ column < patch.width,
    field.xyToIndex (patch.x0 + column) (patch.y0 + row) =
      .ok ((patch.x0 + column + (patch.y0 + row) * strideY) % 2 ^ 64)

/-- A field of the patch's grid has extents which are not 0. -/
theorem extents_pos (hRank : field.shape.length ≤ 2) (hWidth : 0 < field.width)
    (hHeight : 0 < field.height) (hInit : field.initialized = true) : 0 ∉ field.shape := by
  rw [SimField.width, hInit] at hWidth
  rw [SimField.height, hInit] at hHeight
  intro hZero
  rcases hShape : field.shape with _ | ⟨extentY, _ | ⟨extentX, _ | ⟨extent, rest⟩⟩⟩
  · rw [hShape] at hZero
    cases hZero
  · rw [hShape] at hZero hWidth
    simp only [List.mem_singleton] at hZero
    simp [← hZero] at hWidth
  · rw [hShape] at hZero hWidth hHeight
    simp only [List.mem_cons, List.not_mem_nil, or_false] at hZero
    rcases hZero with hZero | hZero
    · simp [← hZero] at hHeight
    · simp [← hZero] at hWidth
  · rw [hShape] at hRank
    simp at hRank

theorem viewMade_of_ok (hField : LayoutAccepted field)
    (hView : simFieldPatchViewFromField field patch readonly = .ok view) :
    ∃ strideY, ViewMade field patch view strideY := by
  have hInit := hField.initialized
  have hRankEq : field.rank = field.shape.length := by
    rw [SimField.rank, hInit]
    rfl
  unfold simFieldPatchViewFromField at hView
  dsimp only at hView
  cases hBase : field.xyToIndex patch.x0 patch.y0 with
  | error failure =>
      rw [hBase] at hView
      split_ifs at hView
  | ok base =>
      rw [hBase] at hView
      dsimp only at hView
      split_ifs at hView with hPatch hGrid hRank hStride hSize hLine hValid hValid
      all_goals
        rw [Bool.not_eq_true', Bool.not_eq_false] at hPatch hValid
        have hPatchRange := SimFieldPatch.isValid_iff.mp hPatch
        simp only [not_or, not_not] at hGrid hStride
        obtain ⟨_, _, hWidth, hHeight⟩ := hGrid
        have hPos : 0 ∉ field.shape :=
          extents_pos (by omega) (by omega) (by omega) hInit
        have hAxes := hField.axes hPos
        cases hView
      · -- a single axis: one row, and any stride between rows
        rcases hAxes with ⟨extent, stride, hOnLine⟩ | ⟨_, _, _, _, _, _, hPlane⟩
        · obtain ⟨hExtent, hRows⟩ := hOnLine.extents
          have hUnit : stride = 1 := by
            rw [hOnLine.strides, hLine] at hStride
            exact hStride
          have hIndex : ∀ x < extent, field.xyToIndex x 0 = .ok (x % 2 ^ 64) := by
            intro x hX
            exact hOnLine.xyToIndex_ok_iff.mpr
              ⟨by omega, ⟨hX, rfl⟩, by rw [hUnit, Nat.mul_one]⟩
          have hTop : patch.y0 = 0 := by omega
          have hBaseEq : base = patch.x0 % 2 ^ 64 := by
            rw [hTop, hIndex _ (by omega)] at hBase
            exact (Except.ok.inj hBase).symm
          have hNarrow : patch.width < 2 ^ 64 :=
            Nat.lt_of_le_of_lt (by omega) hOnLine.sized.1
          refine ⟨patch.width, hValid, rfl, hPatch, rfl, ?_, rfl, rfl, rfl, hNarrow,
            .inl ⟨hLine, by omega, rfl⟩, ?_⟩
          · rw [hBaseEq, hTop, Nat.zero_mul, Nat.add_zero]
          · intro row hRow column hColumn
            rw [show patch.y0 + row = 0 by omega, Nat.zero_mul, Nat.add_zero]
            exact hIndex _ (by omega)
        · exact absurd (hRankEq ▸ hLine) hPlane.rank_ne_one
      · rcases hAxes with ⟨extent, stride, hOnLine⟩ |
          ⟨outer, outerStrides, extentX, extentY, strideX, strideY, hPlane⟩
        · rw [hRankEq, hOnLine.shape] at hLine
          exact absurd rfl hLine
        · obtain ⟨hExtentX, hExtentY⟩ := hPlane.extents
          obtain ⟨hStrideX, hStrideY⟩ := hPlane.strideAt
          rw [← hRankEq] at hStrideX hStrideY
          have hUnit : strideX = 1 := hStrideX.symm.trans hStride
          have hTwo : field.rank = 2 := by
            rw [hRankEq, hPlane.shape] at hRank ⊢
            simp at hRank ⊢
            omega
          have hNonzero := (hPlane.xyToIndex_ok_iff.mp hBase).1
          have hIndex : ∀ x < extentX, ∀ y < extentY,
              field.xyToIndex x y = .ok ((x + y * strideY) % 2 ^ 64) := by
            intro x hX y hY
            refine hPlane.xyToIndex_ok_iff.mpr ⟨hNonzero, ⟨hX, hY⟩, ?_⟩
            rw [Plane.address, hUnit, Nat.mul_one]
          have hBaseEq : base = (patch.x0 + patch.y0 * strideY) % 2 ^ 64 := by
            rw [hIndex _ (by omega) _ (by omega)] at hBase
            exact (Except.ok.inj hBase).symm
          rw [hTwo] at hStrideY
          refine ⟨strideY, hValid, rfl, hPatch, rfl, by rw [hBaseEq], rfl, rfl, ?_,
            hPlane.sized.2, .inr ⟨hTwo, hStrideY, ?_⟩, ?_⟩
          · rw [hTwo]
            exact hStrideY
          · rw [hStride, hTwo, hStrideY]
          · intro row hRow column hColumn
            exact hIndex _ (by omega) _ (by omega)

/-! ### Addresses -/

/-- A reduced base address plus a distance, in elements of some size. -/
theorem reduced_address (base distance size : ℕ) :
    (base % 2 ^ 64 * size % 2 ^ 64 + distance * size) % 2 ^ 64 =
      (base + distance) % 2 ^ 64 * size % 2 ^ 64 := by
  rw [Nat.mod_add_mod, ← Nat.add_mul, Nat.mul_mod, Nat.mod_add_mod, ← Nat.mul_mod,
    Nat.mod_mul_mod]

namespace ViewMade

variable (hMade : ViewMade field patch view strideY)
include hMade

theorem shape_eq : view.bufferView.layout.shape =
    if field.rank = 1 then [patch.width] else [patch.height, patch.width] := by
  rcases hMade.layout with ⟨hRank, _, hLayout⟩ | ⟨hRank, _, hLayout⟩
  · rw [hLayout, if_pos hRank]
  · rw [hLayout, if_neg (by omega)]

/-- The tuple of a cell, its linear index and its distance from the first cell. -/
theorem cell {row column : ℕ} (hRow : row < patch.height) (hColumn : column < patch.width) :
    MixedRadix.InRange (patchCell field.rank row column) view.bufferView.layout.shape ∧
      MixedRadix.address (patchCell field.rank row column)
        (MixedRadix.strides view.bufferView.layout.shape) = row * patch.width + column ∧
      MixedRadix.address (patchCell field.rank row column) view.bufferView.layout.strides =
        row * strideY + column := by
  rcases hMade.layout with ⟨hRank, hHeight, hLayout⟩ | ⟨hRank, _, hLayout⟩
  · obtain rfl : row = 0 := by omega
    rw [hLayout, patchCell, if_pos hRank]
    refine ⟨.cons hColumn .nil, ?_, ?_⟩
    · simp [MixedRadix.address, MixedRadix.strides]
    · simp [MixedRadix.address]
  · rw [hLayout, patchCell, if_neg (by omega)]
    refine ⟨.cons hRow (.cons hColumn .nil), ?_, ?_⟩
    · simp [MixedRadix.address, MixedRadix.strides]
    · simp [MixedRadix.address]

theorem strides_length :
    view.bufferView.layout.strides.length = view.bufferView.layout.shape.length := by
  rcases hMade.layout with ⟨_, _, hLayout⟩ | ⟨_, _, hLayout⟩
  · rw [hLayout]
    rfl
  · rw [hLayout]
    rfl

theorem offsetForIndices_eq {row column : ℕ} (hRow : row < patch.height)
    (hColumn : column < patch.width) :
    view.bufferView.offsetForIndices (patchCell field.rank row column) =
      some ((row * strideY + column) % 2 ^ 64) := by
  obtain ⟨hRange, _, hDistance⟩ := hMade.cell hRow hColumn
  have hRank : view.bufferView.layout.shape ≠ [] := by
    rw [hMade.shape_eq]
    split_ifs <;> simp
  rw [SimBufferView.offsetForIndices, if_neg hRank, if_neg (by simp [hRange.length_eq]),
    hMade.table]
  dsimp only
  rw [simBufferIndicesOffsetLoop_eq hRange _ hMade.strides_length (by norm_num), Nat.zero_add,
    hDistance]

/-- The shape counts its elements exactly when their number did not wrap. -/
theorem validShape_iff :
    view.bufferView.ValidShape ↔ patch.width * patch.height < 2 ^ 64 := by
  have hPatch := SimFieldPatch.isValid_iff.mp hMade.patchValid
  have hRank : view.bufferView.layout.shape ≠ [] := by
    rw [hMade.shape_eq]
    split_ifs <;> simp
  have hProd : view.bufferView.layout.shape.prod = patch.width * patch.height := by
    rcases hMade.layout with ⟨_, hHeight, hLayout⟩ | ⟨_, _, hLayout⟩
    · rw [hLayout, hHeight]
      simp
    · rw [hLayout]
      simp [Nat.mul_comm]
  constructor
  · intro hShape
    have hCount := hShape.count
    rw [simBufferLayoutCount_eq] at hCount
    obtain ⟨_, hEq, hFits⟩ := simBufferShapeCount_some hCount
    rw [← hProd, ← hEq]
    exact hFits
  · intro hFits
    have hNoZero : 0 ∉ view.bufferView.layout.shape := by
      intro hZero
      have hNone := List.prod_eq_zero hZero
      rw [hProd] at hNone
      exact absurd hNone (Nat.mul_pos hPatch.1.1 hPatch.2.1).ne'
    refine ⟨?_, hMade.strides_length⟩
    rw [simBufferLayoutCount_eq, simBufferShapeCount, if_neg hRank,
      simBufferShapeCountLoop_eq hNoZero (by omega), Nat.one_mul, hProd, hMade.count,
      Nat.mod_eq_of_lt hFits]

theorem offsetForLinearIndex_eq (hFits : patch.width * patch.height < 2 ^ 64) {row column : ℕ}
    (hRow : row < patch.height) (hColumn : column < patch.width) :
    view.bufferView.offsetForLinearIndex (row * patch.width + column) =
      some ((row * strideY + column) % 2 ^ 64) := by
  obtain ⟨hRange, hLinear, _⟩ := hMade.cell hRow hColumn
  rw [← hLinear, ← SimBufferView.offsetForIndices_eq (hMade.validShape_iff.mpr hFits) hRange]
  exact hMade.offsetForIndices_eq hRow hColumn

/-- A view whose count wrapped finds no element by its linear index. -/
theorem fits_of_offset {offset : ℕ}
    (hOffset : view.bufferView.offsetForLinearIndex 0 = some offset) :
    patch.width * patch.height < 2 ^ 64 := by
  have hRank : view.bufferView.layout.shape ≠ [] := by
    rw [hMade.shape_eq]
    split_ifs <;> simp
  rw [SimBufferView.offsetForLinearIndex, hMade.table] at hOffset
  dsimp only at hOffset
  rw [if_neg hRank] at hOffset
  split_ifs at hOffset with hEmpty hCount
  rw [not_not] at hCount
  exact hMade.validShape_iff.mp ⟨hCount, hMade.strides_length⟩

theorem rowData_eq (row : ℕ) : view.rowData row =
    (patch.x0 + patch.y0 * strideY + row * strideY) % 2 ^ 64 *
      field.patchViewType.elementSize % 2 ^ 64 := by
  rw [SimFieldPatchView.rowData, hMade.data, hMade.type, hMade.rowStride, Option.getD_some,
    reduced_address]

theorem iterRows_eq {S : Type} (rowFn : ℕ → ℕ → ℕ → S → Except SimError Unit × S) (userdata : S) :
    simFieldPatchIterRows view rowFn userdata =
      Loop.forEach (fun row userdata => some (rowFn row (view.rowData row) patch.width userdata))
        (List.range patch.height) userdata := by
  rw [simFieldPatchIterRows, hMade.valid, hMade.patch_eq]
  rcases hMade.layout with ⟨_, hHeight, hLayout⟩ | ⟨_, _, hLayout⟩
  · rw [hLayout, hHeight]
    rfl
  · rw [hLayout]
    rfl

end ViewMade

/-! ### When a view is faithful -/

/-- A flagged view has its elements in linear order if its rows follow each other. -/
theorem ViewMade.consecutive (hMade : ViewMade field patch view strideY)
    (hFits : patch.width * patch.height < 2 ^ 64)
    (hRows : patch.height = 1 ∨ strideY = patch.width) {k : ℕ}
    (hK : k < patch.width * patch.height) : view.bufferView.offsetForLinearIndex k = some k := by
  have hWidth : 0 < patch.width := (SimFieldPatch.isValid_iff.mp hMade.patchValid).1.1
  have hSplit : k / patch.width * patch.width + k % patch.width = k := by
    rw [Nat.mul_comm]
    exact Nat.div_add_mod k patch.width
  have hRow : k / patch.width < patch.height := Nat.div_lt_of_lt_mul hK
  have hOffset := hMade.offsetForLinearIndex_eq hFits hRow (Nat.mod_lt k hWidth)
  rw [hSplit] at hOffset
  have hSame : k / patch.width * strideY = k / patch.width * patch.width := by
    rcases hRows with hOne | hDense
    · rw [hOne] at hRow
      rw [Nat.lt_one_iff.mp hRow, Nat.zero_mul, Nat.zero_mul]
    · rw [hDense]
  rw [hOffset, hSame, hSplit, Nat.mod_eq_of_lt (Nat.lt_trans hK hFits)]

/-- The view of a patch of a field is faithful exactly when the element sizes agree,
the cells can be counted and a flag for full rows fits the field's row stride. -/
theorem simFieldPatchViewFromField_faithful_iff (field : SimField D) (patch : SimFieldPatch)
    (readonly : Bool) (view : SimFieldPatchView) (hField : LayoutAccepted field)
    (hView : simFieldPatchViewFromField field patch readonly = .ok view) :
    ViewFaithful field patch view ↔ ViewFits field patch := by
  obtain ⟨strideY, hMade⟩ := viewMade_of_ok hField hView
  obtain ⟨⟨hWidth, _⟩, hHeight, _⟩ := SimFieldPatch.isValid_iff.mp hMade.patchValid
  constructor
  · intro hFaithful
    obtain ⟨_, offset, _, _, hFirst, _⟩ := hFaithful.element 0 hHeight 0 hWidth
    rw [Nat.zero_mul, Nat.zero_add] at hFirst
    have hFits := hMade.fits_of_offset hFirst
    have hSize := hFaithful.elementSize
    rw [hMade.type] at hSize
    refine ⟨hSize, hFits, ?_⟩
    intro hRank hFlag
    rcases hMade.layout with ⟨hLine, _, _⟩ | ⟨_, hStride, hLayout⟩
    · omega
    · by_cases hOne : patch.height = 1
      · exact .inl hOne
      -- the second row starts after the first one
      · have hNext : patch.width < patch.width * patch.height :=
          (Nat.lt_mul_iff_one_lt_right hWidth).mpr (by omega)
        have hOffset := hFaithful.consecutive (by rw [hLayout]; exact hFlag) patch.width hNext
        have hStart := hMade.offsetForLinearIndex_eq hFits (by omega : 1 < patch.height) hWidth
        rw [Nat.one_mul, Nat.add_zero, Nat.one_mul, Nat.add_zero,
          Nat.mod_eq_of_lt hMade.strideSized, hOffset] at hStart
        rw [hStride]
        exact .inr (Option.some.inj hStart).symm
  · rintro ⟨hSize, hFits, hFlags⟩
    constructor
    · rw [hMade.type]
      exact hSize
    · intro row hRow column hColumn
      refine ⟨_, _, hMade.index row hRow column hColumn, hMade.offsetForIndices_eq hRow hColumn,
        hMade.offsetForLinearIndex_eq hFits hRow hColumn, ?_⟩
      rw [hMade.data, hMade.type, Option.getD_some, reduced_address, Nat.add_mod_mod, hSize]
      congr 3
      ring
    · intro row hRow column hColumn
      refine ⟨_, hMade.index row hRow column hColumn, ?_⟩
      rw [hMade.rowData_eq, hMade.type, reduced_address, hSize]
      congr 3
      ring
    · intro S rowFn userdata
      exact hMade.iterRows_eq rowFn userdata
    · intro hContiguous k hK
      apply hMade.consecutive hFits _ hK
      rcases hMade.layout with ⟨_, hOne, _⟩ | ⟨hRank, hStride, hLayout⟩
      · exact .inl hOne
      · rw [hLayout] at hContiguous
        rw [← hStride]
        exact hFlags hRank hContiguous

theorem simFieldPatchViewFromField_faithful_iff_column :
    ∃ view, simFieldPatchViewFromField paddedField ⟨1, 0, 1, 2, 2, 2, ⟨false, false, true⟩⟩ true =
        .ok view ∧
      (ViewFaithful paddedField ⟨1, 0, 1, 2, 2, 2, ⟨false, false, true⟩⟩ view ↔
        ViewFits paddedField ⟨1, 0, 1, 2, 2, 2, ⟨false, false, true⟩⟩) :=
  ⟨_, rfl, simFieldPatchViewFromField_faithful_iff _ _ true _ paddedField_accepted.accepted rfl⟩

/-- The full patch of the padded field is marked contiguous, while its second row starts
at offset 4. -/
theorem paddedField_view_notFaithful :
    ∃ view, simFieldPatchFull 2 2 = .ok ⟨0, 0, 2, 2, 2, 2, ⟨true, true, true⟩⟩ ∧
      simFieldPatchViewFromField paddedField ⟨0, 0, 2, 2, 2, 2, ⟨true, true, true⟩⟩ true =
        .ok view ∧
      ¬ViewFaithful paddedField ⟨0, 0, 2, 2, 2, 2, ⟨true, true, true⟩⟩ view := by
  refine ⟨_, rfl, rfl, ?_⟩
  intro hFaithful
  exact absurd (hFaithful.consecutive rfl 2 (by decide)) (by decide)

end Views

end Oakfield
