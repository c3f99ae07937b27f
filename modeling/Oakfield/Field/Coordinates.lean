import Oakfield.Field.Layout
import Oakfield.Library.Plane
import Mathlib.Data.Finset.Prod

/-! Coordinates of elements in the two fastest axes (`sim_field_index_to_xy`,
`sim_field_xy_to_index`) and the layouts on which they are inverse. -/
namespace Oakfield

open Library

namespace SimField

variable {D : Type}

/-- `sim_field_rank`. -/
def rank (field : SimField D) : ℕ := if !field.initialized then 0 else field.shape.length

/-- `sim_field_width`. -/
def width (field : SimField D) : ℕ :=
  if !field.initialized || decide (field.shape = []) then 0
  else field.shape.getD (field.shape.length - 1) 0

/-- `sim_field_height`. -/
def height (field : SimField D) : ℕ :=
  if !field.initialized || decide (field.shape = []) then 0
  else if field.shape.length = 1 then 1
  else field.shape.getD (field.shape.length - 2) 0

/-- `sim_field_index_to_xy`. -/
def indexToXy (field : SimField D) (index : ℕ) : Except SimError (ℕ × ℕ) :=
  if !field.initialized then .error .invalidArgument
  else if field.shape = [] then .error .invalidArgument
  else
    let count := elementCount field.shape
    if count = 0 ∨ count ≤ index then .error .invalidArgument
    else
      let rank := field.shape.length
      if rank = 1 then .ok (index, 0)
      else
        let extentX := field.shape.getD (rank - 1) 0
        let extentY := field.shape.getD (rank - 2) 0
        let strideX := field.strides.getD (rank - 1) 0
        let strideY := field.strides.getD (rank - 2) 0
        if extentX = 0 ∨ extentY = 0 ∨ strideX = 0 ∨ strideY = 0 then .error .invalidArgument
        else .ok (index / strideX % extentX, index / strideY % extentY)

/-- `sim_field_xy_to_index`. -/
def xyToIndex (field : SimField D) (x y : ℕ) : Except SimError ℕ :=
  if !field.initialized then .error .invalidArgument
  else if field.shape = [] then .error .invalidArgument
  else
    let rank := field.shape.length
    let extentX := field.shape.getD (rank - 1) 0
    let strideX := field.strides.getD (rank - 1) 0
    if extentX = 0 ∨ strideX = 0 then .error .invalidArgument
    else if rank = 1 then
      if y ≠ 0 ∨ extentX ≤ x then .error .invalidArgument
      else .ok (x * strideX % 2 ^ 64)
    else
      let extentY := field.shape.getD (rank - 2) 0
      let strideY := field.strides.getD (rank - 2) 0
      if extentY = 0 ∨ strideY = 0 then .error .invalidArgument
      else if extentX ≤ x ∨ extentY ≤ y then .error .invalidArgument
      else .ok ((x * strideX + y * strideY) % 2 ^ 64)

/-- The index tuple of a point: `x` on the last axis, `y` on the one before, and
0 on all others. -/
def xyIndices (rank x y : ℕ) : List ℕ :=
  if rank = 1 then [x] else List.replicate (rank - 2) 0 ++ [y, x]

/-- The point is an element of the field; on a single axis its `y` is 0. -/
def XyInRange (field : SimField D) (x y : ℕ) : Prop :=
  MixedRadix.InRange (xyIndices field.shape.length x y) field.shape ∧
    (field.shape.length = 1 → y = 0)

/-- Both conversions are inverse, on some linear indices and on all points, and
agree with the element index of the point's tuple. -/
structure CoordinatesRoundTrip (field : SimField D) (indices : Set ℕ) : Prop where
  index : ∀ index ∈ indices, ∃ x y, field.indexToXy index = .ok (x, y) ∧
    field.xyToIndex x y = .ok index
  point : ∀ x y, field.XyInRange x y → ∃ index, field.xyToIndex x y = .ok index ∧
    field.indexToXy index = .ok (x, y)
  element : ∀ x y, field.XyInRange x y →
    field.xyToIndex x y = field.elementIndex (xyIndices field.shape.length x y)

/-- The two fastest axes have strides which are not 0 and dense on their plane. -/
def CoordinatesDense (field : SimField D) : Prop :=
  let rank := field.shape.length
  let strideX := field.strides.getD (rank - 1) 0
  let strideY := field.strides.getD (rank - 2) 0
  strideX ≠ 0 ∧ (rank = 1 ∨ strideY ≠ 0) ∧
    Plane.Dense field.width field.height strideX strideY

end SimField

/-- A field which `sim_field_init` or `sim_field_wrap` accepted, from extents
and strides in `size_t`. -/
inductive AcceptedLayout {D : Type} (field : SimField D) : Prop where
  | init (heap : Heap) (shape : List ℕ) (elementSize : ℕ) (allocator : Option SimFieldAllocator)
      (hSized : ∀ extent ∈ shape, extent < 2 ^ 64)
      (hRun : simFieldInit heap shape elementSize allocator = .ok field)
  | wrap (heap : Heap) (layout : SimFieldLayout) (elementSize : ℕ) (data : FieldData D)
      (hSized : ∀ extent ∈ layout.shape, extent < 2 ^ 64)
      (hStrides : layout.strides.length = layout.shape.length)
      (hStridesSized : ∀ stride ∈ layout.strides, stride < 2 ^ 64)
      (hRun : simFieldWrap heap layout elementSize data = .ok field)

/-- What either constructor ensures of a layout. -/
structure LayoutAccepted {D : Type} (field : SimField D) : Prop where
  initialized : field.initialized = true
  rank : field.shape ≠ []
  strides : field.strides.length = field.shape.length
  sized : ∀ extent ∈ field.shape, extent < 2 ^ 64
  stridesSized : ∀ stride ∈ field.strides, stride < 2 ^ 64

theorem layoutStrides_sized (shape : List ℕ) :
    (layoutStrides shape).1.length = shape.length ∧ (layoutStrides shape).2 < 2 ^ 64 ∧
      ∀ stride ∈ (layoutStrides shape).1, stride < 2 ^ 64 := by
  induction shape with
  | nil => exact ⟨rfl, by norm_num [layoutStrides], fun stride hStride => by cases hStride⟩
  | cons extent shape ih =>
      obtain ⟨hLength, hProduct, hAll⟩ := ih
      refine ⟨congrArg (· + 1) hLength, Nat.mod_lt _ (by norm_num), ?_⟩
      intro stride hStride
      rcases List.mem_cons.mp hStride with rfl | hTail
      · exact hProduct
      · exact hAll stride hTail

theorem AcceptedLayout.accepted {D : Type} {field : SimField D} (hField : AcceptedLayout field) :
    LayoutAccepted field := by
  cases hField with
  | init heap shape elementSize allocator hSized hRun =>
      obtain ⟨_, hRank, _, _, rfl⟩ := simFieldInit_ok hRun
      obtain ⟨hLength, _, hStrides⟩ := layoutStrides_sized shape
      exact ⟨rfl, hRank, hLength, hSized, hStrides⟩
  | wrap heap layout elementSize data hSized hStrides hStridesSized hRun =>
      obtain ⟨_, hRank, rfl⟩ := simFieldWrap_ok hRun
      exact ⟨rfl, hRank, hStrides, hSized, hStridesSized⟩

/-! ### The last two axes -/

theorem getD_append_two (outer : List ℕ) (y x : ℕ) :
    (outer ++ [y, x]).getD ((outer ++ [y, x]).length - 1) 0 = x ∧
      (outer ++ [y, x]).getD ((outer ++ [y, x]).length - 2) 0 = y := by
  simp [List.getD_eq_getElem?_getD]

/-- A list of two or more numbers, from its end. -/
theorem exists_append_two {values : List ℕ} (hLength : 2 ≤ values.length) :
    ∃ outer y x, values = outer ++ [y, x] := by
  rcases List.eq_nil_or_concat' values with rfl | ⟨init, x, rfl⟩
  · simp at hLength
  · rcases List.eq_nil_or_concat' init with rfl | ⟨outer, y, rfl⟩
    · simp at hLength
    · exact ⟨outer, y, x, by simp⟩

/-- With 0 on the outer axes, the element index is one of the last two. -/
theorem elementIndexLoop_outer {outer outerStrides : List ℕ} (hPos : 0 ∉ outer)
    (hLength : outerStrides.length = outer.length) (indices shape strides : List ℕ) {offset : ℕ}
    (hOffset : offset < 2 ^ 64) :
    elementIndexLoop (List.replicate outer.length 0 ++ indices) (outer ++ shape)
        (outerStrides ++ strides) offset =
      elementIndexLoop indices shape strides offset := by
  induction outer generalizing outerStrides with
  | nil =>
      rw [List.eq_nil_of_length_eq_zero hLength]
      rfl
  | cons extent outer ih =>
      cases outerStrides with
      | nil => simp at hLength
      | cons stride outerStrides =>
          rw [List.mem_cons, not_or] at hPos
          rw [List.length_cons, List.replicate_succ, List.cons_append, List.cons_append,
            List.cons_append, elementIndexLoop, if_neg (by omega), Nat.zero_mul, Nat.add_zero,
            Nat.mod_eq_of_lt hOffset]
          exact ih hPos.2 (by simpa using hLength)

theorem inRange_outer_iff {outer : List ℕ} (hPos : 0 ∉ outer) (indices shape : List ℕ) :
    MixedRadix.InRange (List.replicate outer.length 0 ++ indices) (outer ++ shape) ↔
      MixedRadix.InRange indices shape := by
  induction outer with
  | nil => rfl
  | cons extent outer ih =>
      rw [List.mem_cons, not_or] at hPos
      rw [List.length_cons, List.replicate_succ, List.cons_append, List.cons_append,
        MixedRadix.InRange, List.forall₂_cons, ← MixedRadix.InRange, ih hPos.2]
      exact and_iff_right (Nat.pos_of_ne_zero (Ne.symm hPos.1))

/-- A zero extent leaves no index tuple. -/
theorem not_inRange_of_zero {indices shape : List ℕ} (hZero : 0 ∈ shape) :
    ¬MixedRadix.InRange indices shape := by
  intro hRange
  induction hRange with
  | nil => cases hZero
  | cons hLess _ ih =>
      rcases List.mem_cons.mp hZero with rfl | hTail
      · exact Nat.not_lt_zero _ hLess
      · exact ih hTail

section Plane

variable {D : Type} {field : SimField D} {outer outerStrides : List ℕ}
  {extentX extentY strideX strideY : ℕ}

/-- A field of two or more axes without zero extents, by its fastest two. -/
structure OnPlane (field : SimField D) (outer outerStrides : List ℕ)
    (extentX extentY strideX strideY : ℕ) : Prop where
  initialized : field.initialized = true
  shape : field.shape = outer ++ [extentY, extentX]
  strides : field.strides = outerStrides ++ [strideY, strideX]
  length : outerStrides.length = outer.length
  pos : 0 ∉ outer
  posX : 0 < extentX
  posY : 0 < extentY
  sized : strideX < 2 ^ 64 ∧ strideY < 2 ^ 64

namespace OnPlane

variable (hPlane : OnPlane field outer outerStrides extentX extentY strideX strideY)
include hPlane

theorem rank_ne_one : field.shape.length ≠ 1 := by
  rw [hPlane.shape]
  simp

theorem extents : field.width = extentX ∧ field.height = extentY := by
  have hAxes := getD_append_two outer extentY extentX
  rw [SimField.width, SimField.height, hPlane.initialized, if_neg hPlane.rank_ne_one,
    hPlane.shape, hAxes.1, hAxes.2]
  simp

theorem strideAt : field.strides.getD (field.shape.length - 1) 0 = strideX ∧
    field.strides.getD (field.shape.length - 2) 0 = strideY := by
  have hAxes := getD_append_two outerStrides strideY strideX
  have hLength : (outer ++ [extentY, extentX]).length =
      (outerStrides ++ [strideY, strideX]).length := by simp [hPlane.length]
  rw [hPlane.shape, hPlane.strides, hLength]
  exact hAxes

theorem indices (x y : ℕ) : SimField.xyIndices field.shape.length x y =
    List.replicate outer.length 0 ++ [y, x] := by
  rw [SimField.xyIndices, if_neg hPlane.rank_ne_one, hPlane.shape]
  simp

theorem xyInRange_iff {x y : ℕ} : field.XyInRange x y ↔ x < extentX ∧ y < extentY := by
  rw [SimField.XyInRange, hPlane.indices, hPlane.shape, inRange_outer_iff hPlane.pos,
    ← hPlane.shape]
  simp [hPlane.rank_ne_one, and_comm]

theorem indexToXy_ok_iff {index : ℕ} {point : ℕ × ℕ} : field.indexToXy index = .ok point ↔
    (strideX ≠ 0 ∧ strideY ≠ 0) ∧ index < SimField.elementCount field.shape ∧
      point = Plane.coordinates extentX extentY strideX strideY index := by
  have hRank : field.shape ≠ [] := by simp [hPlane.shape]
  have hAxes := getD_append_two outer extentY extentX
  rw [← hPlane.shape] at hAxes
  have hX := hPlane.posX
  have hY := hPlane.posY
  rw [SimField.indexToXy, hPlane.initialized, if_neg hRank]
  dsimp only
  rw [if_neg hPlane.rank_ne_one, hAxes.1, hAxes.2, hPlane.strideAt.1, hPlane.strideAt.2]
  simp only [Bool.not_true, Bool.false_eq_true, if_false]
  split_ifs with hCount hZero
  · rw [false_iff]
    omega
  · rw [false_iff]
    omega
  · simp only [Except.ok.injEq, Plane.coordinates]
    constructor
    · intro hPoint
      exact ⟨by omega, by omega, hPoint.symm⟩
    · intro hPoint
      exact hPoint.2.2.symm

theorem xyToIndex_ok_iff {x y index : ℕ} : field.xyToIndex x y = .ok index ↔
    (strideX ≠ 0 ∧ strideY ≠ 0) ∧ (x < extentX ∧ y < extentY) ∧
      index = Plane.address strideX strideY x y % 2 ^ 64 := by
  have hRank : field.shape ≠ [] := by simp [hPlane.shape]
  have hAxes := getD_append_two outer extentY extentX
  rw [← hPlane.shape] at hAxes
  have hX := hPlane.posX
  have hY := hPlane.posY
  rw [SimField.xyToIndex, hPlane.initialized, if_neg hRank]
  dsimp only
  rw [if_neg hPlane.rank_ne_one, hAxes.1, hAxes.2, hPlane.strideAt.1, hPlane.strideAt.2]
  simp only [Bool.not_true, Bool.false_eq_true, if_false]
  split_ifs with hZero hZeroY hRange
  · rw [false_iff]
    omega
  · rw [false_iff]
    omega
  · rw [false_iff]
    omega
  · simp only [Except.ok.injEq, Plane.address]
    constructor
    · intro hIndex
      exact ⟨by omega, by omega, hIndex.symm⟩
    · intro hIndex
      exact hIndex.2.2.symm

theorem elementIndex_eq {x y : ℕ} (hX : x < extentX) (hY : y < extentY) :
    field.elementIndex (SimField.xyIndices field.shape.length x y) =
      .ok (Plane.address strideX strideY x y % 2 ^ 64) := by
  have hLength : (List.replicate outer.length 0 ++ [y, x]).length = field.shape.length := by
    simp [hPlane.shape]
  have hRank : field.shape ≠ [] := by simp [hPlane.shape]
  rw [SimField.elementIndex, hPlane.indices, if_neg (by simp [hLength, hRank]), hPlane.shape,
    hPlane.strides, elementIndexLoop_outer hPlane.pos hPlane.length _ _ _ (by norm_num),
    elementIndexLoop, if_neg (by omega), elementIndexLoop, if_neg (by omega), elementIndexLoop,
    Nat.mod_add_mod, Nat.zero_add, Nat.add_comm]
  · rfl
  · simp

/-- The conversions are inverse on the points of the plane exactly when the
strides are dense and the element count has room for all of them. -/
theorem roundTrip_iff :
    field.CoordinatesRoundTrip {index | index < extentX * extentY} ↔
      ((strideX ≠ 0 ∧ strideY ≠ 0) ∧ Plane.Dense extentX extentY strideX strideY) ∧
        extentX * extentY ≤ SimField.elementCount field.shape := by
  constructor
  · intro hRound
    obtain ⟨origin, hOrigin, _⟩ := hRound.point 0 0
      (hPlane.xyInRange_iff.mpr ⟨hPlane.posX, hPlane.posY⟩)
    have hStrides := (hPlane.xyToIndex_ok_iff.mp hOrigin).1
    have hInverse : Plane.Inverse (2 ^ 64) extentX extentY strideX strideY := by
      constructor
      · intro x hX y hY
        obtain ⟨index, hIndex, hPoint⟩ := hRound.point x y (hPlane.xyInRange_iff.mpr ⟨hX, hY⟩)
        obtain ⟨_, _, rfl⟩ := hPlane.xyToIndex_ok_iff.mp hIndex
        exact (hPlane.indexToXy_ok_iff.mp hPoint).2.2.symm
      · intro index hIndex
        obtain ⟨x, y, hPoint, hBack⟩ := hRound.index index hIndex
        rw [← (hPlane.indexToXy_ok_iff.mp hPoint).2.2]
        exact (hPlane.xyToIndex_ok_iff.mp hBack).2.2.symm
    have hPos : 0 < extentX * extentY := Nat.mul_pos hPlane.posX hPlane.posY
    obtain ⟨x, y, hLast, _⟩ := hRound.index (extentX * extentY - 1) (Nat.sub_lt hPos one_pos)
    have hCount := (hPlane.indexToXy_ok_iff.mp hLast).2.1
    exact ⟨⟨hStrides, Plane.dense_of_inverse hInverse hPlane.posX hPlane.posY hPlane.sized.1
      hPlane.sized.2⟩, by omega⟩
  · intro hDense
    obtain ⟨⟨hStrides, hDense⟩, hCount⟩ := hDense
    have hFits : SimField.elementCount field.shape < 2 ^ 64 := by
      rw [elementCount_eq_prod_mod (by simp [hPlane.shape])]
      exact Nat.mod_lt _ (by norm_num)
    have hInverse := Plane.inverse_of_dense hDense hStrides.1 hStrides.2
      (Nat.le_trans hCount hFits.le)
    constructor
    · intro index hIndex
      have hBelow : index < extentX * extentY := hIndex
      refine ⟨_, _, hPlane.indexToXy_ok_iff.mpr ⟨hStrides, by omega, rfl⟩,
        hPlane.xyToIndex_ok_iff.mpr ⟨hStrides, ?_, (hInverse.index index hIndex).symm⟩⟩
      exact ⟨Nat.mod_lt _ hPlane.posX, Nat.mod_lt _ hPlane.posY⟩
    · intro x y hPoint
      obtain ⟨hX, hY⟩ := hPlane.xyInRange_iff.mp hPoint
      have hInside := (Plane.coordinates_address hDense hStrides.1 hStrides.2 hX hY).2
      have hBelow : Plane.address strideX strideY x y % 2 ^ 64 <
          SimField.elementCount field.shape := Nat.lt_of_le_of_lt (Nat.mod_le _ _) (by omega)
      exact ⟨_, hPlane.xyToIndex_ok_iff.mpr ⟨hStrides, ⟨hX, hY⟩, rfl⟩,
        hPlane.indexToXy_ok_iff.mpr ⟨hStrides, hBelow, (hInverse.point x hX y hY).symm⟩⟩
    · intro x y hPoint
      obtain ⟨hX, hY⟩ := hPlane.xyInRange_iff.mp hPoint
      rw [hPlane.elementIndex_eq hX hY]
      exact hPlane.xyToIndex_ok_iff.mpr ⟨hStrides, ⟨hX, hY⟩, rfl⟩

/-- Inverse on all linear indices, there are as many of them as points. -/
theorem count_of_roundTrip
    (hRound : field.CoordinatesRoundTrip {index | index < SimField.elementCount field.shape}) :
    SimField.elementCount field.shape = extentX * extentY := by
  have hPoints : (Finset.range extentX ×ˢ Finset.range extentY).card = extentX * extentY := by
    rw [Finset.card_product, Finset.card_range, Finset.card_range]
  apply Nat.le_antisymm
  · rw [← hPoints, ← Finset.card_range (SimField.elementCount field.shape)]
    apply Finset.card_le_card_of_injOn (Plane.coordinates extentX extentY strideX strideY)
    · intro index _
      simp only [Plane.coordinates, Finset.coe_product, Finset.coe_range, Set.mem_prod,
        Set.mem_Iio]
      exact ⟨Nat.mod_lt _ hPlane.posX, Nat.mod_lt _ hPlane.posY⟩
    · intro index hIndex other hOther hSame
      obtain ⟨x, y, hPoint, hBack⟩ := hRound.index index (by simpa using hIndex)
      obtain ⟨x', y', hPoint', hBack'⟩ := hRound.index other (by simpa using hOther)
      have hEq : (x, y) = (x', y') := by
        rw [(hPlane.indexToXy_ok_iff.mp hPoint).2.2, (hPlane.indexToXy_ok_iff.mp hPoint').2.2]
        exact hSame
      cases hEq
      exact Except.ok.inj (hBack.symm.trans hBack')
  · rw [← hPoints, ← Finset.card_range (SimField.elementCount field.shape)]
    apply Finset.card_le_card_of_injOn
      (fun point => Plane.address strideX strideY point.1 point.2 % 2 ^ 64)
    · intro point hPoint
      simp only [Finset.coe_product, Finset.coe_range, Set.mem_prod, Set.mem_Iio] at hPoint
      obtain ⟨index, hIndex, hBack⟩ := hRound.point point.1 point.2
        (hPlane.xyInRange_iff.mpr hPoint)
      obtain ⟨_, _, rfl⟩ := hPlane.xyToIndex_ok_iff.mp hIndex
      simpa using (hPlane.indexToXy_ok_iff.mp hBack).2.1
    · intro point hPoint other hOther hSame
      simp only [Finset.coe_product, Finset.coe_range, Set.mem_prod, Set.mem_Iio] at hPoint hOther
      obtain ⟨index, hIndex, hBack⟩ := hRound.point point.1 point.2
        (hPlane.xyInRange_iff.mpr hPoint)
      obtain ⟨index', hIndex', hBack'⟩ := hRound.point other.1 other.2
        (hPlane.xyInRange_iff.mpr hOther)
      obtain ⟨_, _, rfl⟩ := hPlane.xyToIndex_ok_iff.mp hIndex
      obtain ⟨_, _, rfl⟩ := hPlane.xyToIndex_ok_iff.mp hIndex'
      dsimp only at hSame
      rw [hSame, hBack'] at hBack
      exact (Except.ok.inj hBack).symm

end OnPlane

end Plane

section Line

variable {D : Type} {field : SimField D} {extent stride : ℕ}

/-- A field of a single axis. -/
structure OnLine (field : SimField D) (extent stride : ℕ) : Prop where
  initialized : field.initialized = true
  shape : field.shape = [extent]
  strides : field.strides = [stride]
  pos : 0 < extent
  sized : extent < 2 ^ 64 ∧ stride < 2 ^ 64

namespace OnLine

variable (hLine : OnLine field extent stride)
include hLine

theorem elementCount_eq : SimField.elementCount field.shape = extent := by
  rw [elementCount_eq_prod_mod (by simp [hLine.shape]), hLine.shape, List.prod_singleton,
    Nat.mod_eq_of_lt hLine.sized.1]

theorem extents : field.width = extent ∧ field.height = 1 := by
  simp [SimField.width, SimField.height, hLine.initialized, hLine.shape]

theorem xyInRange_iff {x y : ℕ} : field.XyInRange x y ↔ x < extent ∧ y = 0 := by
  simp [SimField.XyInRange, SimField.xyIndices, hLine.shape]

theorem indexToXy_ok_iff {index : ℕ} {point : ℕ × ℕ} : field.indexToXy index = .ok point ↔
    index < extent ∧ point = (index, 0) := by
  have hPos := hLine.pos
  rw [SimField.indexToXy, hLine.initialized, hLine.elementCount_eq, hLine.shape]
  simp only [Bool.not_true, Bool.false_eq_true, if_false, List.cons_ne_nil, List.length_singleton,
    if_true]
  split_ifs with hCount
  · rw [false_iff]
    omega
  · simp only [Except.ok.injEq]
    constructor
    · intro hPoint
      exact ⟨by omega, hPoint.symm⟩
    · intro hPoint
      exact hPoint.2.symm

theorem xyToIndex_ok_iff {x y index : ℕ} : field.xyToIndex x y = .ok index ↔
    stride ≠ 0 ∧ (x < extent ∧ y = 0) ∧ index = x * stride % 2 ^ 64 := by
  have hPos := hLine.pos
  rw [SimField.xyToIndex, hLine.initialized, hLine.shape, hLine.strides]
  simp only [Bool.not_true, Bool.false_eq_true, if_false, List.cons_ne_nil, List.length_singleton,
    if_true, Nat.sub_self, List.getD_cons_zero]
  split_ifs with hZero hRange
  · rw [false_iff]
    omega
  · rw [false_iff]
    omega
  · simp only [Except.ok.injEq]
    constructor
    · intro hIndex
      exact ⟨by omega, by omega, hIndex.symm⟩
    · intro hIndex
      exact hIndex.2.2.symm

theorem roundTrip_iff : field.CoordinatesRoundTrip {index | index < extent} ↔
    stride ≠ 0 ∧ (stride = 1 ∨ extent = 1) := by
  constructor
  · intro hRound
    obtain ⟨origin, hOrigin, _⟩ := hRound.point 0 0 (hLine.xyInRange_iff.mpr ⟨hLine.pos, rfl⟩)
    refine ⟨(hLine.xyToIndex_ok_iff.mp hOrigin).1, ?_⟩
    by_cases hSingle : extent = 1
    · exact .inr hSingle
    · have hPos := hLine.pos
      obtain ⟨x, y, hPoint, hBack⟩ := hRound.index 1 (show 1 < extent by omega)
      cases (hLine.indexToXy_ok_iff.mp hPoint).2
      have hIndex := (hLine.xyToIndex_ok_iff.mp hBack).2.2
      rw [Nat.one_mul, Nat.mod_eq_of_lt hLine.sized.2] at hIndex
      exact .inl hIndex.symm
  · intro hStride
    have hExact : ∀ x < extent, x * stride % 2 ^ 64 = x := by
      intro x hX
      rcases hStride.2 with rfl | rfl
      · rw [Nat.mul_one, Nat.mod_eq_of_lt (Nat.lt_trans hX hLine.sized.1)]
      · rw [Nat.lt_one_iff.mp hX, Nat.zero_mul, Nat.zero_mod]
    constructor
    · intro index hIndex
      exact ⟨index, 0, hLine.indexToXy_ok_iff.mpr ⟨hIndex, rfl⟩,
        hLine.xyToIndex_ok_iff.mpr ⟨hStride.1, ⟨hIndex, rfl⟩, (hExact index hIndex).symm⟩⟩
    · intro x y hPoint
      obtain ⟨hX, rfl⟩ := hLine.xyInRange_iff.mp hPoint
      exact ⟨x, hLine.xyToIndex_ok_iff.mpr ⟨hStride.1, ⟨hX, rfl⟩, (hExact x hX).symm⟩,
        hLine.indexToXy_ok_iff.mpr ⟨hX, rfl⟩⟩
    · intro x y hPoint
      obtain ⟨hX, rfl⟩ := hLine.xyInRange_iff.mp hPoint
      rw [hLine.xyToIndex_ok_iff.mpr ⟨hStride.1, ⟨hX, rfl⟩, rfl⟩, SimField.elementIndex,
        hLine.shape, hLine.strides]
      simp [SimField.xyIndices, elementIndexLoop, Nat.not_le.mpr hX]

end OnLine

end Line

/-! ### All layouts -/

section Layouts

variable {D : Type} {field : SimField D}

/-- An accepted layout without zero extents has one axis or a plane of them. -/
theorem LayoutAccepted.axes (hField : LayoutAccepted field) (hPos : 0 ∉ field.shape) :
    (∃ extent stride, OnLine field extent stride) ∨
      ∃ outer outerStrides extentX extentY strideX strideY,
        OnPlane field outer outerStrides extentX extentY strideX strideY := by
  have hSized := hField.sized
  have hStridesSized := hField.stridesSized
  have hLength := hField.strides
  have hRank := List.length_pos_iff.mpr hField.rank
  rcases Nat.lt_or_ge field.shape.length 2 with hLine | hPlane
  · left
    obtain ⟨extent, hShape⟩ := List.length_eq_one_iff.mp (by omega : field.shape.length = 1)
    obtain ⟨stride, hStrides⟩ := List.length_eq_one_iff.mp (by omega : field.strides.length = 1)
    rw [hShape] at hSized hPos
    rw [hStrides] at hStridesSized
    simp only [List.mem_singleton, forall_eq] at hSized hStridesSized hPos
    exact ⟨extent, stride, hField.initialized, hShape, hStrides, by omega, hSized, hStridesSized⟩
  · right
    obtain ⟨outer, extentY, extentX, hShape⟩ := exists_append_two hPlane
    obtain ⟨outerStrides, strideY, strideX, hStrides⟩ :=
      exists_append_two (by omega : 2 ≤ field.strides.length)
    rw [hShape] at hPos hLength
    rw [hStrides] at hStridesSized hLength
    simp only [List.mem_append, List.mem_cons, List.not_mem_nil, or_false, not_or] at hPos
    simp only [List.length_append, List.length_cons, List.length_nil] at hLength
    exact ⟨outer, outerStrides, extentX, extentY, strideX, strideY, hField.initialized, hShape,
      hStrides, by omega, hPos.1, by omega, by omega, hStridesSized strideX (by simp),
      hStridesSized strideY (by simp)⟩

/-- A field without elements has no indices and no points. -/
theorem roundTrip_of_zero (hZero : 0 ∈ field.shape) {indices : Set ℕ} (hNone : indices = ∅) :
    field.CoordinatesRoundTrip indices := by
  have hPoint : ∀ x y, ¬field.XyInRange x y := fun x y hRange =>
    not_inRange_of_zero hZero hRange.1
  constructor
  · intro index hIndex
    rw [hNone] at hIndex
    cases hIndex
  · intro x y hRange
    exact absurd hRange (hPoint x y)
  · intro x y hRange
    exact absurd hRange (hPoint x y)

/-- On which accepted layouts the coordinate conversions are inverse and agree with
element indices: on all linear indices, and on those of the first plane, where
the other axes are 0. -/
theorem coordinatesRoundTrip_iff (field : SimField D) (hField : AcceptedLayout field) :
    (field.CoordinatesRoundTrip {index | index < SimField.elementCount field.shape} ↔
      0 ∈ field.shape ∨ field.CoordinatesDense ∧
        SimField.elementCount field.shape = field.width * field.height) ∧
    (field.CoordinatesRoundTrip {index | 0 ∉ field.shape ∧ index < field.width * field.height} ↔
      0 ∈ field.shape ∨ field.CoordinatesDense ∧
        field.width * field.height ≤ SimField.elementCount field.shape) := by
  by_cases hZero : 0 ∈ field.shape
  · have hCount : SimField.elementCount field.shape = 0 := if_pos (.inr hZero)
    refine ⟨iff_of_true (roundTrip_of_zero hZero ?_) (.inl hZero),
      iff_of_true (roundTrip_of_zero hZero ?_) (.inl hZero)⟩
    · simp [hCount]
    · simp [hZero]
  · simp only [hZero, not_false_eq_true, true_and, false_or]
    rcases hField.accepted.axes hZero with ⟨extent, stride, hLine⟩ |
      ⟨outer, outerStrides, extentX, extentY, strideX, strideY, hPlane⟩
    · have hDense : field.CoordinatesDense ↔ stride ≠ 0 ∧ (stride = 1 ∨ extent = 1) := by
        simp only [SimField.CoordinatesDense, hLine.extents, hLine.shape, hLine.strides,
          Plane.Dense]
        simp
      rw [hLine.elementCount_eq, hLine.extents.1, hLine.extents.2, hDense, Nat.mul_one,
        hLine.roundTrip_iff]
      simp
    · have hDense : field.CoordinatesDense ↔
          (strideX ≠ 0 ∧ strideY ≠ 0) ∧ Plane.Dense extentX extentY strideX strideY := by
        simp only [SimField.CoordinatesDense, hPlane.extents, hPlane.strideAt,
          hPlane.rank_ne_one, false_or, and_assoc]
      rw [hPlane.extents.1, hPlane.extents.2, hDense, hPlane.roundTrip_iff]
      refine ⟨?_, Iff.rfl⟩
      constructor
      · intro hRound
        have hCount := hPlane.count_of_roundTrip hRound
        rw [hCount] at hRound
        exact ⟨(hPlane.roundTrip_iff.mp hRound).1, hCount⟩
      · intro hBoth
        rw [hBoth.2]
        exact hPlane.roundTrip_iff.mpr ⟨hBoth.1, hBoth.2.ge⟩

/-- A field of two rows of two elements, which lie four elements apart. -/
def paddedField : SimField ℤ :=
  SimField.ofElementSize ⟨[2, 2], [4, 1], false⟩ 8 (.lanes fun k => k)

theorem paddedField_accepted : AcceptedLayout paddedField :=
  .wrap ⟨fun _ => true⟩ ⟨[2, 2], [4, 1], false⟩ 8 (.lanes fun k => k) (by decide) (by decide)
    (by decide) rfl

theorem coordinatesRoundTrip_iff_padded :
    paddedField.CoordinatesRoundTrip {index | index < SimField.elementCount [2, 2]} ↔
      0 ∈ paddedField.shape ∨ paddedField.CoordinatesDense ∧
        SimField.elementCount [2, 2] = paddedField.width * paddedField.height :=
  (coordinatesRoundTrip_iff paddedField paddedField_accepted).1

/-- The last element of the padded field is at 5, which is no linear index of it, and
linear index 2 reads as the origin. -/
theorem paddedField_not_roundTrip :
    AcceptedLayout paddedField ∧
      ¬paddedField.CoordinatesRoundTrip {index | index < SimField.elementCount [2, 2]} := by
  refine ⟨paddedField_accepted, ?_⟩
  intro hRound
  obtain ⟨x, y, hPoint, hBack⟩ := hRound.index 2 (by decide)
  have hOrigin : paddedField.indexToXy 2 = .ok (0, 0) := by decide
  cases hOrigin.symm.trans hPoint
  exact absurd hBack (by decide)

end Layouts

end Oakfield
