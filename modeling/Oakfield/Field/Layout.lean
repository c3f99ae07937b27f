import Oakfield.Field.Init
import Oakfield.Library.MixedRadix
import Mathlib.Tactic.NormNum

/-! Addresses of the elements of a created field. Counts, strides and offsets are
products in `size_t`, and only the byte count is checked for overflow. -/
namespace Oakfield

open Library

/-- The loop of `sim_field_element_index` over axes, each with its extent and stride. -/
def elementIndexLoop : List ℕ → List ℕ → List ℕ → ℕ → Except SimError ℕ
  | index :: indices, extent :: shape, stride :: strides, offset =>
      if extent ≤ index then .error .invalidArgument
      else elementIndexLoop indices shape strides ((offset + index * stride) % 2 ^ 64)
  | _, _, _, offset => .ok offset

namespace SimField

variable {D : Type}

/-- `sim_field_element_index`. -/
def elementIndex (field : SimField D) (indices : List ℕ) : Except SimError ℕ :=
  if indices.length ≠ field.shape.length ∨ field.shape = [] then .error .invalidArgument
  else elementIndexLoop indices field.shape field.strides 0

/-- `sim_field_index_offset`. -/
def indexOffset (field : SimField D) (indices : List ℕ) : Except SimError ℕ :=
  match field.elementIndex indices with
  | .error failure => .error failure
  | .ok index => .ok (index * field.elementSize % 2 ^ 64)

/-- Element count, addresses and byte offsets of a field are the ones of its
shape in unbounded arithmetic, and its elements lie inside the buffer. -/
structure LayoutSound (field : SimField D) : Prop where
  count : elementCount field.shape = field.shape.prod
  valid : ∀ indices, (∃ k, field.elementIndex indices = .ok k) ↔
    MixedRadix.InRange indices field.shape
  address : Set.BijOn field.elementIndex {indices | MixedRadix.InRange indices field.shape}
    {k | ∃ i < elementCount field.shape, k = .ok i}
  bytes : ∀ indices k, field.elementIndex indices = .ok k →
    field.indexOffset indices = .ok (k * field.elementSize) ∧
      k * field.elementSize + field.elementSize ≤ field.bytes

end SimField

/-! ### Products which fit -/

theorem foldl_mul_mod (shape : List ℕ) (n : ℕ) (hLt : n < 2 ^ 64) :
    shape.foldl (fun n extent => n * extent % 2 ^ 64) n = n * shape.prod % 2 ^ 64 := by
  induction shape generalizing n with
  | nil =>
      rw [List.foldl_nil, List.prod_nil, Nat.mul_one, Nat.mod_eq_of_lt hLt]
  | cons extent shape ih =>
      rw [List.foldl_cons, ih _ (Nat.mod_lt _ (by norm_num)), List.prod_cons, Nat.mod_mul_mod,
        Nat.mul_assoc]

/-- Without zero extents the count is the product, reduced to a `size_t`. -/
theorem elementCount_eq_prod_mod {shape : List ℕ} (hRank : shape ≠ []) :
    SimField.elementCount shape = shape.prod % 2 ^ 64 := by
  rw [SimField.elementCount]
  by_cases hZero : 0 ∈ shape
  · rw [if_pos (Or.inr hZero), List.prod_eq_zero hZero]
    rfl
  · rw [if_neg (by simp [hRank, hZero]), foldl_mul_mod shape 1 (by norm_num), Nat.one_mul]

theorem zero_notMem_of_elementCount {shape : List ℕ} (hCount : SimField.elementCount shape ≠ 0) :
    0 ∉ shape := by
  intro hZero
  apply hCount
  rw [SimField.elementCount, if_pos (Or.inr hZero)]

/-- The stride loop computes the row-major weights when the product fits. -/
theorem layoutStrides_eq {shape : List ℕ} (hPos : 0 ∉ shape) (hFits : shape.prod < 2 ^ 64) :
    layoutStrides shape = (MixedRadix.strides shape, shape.prod) := by
  induction shape with
  | nil => rfl
  | cons extent shape ih =>
      rw [List.mem_cons, not_or] at hPos
      have hExtent : 0 < extent := Nat.pos_of_ne_zero (Ne.symm hPos.1)
      rw [List.prod_cons] at hFits
      have hTail : shape.prod < 2 ^ 64 :=
        Nat.lt_of_le_of_lt (Nat.le_mul_of_pos_left _ hExtent) hFits
      rw [layoutStrides, ih hPos.2 hTail]
      dsimp only
      rw [if_pos hExtent, Nat.mul_comm, Nat.mod_eq_of_lt hFits]
      rfl

/-- The index loop adds up the address, as long as it stays below the bound. -/
theorem elementIndexLoop_eq {indices shape : List ℕ} (hRange : MixedRadix.InRange indices shape)
    (strides : List ℕ) (hLength : strides.length = shape.length) (offset : ℕ)
    (hFits : offset + MixedRadix.address indices strides < 2 ^ 64) :
    elementIndexLoop indices shape strides offset =
      .ok (offset + MixedRadix.address indices strides) := by
  induction hRange generalizing strides offset with
  | nil => simp [elementIndexLoop, MixedRadix.address]
  | @cons index extent indices shape hLt hRest ih =>
      cases strides with
      | nil => simp at hLength
      | cons stride strides =>
          rw [MixedRadix.address_cons] at hFits ⊢
          have hStep : (offset + index * stride) % 2 ^ 64 = offset + index * stride :=
            Nat.mod_eq_of_lt (by omega)
          rw [elementIndexLoop, if_neg (by omega), hStep,
            ih strides (by simpa using hLength) _ (by omega), Nat.add_assoc]

theorem inRange_of_elementIndexLoop {indices shape strides : List ℕ} {offset k : ℕ}
    (hIndices : indices.length = shape.length) (hStrides : strides.length = shape.length)
    (hRun : elementIndexLoop indices shape strides offset = .ok k) :
    MixedRadix.InRange indices shape := by
  induction shape generalizing indices strides offset with
  | nil =>
      rw [List.eq_nil_of_length_eq_zero hIndices]
      exact List.Forall₂.nil
  | cons extent shape ih =>
      cases indices with
      | nil => simp at hIndices
      | cons index indices =>
          cases strides with
          | nil => simp at hStrides
          | cons stride strides =>
              rw [elementIndexLoop] at hRun
              split at hRun
              case isTrue => cases hRun
              case isFalse hLt =>
                exact List.Forall₂.cons (by omega)
                  (ih (by simpa using hIndices) (by simpa using hStrides) hRun)

/-! ### Created fields -/

section Created

variable {D : Type} {heap : Heap} {shape : List ℕ} {elementSize : ℕ}
variable {allocator : Option SimFieldAllocator} {field : SimField D}

theorem elementIndex_eq_address (hRank : shape ≠ []) (hPos : 0 ∉ shape)
    (hFits : shape.prod < 2 ^ 64) (hShape : field.shape = shape)
    (hStrides : field.strides = (layoutStrides shape).1) {indices : List ℕ}
    (hRange : MixedRadix.InRange indices shape) :
    field.elementIndex indices =
      .ok (MixedRadix.address indices (MixedRadix.strides shape)) := by
  have hBelow := MixedRadix.address_lt hRange
  rw [SimField.elementIndex, hShape, hStrides, layoutStrides_eq hPos hFits,
    if_neg (by simp [hRank, List.Forall₂.length_eq hRange]),
    elementIndexLoop_eq hRange _ (MixedRadix.length_strides shape) 0 (by omega), Nat.zero_add]

theorem inRange_of_elementIndex (hStrides : field.strides.length = field.shape.length)
    {indices : List ℕ} {k : ℕ} (hIndex : field.elementIndex indices = .ok k) :
    MixedRadix.InRange indices field.shape := by
  rw [SimField.elementIndex] at hIndex
  split at hIndex
  case isTrue => cases hIndex
  case isFalse hRank =>
    rw [not_or, not_not] at hRank
    exact inRange_of_elementIndexLoop hRank.1 hStrides hIndex

/-- Row-major strides address a shape correctly when its elements and its bytes
can be counted. -/
theorem layoutSound_of_fits (hRank : shape ≠ []) (hPos : 0 ∉ shape)
    (hFits : shape.prod < 2 ^ 64) (hBytes : shape.prod * elementSize < 2 ^ 64)
    (hInit : field.initialized = true) (hShape : field.shape = shape)
    (hStrides : field.strides = (layoutStrides shape).1)
    (hElement : field.elementSize = elementSize) : field.LayoutSound := by
  have hCount : SimField.elementCount shape = shape.prod := by
    rw [elementCount_eq_prod_mod hRank, Nat.mod_eq_of_lt hFits]
  have hLength : field.strides.length = field.shape.length := by
    rw [hStrides, hShape, layoutStrides_eq hPos hFits, MixedRadix.length_strides]
  have hIndex : ∀ {indices}, MixedRadix.InRange indices shape → field.elementIndex indices =
      .ok (MixedRadix.address indices (MixedRadix.strides shape)) :=
    fun hRange => elementIndex_eq_address hRank hPos hFits hShape hStrides hRange
  constructor
  case count => rw [hShape, hCount]
  case valid =>
    intro indices
    constructor
    · rintro ⟨k, hRun⟩
      exact inRange_of_elementIndex hLength hRun
    · intro hRange
      rw [hShape] at hRange
      exact ⟨_, hIndex hRange⟩
  case address =>
    rw [hShape, hCount]
    have hAddress := MixedRadix.bijOn_address hPos
    refine ⟨?_, ?_, ?_⟩
    · intro indices hRange
      exact ⟨_, hAddress.mapsTo hRange, hIndex hRange⟩
    · intro indices hRange other hOther hEq
      apply hAddress.injOn hRange hOther
      rw [hIndex hRange, hIndex hOther] at hEq
      exact Except.ok.inj hEq
    · rintro _ ⟨k, hLt, rfl⟩
      obtain ⟨indices, hRange, hEq⟩ := hAddress.surjOn hLt
      exact ⟨indices, hRange, (hIndex hRange).trans (congrArg _ hEq)⟩
  case bytes =>
    intro indices k hRun
    have hRange : MixedRadix.InRange indices shape := hShape ▸ inRange_of_elementIndex hLength hRun
    have hLt : k < shape.prod := by
      rw [hIndex hRange] at hRun
      exact Except.ok.inj hRun ▸ MixedRadix.address_lt hRange
    have hEnd : k * elementSize + elementSize ≤ shape.prod * elementSize := by
      rw [← Nat.succ_mul]
      exact Nat.mul_le_mul_right _ hLt
    constructor
    · rw [SimField.indexOffset, hRun, hElement]
      dsimp only
      rw [Nat.mod_eq_of_lt (by omega)]
    · rw [SimField.bytes, hInit, hShape, hElement, hCount, Nat.mod_eq_of_lt hBytes]
      exact hEnd

/-- A created field addresses its elements correctly exactly when the number
of elements in its shape fits in a `size_t`. -/
theorem simFieldInit_layoutSound_iff
    (hRun : simFieldInit heap shape elementSize allocator = .ok field) :
    field.LayoutSound ↔ shape.prod < 2 ^ 64 := by
  obtain ⟨hSize, hRank, hCount, hBytes, rfl⟩ := simFieldInit_ok hRun
  have hProd := elementCount_eq_prod_mod hRank
  constructor
  · intro hSound
    have hEq : SimField.elementCount shape = shape.prod := hSound.count
    rw [← hEq, hProd]
    exact Nat.mod_lt _ (by norm_num)
  · intro hFits
    rw [hProd, Nat.mod_eq_of_lt hFits, Nat.le_div_iff_mul_le (Nat.pos_of_ne_zero hSize)] at hBytes
    exact layoutSound_of_fits hRank (zero_notMem_of_elementCount hCount) hFits
      (Nat.lt_of_le_of_lt hBytes (by norm_num)) rfl rfl rfl rfl

theorem simFieldInit_layoutSound_iff_matrix :
    ∃ field : SimField ℤ, simFieldInit ⟨fun _ => true⟩ [2, 3] 8 none = .ok field ∧
      (field.LayoutSound ↔ [2, 3].prod < 2 ^ 64) :=
  ⟨_, rfl, simFieldInit_layoutSound_iff
    (show simFieldInit ⟨fun _ => true⟩ [2, 3] 8 none = .ok _ from rfl)⟩

/-- The product of the two extents is `2 * 2 ^ 64 + 1`: one element is allocated. -/
theorem simFieldInit_wrappedShape :
    ∃ field : SimField ℤ,
      simFieldInit ⟨fun _ => true⟩ [3, 0xAAAAAAAAAAAAAAAB] 8 none = .ok field ∧
        SimField.elementCount field.shape = 1 ∧ ¬field.LayoutSound := by
  refine ⟨_, rfl, by decide, ?_⟩
  intro hSound
  have hCount := hSound.count
  revert hCount
  decide

end Created

end Oakfield
