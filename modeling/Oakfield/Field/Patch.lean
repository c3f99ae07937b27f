import Oakfield.Result
import Mathlib.Algebra.Order.Floor.Ring
import Mathlib.Data.Rat.Floor
import Mathlib.Data.Set.Basic
import Mathlib.Tactic.Linarith
import Mathlib.Tactic.NormNum

/-! Field patches (`field_patch.c`): non-empty rectangles in the fastest two
axes of a field, their intersection, and patches of normalized regions. Finite
doubles are their rational values, in exact arithmetic. -/
namespace Oakfield

/-- The `SIM_FIELD_PATCH_FLAG_*` bits. -/
structure SimFieldPatchFlags where
  coversFullRows : Bool
  isFullField : Bool
  touchesBoundary : Bool
deriving DecidableEq, Repr

structure SimFieldPatch where
  x0 : ℕ
  y0 : ℕ
  width : ℕ
  height : ℕ
  fieldWidth : ℕ
  fieldHeight : ℕ
  flags : SimFieldPatchFlags
deriving DecidableEq, Repr

/-- `sim_field_patch_compute_flags`. -/
def simFieldPatchComputeFlags (fieldWidth fieldHeight x0 y0 width height : ℕ) :
    SimFieldPatchFlags :=
  let fullRows := decide (x0 = 0 ∧ width = fieldWidth)
  { coversFullRows := fullRows
    isFullField := fullRows && decide (y0 = 0 ∧ height = fieldHeight)
    touchesBoundary := decide (x0 = 0 ∨ y0 = 0 ∨ (x0 + width) % 2 ^ 64 = fieldWidth ∨
      (y0 + height) % 2 ^ 64 = fieldHeight) }

/-- `sim_field_patch_from_xywh`. -/
def simFieldPatchFromXywh (fieldWidth fieldHeight x0 y0 width height : ℕ) :
    Except SimError SimFieldPatch :=
  if fieldWidth = 0 ∨ fieldHeight = 0 ∨ width = 0 ∨ height = 0 ∨ fieldWidth ≤ x0 ∨
      fieldHeight ≤ y0 ∨ fieldWidth - x0 < width ∨ fieldHeight - y0 < height then
    .error .invalidArgument
  else
    .ok ⟨x0, y0, width, height, fieldWidth, fieldHeight,
      simFieldPatchComputeFlags fieldWidth fieldHeight x0 y0 width height⟩

/-- `sim_field_patch_full`. -/
def simFieldPatchFull (fieldWidth fieldHeight : ℕ) : Except SimError SimFieldPatch :=
  simFieldPatchFromXywh fieldWidth fieldHeight 0 0 fieldWidth fieldHeight

namespace SimFieldPatch

/-- `sim_field_patch_is_valid`. -/
def isValid (patch : SimFieldPatch) : Bool :=
  if patch.fieldWidth = 0 ∨ patch.fieldHeight = 0 ∨ patch.width = 0 ∨ patch.height = 0 then false
  else if patch.fieldWidth ≤ patch.x0 ∨ patch.fieldHeight ≤ patch.y0 then false
  else if patch.fieldWidth - patch.x0 < patch.width ∨
      patch.fieldHeight - patch.y0 < patch.height then false
  else true

/-- The right and the bottom edge, additions in `size_t`. -/
def right (patch : SimFieldPatch) : ℕ := (patch.x0 + patch.width) % 2 ^ 64

def bottom (patch : SimFieldPatch) : ℕ := (patch.y0 + patch.height) % 2 ^ 64

/-- The cells of a patch. -/
def cells (patch : SimFieldPatch) : Set (ℕ × ℕ) :=
  {cell | (patch.x0 ≤ cell.1 ∧ cell.1 < patch.x0 + patch.width) ∧
    patch.y0 ≤ cell.2 ∧ cell.2 < patch.y0 + patch.height}

/-- The grid of the patch has `size_t` extents. -/
def Sized (patch : SimFieldPatch) : Prop := patch.fieldWidth < 2 ^ 64 ∧ patch.fieldHeight < 2 ^ 64

/-- Two patches of one grid. -/
def SameGrid (lhs rhs : SimFieldPatch) : Prop :=
  lhs.fieldWidth = rhs.fieldWidth ∧ lhs.fieldHeight = rhs.fieldHeight

end SimFieldPatch

/-! ### Intersection -/

/-- The shared part of two patches, as origin and opposite corner. -/
def simFieldPatchOverlap (lhs rhs : SimFieldPatch) : ℕ × ℕ × ℕ × ℕ :=
  (if rhs.x0 < lhs.x0 then lhs.x0 else rhs.x0,
    if rhs.y0 < lhs.y0 then lhs.y0 else rhs.y0,
    if lhs.right < rhs.right then lhs.right else rhs.right,
    if lhs.bottom < rhs.bottom then lhs.bottom else rhs.bottom)

/-- `sim_field_patch_intersect` without an output patch. -/
def simFieldPatchIntersects (lhs rhs : SimFieldPatch) : Bool :=
  if !lhs.isValid || !rhs.isValid || decide (lhs.fieldWidth ≠ rhs.fieldWidth) ||
      decide (lhs.fieldHeight ≠ rhs.fieldHeight) then false
  else
    let (x0, y0, x1, y1) := simFieldPatchOverlap lhs rhs
    if x1 ≤ x0 ∨ y1 ≤ y0 then false else true

/-- `sim_field_patch_intersect`; a result is the written patch. -/
def simFieldPatchIntersect (lhs rhs : SimFieldPatch) : Option SimFieldPatch :=
  if !lhs.isValid || !rhs.isValid || decide (lhs.fieldWidth ≠ rhs.fieldWidth) ||
      decide (lhs.fieldHeight ≠ rhs.fieldHeight) then none
  else
    let (x0, y0, x1, y1) := simFieldPatchOverlap lhs rhs
    if x1 ≤ x0 ∨ y1 ≤ y0 then none
    else
      match simFieldPatchFromXywh lhs.fieldWidth lhs.fieldHeight x0 y0 (x1 - x0) (y1 - y0) with
      | .error _ => none
      | .ok patch => some patch

/-! ### Normalized regions -/

/-- `sim_field_patch_clampd`. -/
def simFieldPatchClampd (value minValue maxValue : ℚ) : ℚ :=
  if value < minValue then minValue else if maxValue < value then maxValue else value

/-- First and end index of a clamped range along an axis, after all fixups. -/
def simFieldPatchRange (extent : ℕ) (lower upper : ℚ) : ℕ × ℕ :=
  let first := ⌊lower * extent⌋.toNat
  let last := ⌈upper * extent⌉.toNat
  let first := if extent ≤ first then extent - 1 else first
  let last := if last = 0 then 1 else last
  let last := if extent < last then extent else last
  (first, if last ≤ first then first + 1 else last)

/-- `sim_field_patch_from_normalized_region`; `none` is an infinity or not a number. -/
def simFieldPatchFromNormalizedRegion (fieldWidth fieldHeight : ℕ)
    (minX minY maxX maxY : Option ℚ) : Except SimError SimFieldPatch :=
  match minX, minY, maxX, maxY with
  | some minX, some minY, some maxX, some maxY =>
      if fieldWidth = 0 ∨ fieldHeight = 0 then .error .invalidArgument
      else
        let minX := simFieldPatchClampd minX 0 1
        let minY := simFieldPatchClampd minY 0 1
        let maxX := simFieldPatchClampd maxX 0 1
        let maxY := simFieldPatchClampd maxY 0 1
        if ¬minX < maxX ∨ ¬minY < maxY then .error .invalidArgument
        else
          let (x0, x1) := simFieldPatchRange fieldWidth minX maxX
          let (y0, y1) := simFieldPatchRange fieldHeight minY maxY
          if fieldWidth < x1 ∨ fieldHeight < y1 then .error .invalidArgument
          else simFieldPatchFromXywh fieldWidth fieldHeight x0 y0 (x1 - x0) (y1 - y0)
  | _, _, _, _ => .error .invalidArgument

/-! ### Valid patches -/

namespace SimFieldPatch

theorem isValid_iff {patch : SimFieldPatch} :
    patch.isValid = true ↔
      (0 < patch.width ∧ patch.x0 + patch.width ≤ patch.fieldWidth) ∧
        0 < patch.height ∧ patch.y0 + patch.height ≤ patch.fieldHeight := by
  rw [isValid]
  split_ifs <;> simp <;> omega

theorem right_eq {patch : SimFieldPatch} (hSized : patch.Sized) (hValid : patch.isValid = true) :
    patch.right = patch.x0 + patch.width := by
  rw [isValid_iff] at hValid
  exact Nat.mod_eq_of_lt (Nat.lt_of_le_of_lt hValid.1.2 hSized.1)

theorem bottom_eq {patch : SimFieldPatch} (hSized : patch.Sized) (hValid : patch.isValid = true) :
    patch.bottom = patch.y0 + patch.height := by
  rw [isValid_iff] at hValid
  exact Nat.mod_eq_of_lt (Nat.lt_of_le_of_lt hValid.2.2 hSized.2)

end SimFieldPatch

/-- A patch is made exactly when the rectangle is not empty and lies in the grid. -/
theorem simFieldPatchFromXywh_eq {fieldWidth fieldHeight x0 y0 width height : ℕ}
    (hWidth : 0 < width) (hRight : x0 + width ≤ fieldWidth) (hHeight : 0 < height)
    (hBottom : y0 + height ≤ fieldHeight) :
    simFieldPatchFromXywh fieldWidth fieldHeight x0 y0 width height =
      .ok ⟨x0, y0, width, height, fieldWidth, fieldHeight,
        simFieldPatchComputeFlags fieldWidth fieldHeight x0 y0 width height⟩ := by
  rw [simFieldPatchFromXywh, if_neg]
  omega

theorem simFieldPatchFromXywh_ok {fieldWidth fieldHeight x0 y0 width height : ℕ}
    {patch : SimFieldPatch}
    (hPatch : simFieldPatchFromXywh fieldWidth fieldHeight x0 y0 width height = .ok patch) :
    patch = ⟨x0, y0, width, height, fieldWidth, fieldHeight,
        simFieldPatchComputeFlags fieldWidth fieldHeight x0 y0 width height⟩ ∧
      patch.isValid = true := by
  rw [simFieldPatchFromXywh] at hPatch
  split_ifs at hPatch with hBad
  cases hPatch
  rw [SimFieldPatch.isValid_iff]
  dsimp only
  exact ⟨rfl, by omega⟩

/-! ### Cells decide a patch -/

section Cells

variable {patch other lhs rhs : SimFieldPatch}

theorem SimFieldPatch.origin_mem_cells (hValid : patch.isValid = true) :
    (patch.x0, patch.y0) ∈ patch.cells := by
  rw [SimFieldPatch.isValid_iff] at hValid
  show (_ ∧ _) ∧ _ ∧ _
  omega

theorem SimFieldPatch.corner_mem_cells (hValid : patch.isValid = true) :
    (patch.x0 + patch.width - 1, patch.y0 + patch.height - 1) ∈ patch.cells := by
  rw [SimFieldPatch.isValid_iff] at hValid
  show (_ ∧ _) ∧ _ ∧ _
  omega

/-- Patches with the same cells have the same rectangle. -/
theorem SimFieldPatch.rectangle_eq (hValid : patch.isValid = true) (hOther : other.isValid = true)
    (hCells : patch.cells = other.cells) :
    patch.x0 = other.x0 ∧ patch.y0 = other.y0 ∧ patch.width = other.width ∧
      patch.height = other.height := by
  have hOrigin : (patch.x0, patch.y0) ∈ other.cells := hCells ▸ origin_mem_cells hValid
  have hCorner : _ ∈ other.cells := hCells ▸ corner_mem_cells hValid
  have hOtherOrigin : (other.x0, other.y0) ∈ patch.cells := hCells ▸ origin_mem_cells hOther
  have hOtherCorner : _ ∈ patch.cells := hCells ▸ corner_mem_cells hOther
  rw [isValid_iff] at hValid hOther
  simp only [cells, Set.mem_ofPred_eq] at hOrigin hCorner hOtherOrigin hOtherCorner
  omega

/-- A patch with the flags of its rectangle. -/
def SimFieldPatch.Flagged (patch : SimFieldPatch) : Prop :=
  patch.flags = simFieldPatchComputeFlags patch.fieldWidth patch.fieldHeight patch.x0 patch.y0
    patch.width patch.height

theorem SimFieldPatch.eq_of_cells (hValid : patch.isValid = true) (hOther : other.isValid = true)
    (hGrid : patch.SameGrid other) (hFlags : patch.Flagged) (hOtherFlags : other.Flagged)
    (hCells : patch.cells = other.cells) : patch = other := by
  obtain ⟨hX, hY, hWidth, hHeight⟩ := rectangle_eq hValid hOther hCells
  obtain ⟨hGridX, hGridY⟩ := hGrid
  obtain ⟨x0, y0, width, height, fieldWidth, fieldHeight, flags⟩ := patch
  obtain ⟨x0', y0', width', height', fieldWidth', fieldHeight', flags'⟩ := other
  subst hX hY hWidth hHeight hGridX hGridY
  have hSame : flags = flags' := hFlags.trans hOtherFlags.symm
  rw [hSame]

/-! ### Intersections -/

theorem simFieldPatchOverlap_eq (hLhs : lhs.isValid = true) (hRhs : rhs.isValid = true)
    (hSized : lhs.Sized) (hGrid : lhs.SameGrid rhs) :
    simFieldPatchOverlap lhs rhs = (max lhs.x0 rhs.x0, max lhs.y0 rhs.y0,
      min (lhs.x0 + lhs.width) (rhs.x0 + rhs.width),
      min (lhs.y0 + lhs.height) (rhs.y0 + rhs.height)) := by
  have hRhsSized : rhs.Sized := ⟨hGrid.1 ▸ hSized.1, hGrid.2 ▸ hSized.2⟩
  rw [simFieldPatchOverlap, SimFieldPatch.right_eq hSized hLhs,
    SimFieldPatch.right_eq hRhsSized hRhs,
    SimFieldPatch.bottom_eq hSized hLhs, SimFieldPatch.bottom_eq hRhsSized hRhs]
  simp only [Prod.mk.injEq]
  split_ifs <;> omega

/-- Two patches of a grid meet where their ranges do on both axes. -/
theorem cells_inter_nonempty_iff (lhs rhs : SimFieldPatch) :
    (lhs.cells ∩ rhs.cells).Nonempty ↔
      max lhs.x0 rhs.x0 < min (lhs.x0 + lhs.width) (rhs.x0 + rhs.width) ∧
        max lhs.y0 rhs.y0 < min (lhs.y0 + lhs.height) (rhs.y0 + rhs.height) := by
  constructor
  · rintro ⟨cell, hCell, hOther⟩
    simp only [SimFieldPatch.cells, Set.mem_ofPred_eq] at hCell hOther
    omega
  · intro hRange
    refine ⟨(max lhs.x0 rhs.x0, max lhs.y0 rhs.y0), ?_, ?_⟩
    · show (_ ∧ _) ∧ _ ∧ _
      omega
    · show (_ ∧ _) ∧ _ ∧ _
      omega

/-- The rectangle between two corners, in the grid of a patch. -/
def SimFieldPatch.between (patch : SimFieldPatch) (x0 y0 x1 y1 : ℕ) : SimFieldPatch :=
  ⟨x0, y0, x1 - x0, y1 - y0, patch.fieldWidth, patch.fieldHeight,
    simFieldPatchComputeFlags patch.fieldWidth patch.fieldHeight x0 y0 (x1 - x0) (y1 - y0)⟩

/-- Both forms of the call, in edges which did not wrap. -/
theorem simFieldPatchIntersect_eq (hLhs : lhs.isValid = true) (hRhs : rhs.isValid = true)
    (hSized : lhs.Sized) (hGrid : lhs.SameGrid rhs) :
    simFieldPatchIntersect lhs rhs =
        (if max lhs.x0 rhs.x0 < min (lhs.x0 + lhs.width) (rhs.x0 + rhs.width) ∧
            max lhs.y0 rhs.y0 < min (lhs.y0 + lhs.height) (rhs.y0 + rhs.height) then
          some (lhs.between (max lhs.x0 rhs.x0) (max lhs.y0 rhs.y0)
            (min (lhs.x0 + lhs.width) (rhs.x0 + rhs.width))
            (min (lhs.y0 + lhs.height) (rhs.y0 + rhs.height)))
        else none) ∧
      simFieldPatchIntersects lhs rhs = (simFieldPatchIntersect lhs rhs).isSome := by
  have hRange := SimFieldPatch.isValid_iff.mp hLhs
  rw [simFieldPatchIntersects, simFieldPatchIntersect,
    simFieldPatchOverlap_eq hLhs hRhs hSized hGrid,
    hLhs, hRhs, decide_eq_false (by simp [hGrid.1]), decide_eq_false (by simp [hGrid.2])]
  simp only [Bool.not_true, Bool.or_self, Bool.false_eq_true, if_false]
  split_ifs with hEmpty hMeet hMeet
  · omega
  · exact ⟨rfl, rfl⟩
  · rw [simFieldPatchFromXywh_eq (by omega) (by omega) (by omega) (by omega)]
    exact ⟨rfl, rfl⟩
  · omega

theorem simFieldPatchIntersect_some (hLhs : lhs.isValid = true) (hRhs : rhs.isValid = true)
    (hSized : lhs.Sized) (hGrid : lhs.SameGrid rhs) (hMeet : (lhs.cells ∩ rhs.cells).Nonempty) :
    ∃ patch, simFieldPatchIntersect lhs rhs = some patch ∧ patch.isValid = true ∧
      patch.SameGrid lhs ∧ patch.Flagged ∧ patch.cells = lhs.cells ∩ rhs.cells := by
  have hRange := (cells_inter_nonempty_iff lhs rhs).mp hMeet
  have hLhsRange := SimFieldPatch.isValid_iff.mp hLhs
  rw [(simFieldPatchIntersect_eq hLhs hRhs hSized hGrid).1, if_pos hRange]
  refine ⟨_, rfl, ?_, ⟨rfl, rfl⟩, rfl, ?_⟩
  · simp only [SimFieldPatch.isValid_iff, SimFieldPatch.between]
    omega
  · ext cell
    simp only [SimFieldPatch.cells, SimFieldPatch.between, Set.mem_inter_iff, Set.mem_ofPred_eq]
    omega

theorem simFieldPatchIntersect_none (hLhs : lhs.isValid = true) (hRhs : rhs.isValid = true)
    (hSized : lhs.Sized) (hGrid : lhs.SameGrid rhs) (hApart : ¬(lhs.cells ∩ rhs.cells).Nonempty) :
    simFieldPatchIntersect lhs rhs = none := by
  rw [cells_inter_nonempty_iff lhs rhs] at hApart
  rw [(simFieldPatchIntersect_eq hLhs hRhs hSized hGrid).1, if_neg hApart]

/-- Intersection of patches is intersection of cells. -/
structure IntersectionSound (lhs rhs : SimFieldPatch) : Prop where
  query : simFieldPatchIntersects lhs rhs = (simFieldPatchIntersect lhs rhs).isSome
  none_iff : simFieldPatchIntersect lhs rhs = none ↔ lhs.cells ∩ rhs.cells = ∅
  some_cells : ∀ patch, simFieldPatchIntersect lhs rhs = some patch →
    patch.isValid = true ∧ patch.SameGrid lhs ∧ patch.cells = lhs.cells ∩ rhs.cells
  exact : lhs.right = lhs.x0 + lhs.width ∧ lhs.bottom = lhs.y0 + lhs.height
  comm : simFieldPatchIntersect lhs rhs = simFieldPatchIntersect rhs lhs

theorem simFieldPatchIntersect_sound (hLhs : lhs.isValid = true) (hRhs : rhs.isValid = true)
    (hSized : lhs.Sized) (hGrid : lhs.SameGrid rhs) : IntersectionSound lhs rhs where
  query := (simFieldPatchIntersect_eq hLhs hRhs hSized hGrid).2
  none_iff := by
    rw [← Set.not_nonempty_iff_eq_empty]
    constructor
    · intro hNone hMeet
      obtain ⟨patch, hSome, _⟩ := simFieldPatchIntersect_some hLhs hRhs hSized hGrid hMeet
      exact absurd (hSome.symm.trans hNone) (by simp)
    · exact simFieldPatchIntersect_none hLhs hRhs hSized hGrid
  some_cells := by
    intro patch hPatch
    by_cases hMeet : (lhs.cells ∩ rhs.cells).Nonempty
    · obtain ⟨made, hSome, hValid, hMadeGrid, _, hCells⟩ :=
        simFieldPatchIntersect_some hLhs hRhs hSized hGrid hMeet
      cases hSome.symm.trans hPatch
      exact ⟨hValid, hMadeGrid, hCells⟩
    · cases (simFieldPatchIntersect_none hLhs hRhs hSized hGrid hMeet).symm.trans hPatch
  exact := ⟨SimFieldPatch.right_eq hSized hLhs, SimFieldPatch.bottom_eq hSized hLhs⟩
  comm := by
    have hRhsSized : rhs.Sized := ⟨hGrid.1 ▸ hSized.1, hGrid.2 ▸ hSized.2⟩
    rw [(simFieldPatchIntersect_eq hLhs hRhs hSized hGrid).1,
      (simFieldPatchIntersect_eq hRhs hLhs hRhsSized ⟨hGrid.1.symm, hGrid.2.symm⟩).1,
      SimFieldPatch.between, SimFieldPatch.between, hGrid.1, hGrid.2, max_comm lhs.x0,
      max_comm lhs.y0, min_comm (lhs.x0 + lhs.width), min_comm (lhs.y0 + lhs.height)]

/-- A patch meets itself in all of its cells. -/
theorem simFieldPatchIntersect_self (hValid : patch.isValid = true) (hSized : patch.Sized) :
    ∃ same, simFieldPatchIntersect patch patch = some same ∧ same.cells = patch.cells := by
  have hMeet : (patch.cells ∩ patch.cells).Nonempty :=
    ⟨_, patch.origin_mem_cells hValid, patch.origin_mem_cells hValid⟩
  obtain ⟨same, hSome, _, _, _, hCells⟩ :=
    simFieldPatchIntersect_some hValid hValid hSized ⟨rfl, rfl⟩ hMeet
  exact ⟨same, hSome, hCells.trans (Set.inter_self _)⟩

/-- A third patch meets an intersection in the cells of all three. -/
theorem simFieldPatchIntersect_bind {third : SimFieldPatch} (hLhs : lhs.isValid = true)
    (hRhs : rhs.isValid = true) (hThird : third.isValid = true) (hSized : lhs.Sized)
    (hGrid : lhs.SameGrid rhs) (hThirdGrid : lhs.SameGrid third) :
    (∃ patch, (simFieldPatchIntersect lhs rhs).bind (simFieldPatchIntersect · third) = some patch ∧
        patch.isValid = true ∧ patch.SameGrid lhs ∧ patch.Flagged ∧
        patch.cells = lhs.cells ∩ rhs.cells ∩ third.cells) ∨
      (simFieldPatchIntersect lhs rhs).bind (simFieldPatchIntersect · third) = none ∧
        ¬(lhs.cells ∩ rhs.cells ∩ third.cells).Nonempty := by
  by_cases hMeet : (lhs.cells ∩ rhs.cells).Nonempty
  · obtain ⟨both, hSome, hValid, hBoth, _, hCells⟩ :=
      simFieldPatchIntersect_some hLhs hRhs hSized hGrid hMeet
    have hBothSized : both.Sized := ⟨hBoth.1 ▸ hSized.1, hBoth.2 ▸ hSized.2⟩
    have hBothThird : both.SameGrid third :=
      ⟨hBoth.1.trans hThirdGrid.1, hBoth.2.trans hThirdGrid.2⟩
    rw [hSome, Option.bind_some, ← hCells]
    by_cases hAll : (both.cells ∩ third.cells).Nonempty
    · obtain ⟨patch, hPatch, hPatchValid, hPatchGrid, hFlagged, hPatchCells⟩ :=
        simFieldPatchIntersect_some hValid hThird hBothSized hBothThird hAll
      exact .inl ⟨patch, hPatch, hPatchValid,
        ⟨hPatchGrid.1.trans hBoth.1, hPatchGrid.2.trans hBoth.2⟩, hFlagged, hPatchCells⟩
    · exact .inr ⟨simFieldPatchIntersect_none hValid hThird hBothSized hBothThird hAll, hAll⟩
  · rw [simFieldPatchIntersect_none hLhs hRhs hSized hGrid hMeet]
    exact .inr ⟨rfl, fun hAll => hMeet hAll.left⟩

/-- Intersection is associative, a missing intersection included. -/
theorem simFieldPatchIntersect_assoc {third : SimFieldPatch} (hLhs : lhs.isValid = true)
    (hRhs : rhs.isValid = true) (hThird : third.isValid = true) (hSized : lhs.Sized)
    (hGrid : lhs.SameGrid rhs) (hThirdGrid : lhs.SameGrid third) :
    (simFieldPatchIntersect lhs rhs).bind (simFieldPatchIntersect · third) =
      (simFieldPatchIntersect rhs third).bind (simFieldPatchIntersect lhs ·) := by
  have hRhsSized : rhs.Sized := ⟨hGrid.1 ▸ hSized.1, hGrid.2 ▸ hSized.2⟩
  have hRhsThird : rhs.SameGrid third :=
    ⟨hGrid.1.symm.trans hThirdGrid.1, hGrid.2.symm.trans hThirdGrid.2⟩
  -- from the right, the first patch meets the intersection of the others
  have hSwap : (simFieldPatchIntersect rhs third).bind (simFieldPatchIntersect lhs ·) =
      (simFieldPatchIntersect rhs third).bind (simFieldPatchIntersect · lhs) := by
    cases hBoth : simFieldPatchIntersect rhs third with
    | none => rfl
    | some both =>
        have hSound := simFieldPatchIntersect_sound hRhs hThird hRhsSized hRhsThird
        obtain ⟨hValid, hBothGrid, _⟩ := hSound.some_cells both hBoth
        exact (simFieldPatchIntersect_sound hLhs hValid hSized
          ⟨hGrid.1.trans hBothGrid.1.symm, hGrid.2.trans hBothGrid.2.symm⟩).comm
  have hCells : rhs.cells ∩ third.cells ∩ lhs.cells = lhs.cells ∩ rhs.cells ∩ third.cells := by
    rw [Set.inter_comm, Set.inter_assoc]
  have hFromLeft := simFieldPatchIntersect_bind hLhs hRhs hThird hSized hGrid hThirdGrid
  have hFromRight := simFieldPatchIntersect_bind hRhs hThird hLhs hRhsSized hRhsThird
    ⟨hGrid.1.symm, hGrid.2.symm⟩
  rw [hSwap]
  rcases hFromLeft with
    ⟨left, hLeft, hLeftValid, hLeftGrid, hLeftFlags, hLeftCells⟩ | ⟨hLeft, hApart⟩
  all_goals rcases hFromRight with
    ⟨right, hRight, hRightValid, hRightGrid, hRightFlags, hRightCells⟩ | ⟨hRight, hOther⟩
  · rw [hLeft, hRight, SimFieldPatch.eq_of_cells hLeftValid hRightValid
      ⟨hLeftGrid.1.trans (hGrid.1.trans hRightGrid.1.symm),
        hLeftGrid.2.trans (hGrid.2.trans hRightGrid.2.symm)⟩ hLeftFlags hRightFlags
      (hLeftCells.trans (hCells.symm.trans hRightCells.symm))]
  · rw [hCells, ← hLeftCells] at hOther
    exact absurd ⟨_, left.origin_mem_cells hLeftValid⟩ hOther
  · rw [← hCells, ← hRightCells] at hApart
    exact absurd ⟨_, right.origin_mem_cells hRightValid⟩ hApart
  · rw [hLeft, hRight]

end Cells

/-! ### Regions -/

/-- The cell overlaps a range of positive length, both in units of the axis. -/
def CellOverlaps (extent : ℕ) (lower upper : ℚ) (index : ℕ) : Prop :=
  lower * extent < index + 1 ∧ (index : ℚ) < upper * extent

/-- The indices of a range are not empty, inside the axis and cover it. -/
theorem simFieldPatchRange_spec {extent : ℕ} (hExtent : 0 < extent) (lower upper : ℚ) :
    (simFieldPatchRange extent lower upper).1 < (simFieldPatchRange extent lower upper).2 ∧
      (simFieldPatchRange extent lower upper).2 ≤ extent ∧
      ∀ index < extent, CellOverlaps extent lower upper index →
        (simFieldPatchRange extent lower upper).1 ≤ index ∧
          index < (simFieldPatchRange extent lower upper).2 := by
  have hFloor : ∀ index : ℕ, lower * extent < index + 1 → ⌊lower * extent⌋.toNat ≤ index := by
    intro index hBelow
    have hInt : ⌊lower * extent⌋ < (index : ℤ) + 1 := Int.floor_lt.mpr (by push_cast; exact hBelow)
    omega
  have hCeil : ∀ index : ℕ, (index : ℚ) < upper * extent → index < ⌈upper * extent⌉.toNat := by
    intro index hAbove
    have hInt : (index : ℤ) < ⌈upper * extent⌉ := Int.lt_ceil.mpr (by exact_mod_cast hAbove)
    omega
  simp only [simFieldPatchRange]
  refine ⟨?_, ?_, ?_⟩
  · split_ifs <;> omega
  · split_ifs <;> omega
  · intro index hIndex hOverlaps
    have hFirst := hFloor index hOverlaps.1
    have hLast := hCeil index hOverlaps.2
    split_ifs <;> omega

/-- The patch lies in the grid and has every cell which the clamped region overlaps. -/
structure RegionCovered (fieldWidth fieldHeight : ℕ) (left top right bottom : ℚ)
    (patch : SimFieldPatch) : Prop where
  valid : patch.isValid = true
  grid : patch.fieldWidth = fieldWidth ∧ patch.fieldHeight = fieldHeight
  covers : ∀ x < fieldWidth, ∀ y < fieldHeight,
    CellOverlaps fieldWidth (simFieldPatchClampd left 0 1) (simFieldPatchClampd right 0 1) x →
    CellOverlaps fieldHeight (simFieldPatchClampd top 0 1) (simFieldPatchClampd bottom 0 1) y →
    (x, y) ∈ patch.cells

theorem simFieldPatchFromNormalizedRegion_covered {fieldWidth fieldHeight : ℕ}
    {left top right bottom : ℚ} {patch : SimFieldPatch}
    (hPatch : simFieldPatchFromNormalizedRegion fieldWidth fieldHeight (some left) (some top)
      (some right) (some bottom) = .ok patch) :
    RegionCovered fieldWidth fieldHeight left top right bottom patch := by
  unfold simFieldPatchFromNormalizedRegion at hPatch
  dsimp only at hPatch
  split_ifs at hPatch with hExtent hOrder hInside
  rw [not_or] at hExtent
  obtain ⟨rfl, hValid⟩ := simFieldPatchFromXywh_ok hPatch
  obtain ⟨hRowOrder, hRowInside, hRow⟩ := simFieldPatchRange_spec
    (Nat.pos_of_ne_zero hExtent.1) (simFieldPatchClampd left 0 1) (simFieldPatchClampd right 0 1)
  obtain ⟨hColumnOrder, hColumnInside, hColumn⟩ := simFieldPatchRange_spec
    (Nat.pos_of_ne_zero hExtent.2) (simFieldPatchClampd top 0 1) (simFieldPatchClampd bottom 0 1)
  refine ⟨hValid, ⟨rfl, rfl⟩, ?_⟩
  intro x hX y hY hOverX hOverY
  have hXRange := hRow x hX hOverX
  have hYRange := hColumn y hY hOverY
  show (_ ∧ _) ∧ _ ∧ _
  dsimp only
  omega

/-- Intersections have the common cells, in any order and grouping, and regions
are covered by their patches. -/
theorem simFieldPatch_intersections_and_regions :
    (∀ lhs rhs : SimFieldPatch, lhs.isValid = true → rhs.isValid = true → lhs.Sized →
      lhs.SameGrid rhs → IntersectionSound lhs rhs) ∧
    (∀ patch : SimFieldPatch, patch.isValid = true → patch.Sized →
      ∃ same, simFieldPatchIntersect patch patch = some same ∧ same.cells = patch.cells) ∧
    (∀ first second third : SimFieldPatch, first.isValid = true → second.isValid = true →
      third.isValid = true → first.Sized → first.SameGrid second → first.SameGrid third →
      (simFieldPatchIntersect first second).bind (simFieldPatchIntersect · third) =
        (simFieldPatchIntersect second third).bind (simFieldPatchIntersect first ·)) ∧
    ∀ fieldWidth fieldHeight left top right bottom patch,
      simFieldPatchFromNormalizedRegion fieldWidth fieldHeight (some left) (some top)
        (some right) (some bottom) = .ok patch →
      RegionCovered fieldWidth fieldHeight left top right bottom patch := by
  refine ⟨?_, ?_, ?_, ?_⟩
  · intro lhs rhs hLhs hRhs hSized hGrid
    exact simFieldPatchIntersect_sound hLhs hRhs hSized hGrid
  · intro patch hValid hSized
    exact simFieldPatchIntersect_self hValid hSized
  · intro first second third hFirst hSecond hThird hSized hGrid hThirdGrid
    exact simFieldPatchIntersect_assoc hFirst hSecond hThird hSized hGrid hThirdGrid
  · intro fieldWidth fieldHeight left top right bottom patch hPatch
    exact simFieldPatchFromNormalizedRegion_covered hPatch

theorem simFieldPatch_intersections_and_regions_corner :
    IntersectionSound ⟨0, 0, 2, 2, 4, 3, ⟨false, false, true⟩⟩
      ⟨1, 1, 3, 2, 4, 3, ⟨false, false, true⟩⟩ :=
  simFieldPatch_intersections_and_regions.1 _ _ (by decide) (by decide) ⟨by decide, by decide⟩
    ⟨rfl, rfl⟩

end Oakfield
