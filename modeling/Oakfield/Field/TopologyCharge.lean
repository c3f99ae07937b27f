import Mathlib.Algebra.BigOperators.Ring.Finset
import Mathlib.Algebra.Order.Floor.Ring
import Mathlib.Tactic.Linarith
import Mathlib.Tactic.FieldSimp
import Oakfield.Field.Topology
import Oakfield.KernelIR.ExactDouble
import Oakfield.Library.Circulation

/-! The charges in a rectangle of cells and the winding around it, in exact arithmetic. -/
namespace Oakfield

open KernelIR Library Finset

attribute [local instance] two_atLeastTwo

variable {K : Type} [Field K] [LinearOrder K] [IsStrictOrderedRing K] [FloorRing K]
variable [CDouble K] [ExactDouble K]

/-- `fmod` leaves the numerator less a whole number of periods, below a period. -/
def FmodExact (K : Type) [Field K] [LinearOrder K] [CDouble K] : Prop :=
  ∀ a b : K, 0 < b → ∃ n : ℤ, CDouble.fmod a b = a - n * b ∧ |CDouble.fmod a b| < b

/-- A phase as `atan2` gives it. -/
def IsPhase (p : K) : Prop := -CDouble.pi < p ∧ p ≤ CDouble.pi

/-- The phases are half a turn apart. -/
def HalfTurn (p q : K) : Prop := |q - p| = CDouble.pi

instance (p q : K) : Decidable (HalfTurn p q) := inferInstanceAs (Decidable (_ = _))

/-- A difference of phases in turns, and half a turn on. -/
def shiftedTurn (p q : K) : K := (q - p) / (2 * CDouble.pi) + 1 / 2

/-- The wrapped difference of phases in turns. -/
def wrappedTurn (p q : K) : K :=
  simFieldTopologyWrapPhaseDelta p q / (2 * CDouble.pi)

theorem wrappedTurn_eq (hPi : 0 < (CDouble.pi : K)) (hFmod : FmodExact K) (p q : K) :
    wrappedTurn p q = Int.fract (shiftedTurn p q) - 1 / 2 := by
  have hPeriod : 0 < 2 * (CDouble.pi : K) := by linarith
  obtain ⟨n, hRest, hBound⟩ := hFmod (q - p + CDouble.pi) (2 * CDouble.pi) hPeriod
  rw [abs_lt] at hBound
  have hShifted : shiftedTurn p q = (q - p + CDouble.pi) / (2 * CDouble.pi) := by
    rw [shiftedTurn]
    field_simp
  have hWrap : ∃ k : ℤ, ∃ r : K, 0 ≤ r ∧ r < 2 * CDouble.pi ∧
      r = q - p + CDouble.pi - k * (2 * CDouble.pi) ∧
      simFieldTopologyWrapPhaseDelta p q = r - CDouble.pi := by
    rw [simFieldTopologyWrapPhaseDelta]
    simp only [ExactDouble.two_eq, ExactDouble.mul_eq, ExactDouble.add_eq, ExactDouble.sub_eq,
      ExactDouble.lt_iff, ExactDouble.zero_eq]
    by_cases hNeg : CDouble.fmod (q - p + CDouble.pi) (2 * CDouble.pi) < (0 : K)
    · rw [if_pos hNeg]
      refine ⟨n - 1, _, ?_, ?_, ?_, rfl⟩
      · linarith
      · linarith
      · rw [hRest]
        push_cast
        ring
    · rw [if_neg hNeg]
      exact ⟨n, _, not_lt.mp hNeg, hBound.2, hRest, rfl⟩
  obtain ⟨k, r, hLow, hHigh, hEq, hDelta⟩ := hWrap
  have hFract : Int.fract (shiftedTurn p q) = r / (2 * CDouble.pi) := by
    rw [Int.fract_eq_iff]
    refine ⟨div_nonneg hLow (le_of_lt hPeriod), (div_lt_one hPeriod).mpr hHigh, k, ?_⟩
    rw [hShifted, hEq]
    field_simp
    ring
  rw [wrappedTurn, hDelta, hFract]
  field_simp

omit [IsStrictOrderedRing K] [ExactDouble K] in
theorem shiftedTurn_swap (p q : K) : shiftedTurn q p = -shiftedTurn p q + 1 := by
  rw [shiftedTurn, shiftedTurn]
  ring

omit [ExactDouble K] in
/-- Only half a turn has a whole number of turns half a turn on. -/
theorem fract_shiftedTurn_eq_zero_iff (hPi : 0 < (CDouble.pi : K)) {p q : K} (hP : IsPhase p)
    (hQ : IsPhase q) : Int.fract (shiftedTurn p q) = 0 ↔ HalfTurn p q := by
  have hPeriod : 0 < 2 * (CDouble.pi : K) := by linarith
  have hDiff : q - p = (shiftedTurn p q - 1 / 2) * (2 * CDouble.pi) := by
    rw [shiftedTurn]
    field_simp
    ring
  have hLow : -1 < shiftedTurn p q := by
    rw [shiftedTurn, ← sub_lt_iff_lt_add, lt_div_iff₀ hPeriod]
    linarith [hP.2, hQ.1]
  have hHigh : shiftedTurn p q < 2 := by
    rw [shiftedTurn, ← lt_sub_iff_add_lt, div_lt_iff₀ hPeriod]
    linarith [hP.1, hQ.2]
  rw [HalfTurn]
  constructor
  · intro hFract
    have hWhole : shiftedTurn p q = ⌊shiftedTurn p q⌋ := by
      have hSplit := Int.floor_add_fract (shiftedTurn p q)
      rw [hFract, add_zero] at hSplit
      exact hSplit.symm
    generalize ⌊shiftedTurn p q⌋ = z at hWhole
    rw [hWhole] at hLow hHigh hDiff
    have hZ : z = 0 ∨ z = 1 := by
      have hLow' : -1 < z := by exact_mod_cast hLow
      have hHigh' : z < 2 := by exact_mod_cast hHigh
      omega
    rcases hZ with rfl | rfl
    · have hNeg : q - p = -CDouble.pi := by
        rw [hDiff]
        push_cast
        ring
      rw [hNeg, abs_neg, abs_of_pos hPi]
    · have hSame : q - p = CDouble.pi := by
        rw [hDiff]
        push_cast
        ring
      rw [hSame, abs_of_pos hPi]
  · intro hHalf
    rcases eq_or_eq_neg_of_abs_eq hHalf with hSame | hNeg
    · have hOne : shiftedTurn p q = (1 : ℤ) := by
        rw [shiftedTurn, hSame]
        push_cast
        field_simp
        norm_num
      rw [hOne, Int.fract_intCast]
    · have hZero : shiftedTurn p q = (0 : ℤ) := by
        rw [shiftedTurn, hNeg]
        push_cast
        field_simp
        norm_num
      rw [hZero, Int.fract_intCast]

/-- An edge and its reverse cancel, unless its ends are half a turn apart. -/
theorem wrappedTurn_add_reverse (hPi : 0 < (CDouble.pi : K)) (hFmod : FmodExact K) {p q : K}
    (hP : IsPhase p) (hQ : IsPhase q) :
    wrappedTurn p q + wrappedTurn q p = -if HalfTurn p q then 1 else 0 := by
  rw [wrappedTurn_eq hPi hFmod, wrappedTurn_eq hPi hFmod, shiftedTurn_swap p q,
    Int.fract_add_one]
  have hZero := fract_shiftedTurn_eq_zero_iff hPi hP hQ
  by_cases hHalf : HalfTurn p q
  · have hFract := hZero.mpr hHalf
    rw [if_pos hHalf, hFract, Int.fract_neg_eq_zero.mpr hFract]
    norm_num
  · rw [if_neg hHalf, Int.fract_neg (fun hFract => hHalf (hZero.mp hFract))]
    ring

/-- All four edges of a cell are half a turn. -/
def HalfTurnCell (p00 p10 p11 p01 : K) : Prop :=
  HalfTurn p00 p10 ∧ HalfTurn p10 p11 ∧ HalfTurn p11 p01 ∧ HalfTurn p01 p00

instance (p00 p10 p11 p01 : K) : Decidable (HalfTurnCell p00 p10 p11 p01) :=
  inferInstanceAs (Decidable (_ ∧ _))

/-- The charge is the winding around the cell; the winding of minus two turns, which needs
four edges of half a turn, is stored as minus one. -/
theorem simFieldTopologyCharge_eq (hPi : 0 < (CDouble.pi : K)) (hFmod : FmodExact K)
    {p00 p10 p11 p01 : K} (h00 : IsPhase p00) (h10 : IsPhase p10) (h11 : IsPhase p11)
    (h01 : IsPhase p01) {rawCharge : K}
    (hRaw : rawCharge = wrappedTurn p00 p10 + wrappedTurn p10 p11 + wrappedTurn p11 p01 +
      wrappedTurn p01 p00) :
    (simFieldTopologyCharge rawCharge : K) =
      wrappedTurn p00 p10 + wrappedTurn p10 p11 + wrappedTurn p11 p01 + wrappedTurn p01 p00 +
        if HalfTurnCell p00 p10 p11 p01 then 1 else 0 := by
  have hCell : HalfTurnCell p00 p10 p11 p01 ↔ Int.fract (shiftedTurn p00 p10) = 0 ∧
      Int.fract (shiftedTurn p10 p11) = 0 ∧ Int.fract (shiftedTurn p11 p01) = 0 ∧
      Int.fract (shiftedTurn p01 p00) = 0 := by
    rw [HalfTurnCell, fract_shiftedTurn_eq_zero_iff hPi h00 h10,
      fract_shiftedTurn_eq_zero_iff hPi h10 h11, fract_shiftedTurn_eq_zero_iff hPi h11 h01,
      fract_shiftedTurn_eq_zero_iff hPi h01 h00]
  have hClosed : shiftedTurn p00 p10 + shiftedTurn p10 p11 + shiftedTurn p11 p01 +
      shiftedTurn p01 p00 = 2 := by
    rw [shiftedTurn, shiftedTurn, shiftedTurn, shiftedTurn]
    ring
  rw [← hRaw]
  rw [wrappedTurn_eq hPi hFmod, wrappedTurn_eq hPi hFmod, wrappedTurn_eq hPi hFmod,
    wrappedTurn_eq hPi hFmod] at hRaw
  generalize shiftedTurn p00 p10 = bottom at *
  generalize shiftedTurn p10 p11 = right at *
  generalize shiftedTurn p11 p01 = top at *
  generalize shiftedTurn p01 p00 = left at *
  have hBottom := Int.fract_nonneg bottom
  have hRight := Int.fract_nonneg right
  have hTop := Int.fract_nonneg top
  have hLeft := Int.fract_nonneg left
  have hWhole : rawCharge = ((-(⌊bottom⌋ + ⌊right⌋ + ⌊top⌋ + ⌊left⌋) : ℤ) : K) := by
    rw [hRaw, Int.fract, Int.fract, Int.fract, Int.fract]
    push_cast
    linarith
  generalize -(⌊bottom⌋ + ⌊right⌋ + ⌊top⌋ + ⌊left⌋) = turns at hWhole
  have hLow : (-2 : K) ≤ turns := by linarith
  have hHigh : (turns : K) < 2 := by
    linarith [Int.fract_lt_one bottom, Int.fract_lt_one right, Int.fract_lt_one top,
      Int.fract_lt_one left]
  have hDouble : HalfTurnCell p00 p10 p11 p01 ↔ turns = -2 := by
    rw [hCell]
    constructor
    · rintro ⟨hB, hR, hT, hL⟩
      have hTwo : (turns : K) = -2 := by linarith
      exact_mod_cast hTwo
    · rintro rfl
      push_cast at hWhole
      exact ⟨by linarith, by linarith, by linarith, by linarith⟩
  have hRange : turns = -2 ∨ turns = -1 ∨ turns = 0 ∨ turns = 1 := by
    have hLow' : -2 ≤ turns := by exact_mod_cast hLow
    have hHigh' : turns < 2 := by exact_mod_cast hHigh
    omega
  simp only [simFieldTopologyCharge, CDouble.gt, ExactDouble.lt_iff, ExactDouble.half_eq,
    ExactDouble.neg_eq, hDouble, hWhole]
  rcases hRange with rfl | rfl | rfl | rfl <;> norm_num

/-! ### Rectangles of cells -/

/-- The charge stored for the cell at a column and a row. -/
def SimFieldTopology.charge (topology : SimFieldTopology K) (x y : ℕ) : ℤ :=
  match topology.cells[y * topology.width + x]? with
  | none => 0
  | some cell => cell.charge

omit [Field K] [LinearOrder K] [IsStrictOrderedRing K] [FloorRing K] [CDouble K] [ExactDouble K] in
/-- Cells which are written row by row are read back at their column and row. -/
theorem SimFieldTopology.charge_rows (ok : Bool) (summary : SimFieldTopologySummary)
    (cell : ℕ → ℕ → SimFieldTopologyCell K) {width height x y : ℕ} (hX : x < width)
    (hY : y < height) :
    (SimFieldTopology.mk ok width height summary ((List.range (width * height)).map fun index =>
      cell (index % width) (index / width))).charge x y = (cell x y).charge := by
  have hIndex : y * width + x < width * height := by
    have hRows : (y + 1) * width ≤ height * width := Nat.mul_le_mul_right _ hY
    rw [Nat.succ_mul] at hRows
    rw [Nat.mul_comm width]
    omega
  have hColumn : (y * width + x) % width = x := by
    rw [Nat.add_comm, Nat.add_mul_mod_self_right, Nat.mod_eq_of_lt hX]
  have hRow : (y * width + x) / width = y := by
    rw [Nat.add_comm, Nat.add_mul_div_right _ _ (by omega), Nat.div_eq_of_lt hX, Nat.zero_add]
  unfold SimFieldTopology.charge
  rw [List.getElem?_map, List.getElem?_range hIndex]
  dsimp only [Option.map_some]
  rw [hColumn, hRow]

/-- The phase of the sample at a column and a row. -/
def phaseAt (functions : PlaneFunctions K) (data : FieldData K) (width : ℕ) (point : ℕ × ℕ) : K :=
  let sample := simFieldTopologySample data (point.2 * width + point.1)
  functions.atan2 sample.2 sample.1

/-- The winding of the phases, in turns, counter-clockwise around the rectangle of `n + 1` by
`m + 1` cells at a point. -/
def phaseWinding (phase : ℕ × ℕ → K) (x y n m : ℕ) : K :=
  Circulation.boundary (fun a b => wrappedTurn (phase a) (phase b)) x y n m

/-- The edges inside the rectangle whose ends are half a turn apart. -/
def halfTurnsInside (phase : ℕ × ℕ → K) (x y n m : ℕ) : ℕ :=
  ∑ j ∈ range (m + 1), ∑ i ∈ range n,
      (if HalfTurn (phase (x + (i + 1), y + j + 1)) (phase (x + (i + 1), y + j)) then 1 else 0) +
    ∑ j ∈ range m, ∑ i ∈ range (n + 1),
      (if HalfTurn (phase (x + i, y + (j + 1))) (phase (x + i + 1, y + (j + 1))) then 1 else 0)

/-- The cells of the rectangle whose four edges are half a turn. -/
def halfTurnCells (phase : ℕ × ℕ → K) (x y n m : ℕ) : ℕ :=
  ∑ j ∈ range (m + 1), ∑ i ∈ range (n + 1),
    if HalfTurnCell (phase (x + i, y + j)) (phase (x + i + 1, y + j))
        (phase (x + i + 1, y + j + 1)) (phase (x + i, y + j + 1)) then 1 else 0

/-- The edges inside a rectangle leave one turn less for each half turn. -/
theorem inside_eq (hPi : 0 < (CDouble.pi : K)) (hFmod : FmodExact K) {phase : ℕ × ℕ → K}
    (hPhase : ∀ point, IsPhase (phase point)) (x y n m : ℕ) :
    Circulation.inside (fun a b => wrappedTurn (phase a) (phase b)) x y n m =
      -(halfTurnsInside phase x y n m : K) := by
  have hEdge : ∀ a b : ℕ × ℕ, wrappedTurn (phase a) (phase b) + wrappedTurn (phase b) (phase a) =
      -((if HalfTurn (phase a) (phase b) then 1 else 0 : ℕ) : K) := by
    intro a b
    rw [wrappedTurn_add_reverse hPi hFmod (hPhase a) (hPhase b)]
    push_cast
    rfl
  unfold Circulation.inside halfTurnsInside Circulation.down Circulation.up Circulation.right
    Circulation.left
  simp only [hEdge, sum_neg_distrib, Nat.cast_add, Nat.cast_sum, neg_add]

section Extraction

variable {functions : PlaneFunctions K} {field : SimField K} {data : FieldData K}
variable {width height cellCapacity : ℕ}

theorem simFieldTopologyCellAt_charge (hPi : 0 < (CDouble.pi : K)) (hFmod : FmodExact K)
    (hAtan : ∀ im re, IsPhase (functions.atan2 im re)) (cfg : SimFieldTopologyConfig K)
    (hFinite : ∀ index < width * height, CDouble.isfinite (data.lane (2 * index)) = true ∧
      CDouble.isfinite (data.lane (2 * index + 1)) = true)
    {x y : ℕ} (hX : x + 1 < width) (hY : y + 1 < height) :
    ((simFieldTopologyCellAt functions cfg data width height x y).charge : K) =
      Circulation.cell (fun a b => wrappedTurn (phaseAt functions data width a)
        (phaseAt functions data width b)) x y +
      if HalfTurnCell (phaseAt functions data width (x, y))
          (phaseAt functions data width (x + 1, y)) (phaseAt functions data width (x + 1, y + 1))
          (phaseAt functions data width (x, y + 1)) then 1 else 0 := by
  have hSample : ∀ column row, column < width → row < height →
      (CDouble.isfinite (simFieldTopologySample data (row * width + column)).1 &&
        CDouble.isfinite (simFieldTopologySample data (row * width + column)).2) = true := by
    intro column row hColumn hRow
    have hIndex : row * width + column < width * height := by
      have hRows : (row + 1) * width ≤ height * width := Nat.mul_le_mul_right _ hRow
      rw [Nat.succ_mul] at hRows
      rw [Nat.mul_comm width]
      omega
    obtain ⟨hRe, hIm⟩ := hFinite _ hIndex
    rw [simFieldTopologySample, hRe, hIm]
    rfl
  rw [simFieldTopologyCellAt, if_neg (by omega)]
  dsimp only
  simp only [hSample x y (by omega) (by omega), hSample (x + 1) y hX (by omega),
    hSample (x + 1) (y + 1) hX hY, hSample x (y + 1) (by omega) hY, Bool.and_self, Bool.not_true,
    Bool.false_eq_true, ↓reduceIte]
  have hPhase : ∀ point, IsPhase (phaseAt functions data width point) := fun _ => hAtan _ _
  refine simFieldTopologyCharge_eq hPi hFmod (hPhase (x, y)) (hPhase (x + 1, y))
    (hPhase (x + 1, y + 1)) (hPhase (x, y + 1)) ?_
  simp only [ExactDouble.add_eq, ExactDouble.div_eq, ExactDouble.mul_eq, ExactDouble.two_eq]
  rw [wrappedTurn, wrappedTurn, wrappedTurn, wrappedTurn, add_div, add_div, add_div]
  rfl

/-- The charges stored for a rectangle of cells add up to the winding around it, less the
edges inside of half a turn, and with the cells whose four edges are half a turn. -/
theorem simFieldTopologyExtract_charges (hPi : 0 < (CDouble.pi : K)) (hFmod : FmodExact K)
    (hAtan : ∀ im re, IsPhase (functions.atan2 im re))
    (hDimensions : simFieldTopologyDimensions field = some (width, height))
    (hWidth : 2 ≤ width) (hHeight : 2 ≤ height) (hData : field.buffer = some data)
    (hType : SimBufferDataType.fromScalarDomain field.effectiveScalarDomain = .complexDouble)
    (hFinite : ∀ index < width * height, CDouble.isfinite (data.lane (2 * index)) = true ∧
      CDouble.isfinite (data.lane (2 * index + 1)) = true)
    (hCapacity : width * height ≤ cellCapacity) (config : Option (SimFieldTopologyConfig K)) :
    ∃ topology, simFieldTopologyExtract functions field cellCapacity config = some topology ∧
      topology.ok = true ∧
      ∀ x y n m, x + n + 1 < width → y + m + 1 < height →
        (∑ j ∈ range (m + 1), ∑ i ∈ range (n + 1), (topology.charge (x + i) (y + j) : K)) =
          phaseWinding (phaseAt functions data width) x y n m -
            halfTurnsInside (phaseAt functions data width) x y n m +
            halfTurnCells (phaseAt functions data width) x y n m := by
  rw [simFieldTopologyExtract, hDimensions]
  dsimp only
  rw [if_neg (by omega), hData]
  dsimp only
  rw [if_neg (by rw [hType]; simp; omega)]
  refine ⟨_, rfl, rfl, fun x y n m hX hY => ?_⟩
  have hPhase : ∀ point, IsPhase (phaseAt functions data width point) := fun _ => hAtan _ _
  rw [phaseWinding, sub_eq_add_neg, ← inside_eq hPi hFmod hPhase, ← Circulation.sum_cells,
    halfTurnCells, Nat.cast_sum, ← sum_add_distrib]
  refine sum_congr rfl fun j hJ => ?_
  rw [Nat.cast_sum, ← sum_add_distrib]
  refine sum_congr rfl fun i hI => ?_
  rw [mem_range] at hI hJ
  rw [SimFieldTopology.charge_rows true _ _ (by omega) (by omega),
    simFieldTopologyCellAt_charge hPi hFmod hAtan _ hFinite (by omega) (by omega), Nat.cast_ite,
    Nat.cast_one, Nat.cast_zero]

/-- `atan2` and `hypot` of the points on the real axis. -/
def axisFunctions : PlaneFunctions ℚ where
  atan2 _ re := if re < 0 then CDouble.pi else 0
  hypot re im := |re| + |im|
  toFloat a := a

/-- Two rows of three samples, all 1 but for a -1 in the middle of the first. -/
def axisLanes : FieldData ℚ :=
  .lanes fun k => if k = 2 then -1 else if k % 2 = 0 then 1 else 0

def axisField : SimField ℚ where
  initialized := true
  shape := [2, 3]
  strides := [3, 1]
  elementSize := 16
  data := some axisLanes
  complexMode := true
  repr := ⟨.physical, .complexScalar⟩
  scalarDomain := simScalarDomainC64

theorem simFieldTopologyExtract_charges_axis :
    ∃ topology, simFieldTopologyExtract axisFunctions axisField 6 none = some topology ∧
      ∑ j ∈ range 1, ∑ i ∈ range 2, (topology.charge (0 + i) (0 + j) : ℚ) =
        phaseWinding (phaseAt axisFunctions axisLanes 3) 0 0 1 0 -
          halfTurnsInside (phaseAt axisFunctions axisLanes 3) 0 0 1 0 +
          halfTurnCells (phaseAt axisFunctions axisLanes 3) 0 0 1 0 := by
  have hPi : (0 : ℚ) < CDouble.pi := show (0 : ℚ) < 355 / 113 by norm_num
  have hFmod : FmodExact ℚ := by
    intro a b hPos
    have hLow := Int.sub_floor_div_mul_nonneg a hPos
    have hHigh := Int.sub_floor_div_mul_lt a hPos
    refine ⟨⌊a / b⌋, ?_, ?_⟩
    · show a - b * ⌊a / b⌋ = _
      ring
    · show |a - b * ⌊a / b⌋| < b
      rw [mul_comm, abs_of_nonneg hLow]
      exact hHigh
  have hAtan : ∀ im re, IsPhase (axisFunctions.atan2 im re) := by
    intro im re
    have hCases : axisFunctions.atan2 im re = CDouble.pi ∨ axisFunctions.atan2 im re = 0 :=
      ite_eq_or_eq _ _ _
    rcases hCases with hPhase | hPhase <;> rw [IsPhase, hPhase] <;> constructor <;> linarith
  obtain ⟨topology, hRun, -, hCharges⟩ := simFieldTopologyExtract_charges hPi hFmod hAtan
    (show simFieldTopologyDimensions axisField = some (3, 2) from rfl) (by decide) (by decide)
    (show axisField.buffer = some axisLanes from rfl) (by decide) (fun _ _ => ⟨rfl, rfl⟩)
    (Nat.le_refl 6) none
  exact ⟨topology, hRun, hCharges 0 0 1 0 (by decide) (by decide)⟩

/-- The edge from -1 to 1 is inside the rectangle of both cells, and each of them counts it as
minus half a turn. -/
theorem axisField_charges_ne_winding :
    ∃ topology, simFieldTopologyExtract axisFunctions axisField 6 none = some topology ∧
      ∑ j ∈ range 1, ∑ i ∈ range 2, (topology.charge (0 + i) (0 + j) : ℚ) ≠
        phaseWinding (phaseAt axisFunctions axisLanes 3) 0 0 1 0 := by
  refine ⟨_, rfl, ?_⟩
  decide +kernel

end Extraction

end Oakfield
