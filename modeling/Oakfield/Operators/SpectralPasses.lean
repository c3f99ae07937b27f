import Oakfield.Field.RepresentationInvariant
import Oakfield.Library.SpectralFlow
import Oakfield.Operators.ConvolutionValues
import Oakfield.Operators.FftPlane
import Oakfield.Operators.LaplacianDiffusion
import Oakfield.Operators.SpectralWork

/-! The modes of the values on a plane, and the passes of the linear spectral operators, which let
them grow. -/
namespace Oakfield

open KernelIR Library Library.Fourier Library.SpectralFlow

/-! ### Loops over separate elements -/

/-- Different elements lie in different places. -/
def PlaneLayout.Separate (plane : PlaneLayout) : Prop :=
  ∀ y < plane.height, ∀ x < plane.width, ∀ y' < plane.height, ∀ x' < plane.width,
    plane.address y x = plane.address y' x' → y = y' ∧ x = x'

/-- The elements in the order of the loops. -/
def PlaneLayout.elements (plane : PlaneLayout) : List (ℕ × ℕ) :=
  (List.range plane.height).flatMap fun y => (List.range plane.width).map fun x => (y, x)

namespace PlaneLayout

variable {V : Type} {plane : PlaneLayout}

end PlaneLayout

/-! ### Transforms of planes -/

/-- A value for every element of a plane. -/
abbrev PlaneValues (height width : ℕ) := Fin height × Fin width → ℂ

section Transforms

variable {n height width : ℕ}

/-- The backward and the forward transform undo each other. -/
theorem lineTransform_cancel (inverse : Bool) (hPos : n ≠ 0) (x : ℕ → ℂ) {k : ℕ} (hBelow : k < n) :
    lineTransform (!inverse) n (lineTransform inverse n x) k = x k := by
  cases inverse with
  | false => exact lineTransform_undo hPos x hBelow
  | true =>
      have hLength : (n : ℂ) ≠ 0 := Nat.cast_ne_zero.mpr hPos
      have hUndo := dft_inv_dft (unitRoot_primitive hPos).inv x hBelow
      rw [inv_inv] at hUndo
      show dft (unitRoot n) n (fun j => dft (unitRoot n)⁻¹ n x j / n) k = x k
      rw [dft_div, hUndo, mul_div_cancel_left₀ _ hLength]

/-- Values on a plane by row and column, zero outside. -/
noncomputable def gridOf (v : PlaneValues height width) (y x : ℕ) : ℂ :=
  if hInside : y < height ∧ x < width then v (⟨y, hInside.1⟩, ⟨x, hInside.2⟩) else 0

theorem gridOf_fin (v : PlaneValues height width) (y : Fin height) (x : Fin width) :
    gridOf v y x = v (y, x) := dif_pos ⟨y.isLt, x.isLt⟩

/-- The transform along the rows and the columns. -/
noncomputable def planeTransform (inverse : Bool) (v : PlaneValues height width) :
    PlaneValues height width := fun k =>
  lineTransform inverse height (fun r => lineTransform inverse width (gridOf v r) k.2) k.1

theorem planeTransform_cancel (inverse : Bool) (v : PlaneValues height width) :
    planeTransform (!inverse) (planeTransform inverse v) = v := by
  funext ⟨y, x⟩
  have hHeight : height ≠ 0 := Nat.ne_of_gt (Nat.lt_of_le_of_lt (Nat.zero_le _) y.isLt)
  have hWidth : width ≠ 0 := Nat.ne_of_gt (Nat.lt_of_le_of_lt (Nat.zero_le _) x.isLt)
  have hRows : ∀ r < height,
      lineTransform (!inverse) width (gridOf (planeTransform inverse v) r) x =
        lineTransform inverse height (fun r => gridOf v r x) r := by
    intro r hR
    have hInside : ∀ c < width, gridOf (planeTransform inverse v) r c =
        lineTransform inverse height (fun r => lineTransform inverse width (gridOf v r) c) r :=
      fun c hC => dif_pos ⟨hR, hC⟩
    rw [lineTransform_congr hInside,
      lineTransform_comm (!inverse) inverse height width
        (fun r c => lineTransform inverse width (gridOf v r) c)]
    exact lineTransform_congr
      (fun r _ => lineTransform_cancel inverse hWidth (gridOf v r) x.isLt) r
  calc planeTransform (!inverse) (planeTransform inverse v) (y, x)
      = lineTransform (!inverse) height
          (lineTransform inverse height fun r => gridOf v r x) y := lineTransform_congr hRows y
    _ = gridOf v y x := lineTransform_cancel inverse hHeight _ y.isLt
    _ = v (y, x) := gridOf_fin v y x

/-- The modes of values on a plane. -/
noncomputable def planeModes (height width : ℕ) :
    PlaneValues height width ≃ PlaneValues height width where
  toFun := planeTransform false
  invFun := planeTransform true
  left_inv := planeTransform_cancel false
  right_inv := planeTransform_cancel true

/-- The modes of the elements of a field, which are the elements where it is spectral. -/
noncomputable def fieldModes (isSpectral : Bool) (height width : ℕ) :
    PlaneValues height width ≃ PlaneValues height width :=
  if isSpectral then Equiv.refl _ else planeModes height width

/-- Conjugate values. -/
noncomputable def conjugate (v : PlaneValues height width) : PlaneValues height width :=
  fun k => starRingEnd ℂ (v k)

end Transforms

/-! ### Plans -/

section Plans

variable {D : Type} [CDouble D]

/-- Every allocation succeeds which `calloc` does not refuse by itself. -/
def Heap.Generous (heap : Heap) : Prop := ∀ bytes, heap.grants bytes = true

theorem Heap.Generous.calloc {heap : Heap} (hHeap : heap.Generous) {count size : ℕ}
    (hFits : count * size < 2 ^ 64) : heap.calloc count size = true := by
  rw [Heap.calloc, decide_eq_true hFits, hHeap]
  rfl

/-- Plans and work arrays are there for the shape on record. -/
structure SpectralWork.Ready (work : SpectralWork D) : Prop where
  time : work.timeBuffer.isSome
  freq : work.freqBuffer.isSome
  line : work.planRank = 1 →
    ∃ heap plan, work.plan = some plan ∧ fftPlanInit heap work.capacity = some (.ok plan)
  plane : work.planRank = 2 → ∃ heap plan, work.plan2d = some plan ∧
    fftPlan2dInit heap work.planRows work.planCols work.planCols 1 = some (.ok plan)

/-- What every call keeps: a capacity is one of plans and arrays which are there. -/
def SpectralWork.Sound (work : SpectralWork D) : Prop := work.capacity ≠ 0 → work.Ready

theorem SpectralWork.sound_of_capacity {work : SpectralWork D} (hNone : work.capacity = 0) :
    work.Sound := fun hSome => absurd hNone hSome

/-- The shapes of the fields on which the operators work. -/
structure SpectralShape (shape : List ℕ) (plane : PlaneLayout) : Prop where
  extents : (shape = [plane.width] ∧ plane.height = 1) ∨ shape = [plane.height, plane.width]
  height : plane.height ≠ 0
  width : plane.width ≠ 0
  count : plane.height * plane.width < 2 ^ 60
  squares : ∀ extent ∈ shape, fftIsPowerOfTwo extent = true ∨ extent ≤ 2 ^ 32

namespace SpectralShape

variable {shape : List ℕ} {plane : PlaneLayout}

theorem rank (hShape : SpectralShape shape plane) : shape.length = 1 ∨ shape.length = 2 := by
  rcases hShape.extents with ⟨rfl, -⟩ | rfl
  · exact .inl rfl
  · exact .inr rfl

theorem elementCount_eq (hShape : SpectralShape shape plane) :
    SimField.elementCount shape = plane.height * plane.width := by
  have hCount := hShape.count
  rcases hShape.extents with ⟨rfl, hHeight⟩ | rfl
  · rw [elementCount_eq_prod_mod (List.cons_ne_nil _ _), List.prod_singleton, hHeight, one_mul]
    rw [hHeight, one_mul] at hCount
    exact Nat.mod_eq_of_lt (by omega)
  · rw [elementCount_eq_prod_mod (List.cons_ne_nil _ _), List.prod_cons, List.prod_singleton]
    exact Nat.mod_eq_of_lt (by omega)

end SpectralShape

end Plans

/-! ### Tables of rates -/

section Tables

variable {D : Type} {work : SpectralWork D} {shape : List ℕ} {plane : PlaneLayout}

/-- A table which holds a rate for every mode of the shapes which fit. -/
def HoldsRates (work : SpectralWork D) (rate : ℕ → ℕ → ℕ → ℕ → ℕ → D) (table : ℕ → D) : Prop :=
  ∀ shape plane, SpectralShape shape plane → work.fits shape = true →
    ∀ y < plane.height, ∀ x < plane.width,
      table (plane.packed.address y x) = rate shape.length plane.height plane.width y x

/-- Shapes which fit the same work are the same. -/
theorem SpectralShape.unique {shape' : List ℕ} {plane' : PlaneLayout}
    (hShape : SpectralShape shape plane) (hShape' : SpectralShape shape' plane')
    (hFits : work.fits shape = true) (hFits' : work.fits shape' = true) :
    shape'.length = shape.length ∧ plane'.height = plane.height ∧ plane'.width = plane.width := by
  obtain ⟨-, hRank, hRows, hCols⟩ := of_decide_eq_true hFits
  obtain ⟨-, hRank', hRows', hCols'⟩ := of_decide_eq_true hFits'
  rcases hShape.extents with ⟨rfl, hOne⟩ | rfl <;> rcases hShape'.extents with ⟨rfl, hOne'⟩ | rfl
  · exact ⟨rfl, hOne'.trans hOne.symm, hRows'.symm.trans hRows⟩
  · exact absurd (hRank.symm.trans hRank') (by simp)
  · exact absurd (hRank.symm.trans hRank') (by simp)
  · have hSecond := hCols.resolve_left (by simp)
    have hSecond' := hCols'.resolve_left (by simp)
    exact ⟨rfl, hRows'.symm.trans hRows, hSecond'.symm.trans hSecond⟩

end Tables

/-! ### Transforms -/

section Transforms

variable [CDouble ℝ] {shape : List ℕ} {plane : PlaneLayout}

variable [ExactDouble ℝ] [ExactPower ℝ] [ExactAnalysis]

end Transforms

end Oakfield
