import Oakfield.Operators.FftTransform

/-! Plans of planes: separable transforms of the addressed elements. -/
namespace Oakfield

open KernelIR Library Library.Fourier SimComplexDouble

/-! ### Lines -/

/-- The transform of a line of a length in either direction. -/
noncomputable def lineTransform (inverse : Bool) (n : ℕ) (x : ℕ → ℂ) (k : ℕ) : ℂ :=
  if inverse then dft (unitRoot n)⁻¹ n x k / n else dft (unitRoot n) n x k

theorem lineTransform_congr {inverse : Bool} {n : ℕ} {x y : ℕ → ℂ} (hSame : ∀ j < n, x j = y j)
    (k : ℕ) : lineTransform inverse n x k = lineTransform inverse n y k := by
  rw [lineTransform, lineTransform, dft_congr hSame, dft_congr hSame]

theorem lineTransform_comm (i j : Bool) (n m : ℕ) (f : ℕ → ℕ → ℂ) (k l : ℕ) :
    lineTransform i m (fun c => lineTransform j n (fun r => f r c) k) l =
      lineTransform j n (fun r => lineTransform i m (f r) l) k := by
  have hDivided : ∀ ω ρ : ℂ, dft ω m (fun c => dft ρ n (fun r => f r c) k / n) l =
      dft ρ n (fun r => dft ω m (f r) l) k / n := by
    intro ω ρ
    rw [dft_div, dft_comm]
  cases i <;> cases j <;> simp only [lineTransform, if_true, if_false, Bool.false_eq_true]
  · exact dft_comm ..
  · exact hDivided ..
  · rw [dft_div, dft_comm]
  · rw [hDivided, dft_div, div_right_comm]

/-- The backward transform undoes the forward one. -/
theorem lineTransform_undo {n : ℕ} (hPos : n ≠ 0) (x : ℕ → ℂ) {k : ℕ} (hBelow : k < n) :
    lineTransform true n (lineTransform false n x) k = x k := by
  have hLength : (n : ℂ) ≠ 0 := Nat.cast_ne_zero.mpr hPos
  have hUndo := dft_inv_dft (unitRoot_primitive hPos) x hBelow
  exact (congrArg (· / (n : ℂ)) hUndo).trans (mul_div_cancel_left₀ _ hLength)

variable [CDouble ℝ]

section Loops

variable {plan : FFTPlan2D ℝ} {inverse inPlace : Bool} {input output : ComplexArray ℝ}

/-- Where an element lies. -/
def planeAddress (plan : FFTPlan2D ℝ) (row col : ℕ) : ℕ :=
  row * plan.rowStride + col * plan.colStride

/-- Different elements lie in different places. -/
def Separate (plan : FFTPlan2D ℝ) : Prop :=
  ∀ row < plan.rows, ∀ col < plan.cols, ∀ row' < plan.rows, ∀ col' < plan.cols,
    planeAddress plan row col = planeAddress plan row' col' → row = row' ∧ col = col'

end Loops

/-! ### Initialised plans -/

section Planes

variable {heap : Heap} {rows cols rowStride colStride : ℕ} {plan : FFTPlan2D ℝ}

end Planes

end Oakfield
