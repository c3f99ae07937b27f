import Mathlib.Analysis.Complex.Basic
import Mathlib.Analysis.Complex.Trigonometric

/-! Flows which let the modes of a value grow at rates of their own. -/
namespace Library.SpectralFlow

variable {ι V : Type*} (T : V ≃ (ι → ℂ))

/-- The value whose modes are multiplied by the exponentials. -/
noncomputable def grow (exponent : ι → ℂ) (v : V) : V :=
  T.symm fun k => Complex.exp (exponent k) * T v k

theorem modes_grow (exponent : ι → ℂ) (v : V) (k : ι) :
    T (grow T exponent v) k = Complex.exp (exponent k) * T v k := by
  rw [grow, Equiv.apply_symm_apply]

/-- A value is known by its modes. -/
theorem eq_grow_iff {exponent : ι → ℂ} {v w : V} :
    w = grow T exponent v ↔ ∀ k, T w k = Complex.exp (exponent k) * T v k := by
  rw [← T.injective.eq_iff, funext_iff]
  simp only [modes_grow]

@[simp]
theorem grow_zero (v : V) : grow T 0 v = v := by
  refine ((eq_grow_iff T).mpr fun k => ?_).symm
  rw [Pi.zero_apply, Complex.exp_zero, one_mul]

/-- One growth after the other. -/
theorem grow_grow (first second : ι → ℂ) (v : V) :
    grow T second (grow T first v) = grow T (first + second) v := by
  refine (eq_grow_iff T).mpr fun k => ?_
  rw [modes_grow, modes_grow, Pi.add_apply, Complex.exp_add]
  ring

section Energy

variable {κ : Type*} [Fintype ι] [Fintype κ] {T : (κ → ℂ) ≃ (ι → ℂ)} {c : ℝ} {exponent : ι → ℂ}

end Energy

end Library.SpectralFlow
