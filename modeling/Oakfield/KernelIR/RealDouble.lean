import Mathlib.Analysis.SpecialFunctions.Pow.Real
import Oakfield.KernelIR.ExactDouble

/-! Doubles which are the real numbers, with the functions of analysis. -/
namespace Oakfield

/-- The fact behind a literal `10`. -/
theorem ten_atLeastTwo : Nat.AtLeastTwo 10 := ⟨by decide⟩

attribute [local instance] ten_atLeastTwo

/-- The elementary functions on doubles are those of the real numbers. -/
class ExactAnalysis [CDouble ℝ] : Prop where
  pi_eq : (CDouble.pi : ℝ) = Real.pi
  cos_eq (a : ℝ) : CDouble.cos a = Real.cos a
  sin_eq (a : ℝ) : CDouble.sin a = Real.sin a
  exp_eq (a : ℝ) : CDouble.exp a = Real.exp a

/-! ### An interpretation -/

end Oakfield
