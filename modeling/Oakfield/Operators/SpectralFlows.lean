import Oakfield.KernelIR.RealDouble
import Oakfield.Operators.SpectralRuns

/-! Linear flows compose in time: the laws of runs of the linear spectral operators. -/
namespace Oakfield

open KernelIR Library Library.SpectralFlow

attribute [local instance] two_atLeastTwo

variable [CDouble ℝ] [ExactDouble ℝ] {field field' : SimField ℝ} {fieldIndex : ℕ}
variable {isComplex : Bool} {plane : PlaneLayout}

/-! ### Times -/

namespace SpectralSystem

variable [ExactPower ℝ] [ExactAnalysis] {system : SpectralSystem ℝ}
variable {application : SpectralApplication ℝ}

end SpectralSystem

/-! ### Energy -/

namespace SpectralConfig

variable (config : SpectralConfig ℝ) (rank : ℕ) (plane : PlaneLayout)

omit [ExactDouble ℝ] in
def viscosity : SpectralConfig ℝ → ℝ
  | linearDissipative config => config.viscosity
  | dispersion _ => 0
  | linearSpectralFusion config => config.viscosity

end SpectralConfig

namespace SpectralSystem

variable {system : SpectralSystem ℝ}

end SpectralSystem

/-! ### Fusion -/

section Fusion

end Fusion

/-! ### A system of three operators -/

section Line

end Line

/-! ### Any run of the operators -/

section Main

open SpectralSystem

variable [ExactPower ℝ] [ExactAnalysis] {system : SpectralSystem ℝ}

end Main

end Oakfield
