import Oakfield.Operators.SavgolExact

/-! The `sieve` operator over runs: after a successful configuration every application of the
Savitzky-Golay modes differentiates sampled polynomials. -/
namespace Oakfield

open KernelIR Library Library.LocalFit Library.Run Finset Polynomial

variable {K : Type} [Field K] [LinearOrder K] [CDouble K] [ExactDouble K]
variable {state : SimSieveOperatorState K} {order d : ℕ} {scale h : K}

/-! ### The kernel of a state -/

/-- The kernel of the operator has the moments of a derivative, and the writes are plain. -/
structure HoldsSavgol (order d : ℕ) (scale : K) (state : SimSieveOperatorState K) : Prop where
  odd : state.kernelSize % 2 = 1
  lowPass : state.config.mode.isHighPassLike = false
  gain : state.config.gain = 1
  plain : state.config.accumulate = false
  moments : Moments (range state.kernelSize) (savgolNode state.kernelSize) state.kernel order d
    scale

/-- The order of the derivative which a configuration asks for. -/
def SimSieveOperatorConfig.derivative (config : SimSieveOperatorConfig K) : ℕ :=
  if config.mode = .savgolSmooth then 0 else config.derivativeOrder

omit [LinearOrder K] [ExactDouble K] [Field K] in
theorem SimSieveOperatorConfig.normalize_order (config : SimSieveOperatorConfig K)
    (previous : Option ℕ) :
    (config.normalize previous).polyOrder < (config.normalize previous).taps := by
  have hTaps : 3 ≤ sieveNormalizeTaps config.taps previous := by
    unfold sieveNormalizeTaps
    cases previous with
    | none => grind
    | some before => grind
  unfold SimSieveOperatorConfig.normalize
  dsimp only
  split_ifs <;> omega

/-- The arguments of an application: they may be others every time. -/
structure SieveCall (D : Type) where
  heap : Heap
  dt : D
  fields : List (SimField D)
  runtime : SimRuntimeState D

def SieveCall.run (call : SieveCall K) (state : SimSieveOperatorState K) :
    CallbackOutcome K (SimSieveOperatorState K) :=
  sieveApply call.heap call.dt call.fields call.runtime state

/-- Two states differ in their scratch arrays only. -/
structure SameSieve (state state' : SimSieveOperatorState K) : Prop where
  config_eq : state'.config = state.config
  kernel_eq : state'.kernel = state.kernel
  size_eq : state'.kernelSize = state.kernelSize

omit [LinearOrder K] [CDouble K] [ExactDouble K] in
theorem HoldsSavgol.same {state' : SimSieveOperatorState K}
    (hHolds : HoldsSavgol order d scale state) (hSame : SameSieve state state') :
    HoldsSavgol order d scale state' := by
  obtain ⟨hConfig, hKernel, hSize⟩ := hSame
  refine ⟨?_, ?_, ?_, ?_, ?_⟩
  · rw [hSize]
    exact hHolds.odd
  · rw [hConfig]
    exact hHolds.lowPass
  · rw [hConfig]
    exact hHolds.gain
  · rw [hConfig]
    exact hHolds.plain
  · rw [hSize, hKernel]
    exact hHolds.moments

end Oakfield
