import Oakfield.KernelIR.Builder

/-! Sampling of analytic warps with their continuity guards. -/
namespace Oakfield.KernelIR

open CDouble

variable {D : Type} [CDouble D]

/-- `sim_warp_clamp_value`: an unordered or unbounded range does not clamp. -/
def simWarpClampValue (value clampMin clampMax : D) : D :=
  if !(isfinite clampMin && isfinite clampMax && lt clampMin clampMax) then value
  else if lt value clampMin then clampMin
  else if gt value clampMax then clampMax
  else value

def simWarpPositiveOrDefault (requested fallback : D) : D :=
  if isfinite requested && gt requested zero then requested else fallback

structure SimWarpSampleSpec (D : Type) where
  sample : D
  bias : D
  delta : D
  lambda : D
  guard : SimIRWarpGuard D

/-- The value to return when the gradient at the sample itself is unusable, from
the gradients on both sides of it. -/
def simWarpCandidate (mode : SimContinuityMode) (plus minus : Except SimError D) : D :=
  let havePlus := match plus with | .ok g => isfinite g | .error _ => false
  let haveMinus := match minus with | .ok g => isfinite g | .error _ => false
  let gPlus := match plus with | .ok g => g | .error _ => nan
  let gMinus := match minus with | .ok g => g | .error _ => nan
  if mode = .clamped then
    if havePlus then gPlus else if haveMinus then gMinus else nan
  else if havePlus && haveMinus then mul (lit 5 (-1)) (add gPlus gMinus)
  else if havePlus then gPlus
  else if haveMinus then gMinus
  else nan

/-- `sim_warp_sample_gradient`. Outside the guarded modes a non-finite gradient
leaves the caller's `0.0` in place. -/
def simWarpSampleGradient (spec : SimWarpSampleSpec D) (gradientFn : D → Except SimError D) :
    Except SimError D :=
  let biased := add spec.sample spec.bias
  let guarded := spec.guard.mode = .clamped ∨ spec.guard.mode = .limited
  let retry : Except SimError D :=
    let fallbackTol := simWarpPositiveOrDefault (fabs spec.delta) (lit 1 (-6))
    let epsilon := simWarpPositiveOrDefault spec.guard.tolerance fallbackTol
    let candidate := simWarpCandidate spec.guard.mode (gradientFn (add biased epsilon))
      (gradientFn (sub biased epsilon))
    let candidate := if !isfinite candidate then zero else candidate
    .ok (simWarpClampValue candidate spec.guard.clampMin spec.guard.clampMax)
  match gradientFn biased with
  | .ok gradient =>
      if isfinite gradient then
        if guarded then .ok (simWarpClampValue gradient spec.guard.clampMin spec.guard.clampMax)
        else .ok gradient
      else if guarded then retry
      else .ok zero
  | .error e => if guarded then retry else .error e

def simWarpSampleResponse (spec : SimWarpSampleSpec D) (gradientFn : D → Except SimError D) :
    Except SimError D :=
  match simWarpSampleGradient spec gradientFn with
  | .error e => .error e
  | .ok gradient =>
      if !isfinite gradient then .error .invalidArgument
      else if !isfinite spec.lambda then .error .invalidArgument
      else
        let delta := simWarpPositiveOrDefault (fabs spec.delta) (lit 1 (-6))
        let response := mul (mul spec.lambda (mul two delta)) gradient
        if !isfinite response then .error .invalidArgument else .ok response

def simIrWarpProfileEval (profile : SimIRWarpProfile) (x tolerance : D) : D :=
  match profile with
  | .trigamma => trigamma x
  | .digamma7Tail => digamma7 x
  | .digamma5Tail => digamma5 x
  | .digammaAdaptive => digammaTail x (simIrPositiveOrDefault tolerance (lit 1 (-6)))
  | .digammaMortici => digammaMortici x
  | .digamma => digamma x

def simIrWarpGradientProbe (profile : SimIRWarpProfile) (delta tolerance sample : D) :
    Except SimError D :=
  let delta := simIrPositiveOrDefault delta (lit 1 (-6))
  let fPlus := simIrWarpProfileEval profile (add sample delta) tolerance
  let fMinus := simIrWarpProfileEval profile (sub sample delta) tolerance
  if !isfinite fPlus || !isfinite fMinus then .error .invalidArgument
  else
    let gradient := div (sub fPlus fMinus) (mul two delta)
    if !isfinite gradient then .error .invalidArgument else .ok gradient

/-- `sim_ir_warp_sample_response` without a fallback hook. -/
def simIrWarpSampleResponse (spec : SimWarpSampleSpec D) (profile : SimIRWarpProfile)
    (tolerance : D) : Except SimError D :=
  simWarpSampleResponse spec
    (simIrWarpGradientProbe profile (simIrPositiveOrDefault spec.delta (lit 1 (-6)))
      (simIrPositiveOrDefault tolerance (lit 1 (-6))))

/-- The response of a warp node at a sample of its operand. -/
def SimIRWarp.response (warp : SimIRWarp D) (sample : D) : Except SimError D :=
  simIrWarpSampleResponse ⟨sample, warp.bias, warp.delta, warp.lambda, warp.guard⟩ warp.profile
    warp.tolerance

end Oakfield.KernelIR
