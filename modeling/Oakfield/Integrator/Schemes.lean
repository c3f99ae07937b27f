import Oakfield.Integrator.Stages

/-! The Euler, Heun, Runge-Kutta, backward Euler and Crank-Nicolson schemes. -/
namespace Oakfield

open KernelIR CDouble Library.Procedure

variable {D : Type} [CDouble D]

/-- The norm which compares two states of either kind. -/
def measureError (isComplex : Bool) (a b : StateBuffer D) (count : ℕ) : D :=
  if isComplex then integratorMeasureErrorComplex a b count else integratorMeasureError a b count

/-- The norm of the embedded estimates for either kind. -/
def embeddedError (isComplex : Bool) (a b : StateBuffer D) (count : ℕ) : D :=
  if isComplex then integratorMeasureErrorComplex a b count else embeddedErrorReal a b count

/-! ### Euler -/

/-- One attempt of `euler`: a full step, and two half steps to compare it with. -/
def eulerAttempt (integrator : Integrator D) (isComplex : Bool) (count : ℕ) (step : D) :
    Stages D (Trial D) := do
  let halfStep := mul half step
  let k1 ← Stages.drift (← Stages.state)
  let state ← Stages.state
  let stateFull := simAccelWeightedSumReal [(one, state), (step, k1)]
  if integrator.adaptive then
    let stateHalf := simAccelWeightedSumReal [(one, state), (halfStep, k1)]
    let kHalf ← Stages.drift stateHalf
    let twoHalfState := simAccelWeightedSumReal [(one, stateHalf), (halfStep, kHalf)]
    return ⟨twoHalfState, measureError isComplex stateFull twoHalfState count⟩
  else
    return ⟨stateFull, zero⟩

def Scheme.euler : Scheme D where
  announced := false
  stages integrator isComplex count step :=
    attemptsFrom integrator false one (eulerAttempt integrator isComplex count) 7 0 step
  nextDt integrator attempted := integrator.suggestDt attempted.step attempted.errorNorm one

/-! ### Heun -/

/-- One attempt of `heun`: an Euler predictor, and the corrector to compare it with. -/
def heunAttempt (integrator : Integrator D) (isComplex : Bool) (count : ℕ) (step : D) :
    Stages D (Trial D) := do
  let k1 ← Stages.drift (← Stages.state)
  let eulerState := simAccelWeightedSumReal [(one, ← Stages.state), (step, k1)]
  let k2 ← Stages.drift eulerState
  let heunState := simAccelWeightedSumReal
    [(one, ← Stages.state), (mul step half, k1), (mul step half, k2)]
  if integrator.adaptive then
    return ⟨heunState, measureError isComplex eulerState heunState count⟩
  else
    return ⟨heunState, zero⟩

def Scheme.heun : Scheme D where
  announced := false
  stages integrator isComplex count step :=
    attemptsFrom integrator false two (heunAttempt integrator isComplex count) 7 0 step
  nextDt integrator attempted :=
    if integrator.adaptive && attempted.accepted then
      integrator.suggestDt attempted.step attempted.errorNorm two
    else integrator.clampDt attempted.step

/-! ### Classical Runge-Kutta -/

/-- `rk4_measure_heun_error_real` and `rk4_measure_heun_error_complex`. -/
def rk4MeasureHeunError (isComplex : Bool) (state k1 kEnd rk4State : StateBuffer D) (step : D)
    (count : ℕ) : D :=
  let heun : StateBuffer D := fun i =>
    add (state i) (mul (mul half step) (add (k1 i) (kEnd i)))
  embeddedError isComplex rk4State heun count

/-- One attempt of `rk4`. -/
def rk4Attempt (integrator : Integrator D) (isComplex : Bool) (count : ℕ) (step : D) :
    Stages D (Trial D) := do
  let sixth := div step (lit 6 0)
  let halfStep := mul step half
  let k1 ← Stages.drift (← Stages.state)
  let k2 ← Stages.drift (simAccelWeightedSumReal [(one, ← Stages.state), (halfStep, k1)])
  let k3 ← Stages.drift (simAccelWeightedSumReal [(one, ← Stages.state), (halfStep, k2)])
  let k4 ← Stages.drift (simAccelWeightedSumReal [(one, ← Stages.state), (step, k3)])
  let state ← Stages.state
  let temp := simAccelWeightedSumReal
    [(one, state), (sixth, k1), (mul two sixth, k2), (mul two sixth, k3), (sixth, k4)]
  if integrator.adaptive then
    let kEnd ← Stages.drift (simAccelWeightedSumReal [(one, state), (step, k1)])
    let state ← Stages.state
    return ⟨temp, rk4MeasureHeunError isComplex state k1 kEnd temp step count⟩
  else
    return ⟨temp, zero⟩

/-- The timestep which the embedded schemes suggest for the next call. -/
def embeddedNextDt (integrator : Integrator D) (attempted : Attempted D) : D :=
  if integrator.adaptive && attempted.accepted then
    integrator.suggestDt attempted.step attempted.errorNorm (lit 4 0)
  else integrator.clampDt attempted.step

def Scheme.rk4 : Scheme D where
  announced := true
  stages integrator isComplex count step :=
    attemptsFrom integrator true (lit 4 0) (rk4Attempt integrator isComplex count) 7 0 step
  nextDt := embeddedNextDt

/-! ### Runge-Kutta-Fehlberg -/

/-- `rkf45_finalize_real` and `rkf45_finalize_complex`: the fifth-order state,
and its distance to the fourth-order one. -/
def rkf45Finalize (isComplex : Bool) (state k1 k3 k4 k5 k6 : StateBuffer D) (step : D)
    (count : ℕ) : Trial D :=
  let fourth : StateBuffer D := fun i =>
    add (add (add (add (state i) (mul (mul step (ratio 25 216)) (k1 i)))
      (mul (mul step (ratio 1408 2565)) (k3 i))) (mul (mul step (ratio 2197 4104)) (k4 i)))
      (mul (mul step (neg (ratio 1 5))) (k5 i))
  let fifth : StateBuffer D := fun i =>
    add (add (add (add (add (state i) (mul (mul step (ratio 16 135)) (k1 i)))
      (mul (mul step (ratio 6656 12825)) (k3 i))) (mul (mul step (ratio 28561 56430)) (k4 i)))
      (mul (mul step (neg (ratio 9 50))) (k5 i))) (mul (mul step (ratio 2 55)) (k6 i))
  ⟨fifth, embeddedError isComplex fifth fourth count⟩

/-- One attempt of `rkf45`. -/
def rkf45Attempt (integrator : Integrator D) (isComplex : Bool) (count : ℕ) (step : D) :
    Stages D (Trial D) := do
  let quarter : D := if isComplex then lit 25 (-2) else ratio 1 4
  let k1 ← Stages.drift (← Stages.state)
  let k2 ← Stages.drift (simAccelWeightedSumReal [(one, ← Stages.state), (mul step quarter, k1)])
  let k3 ← Stages.drift (simAccelWeightedSumReal
    [(one, ← Stages.state), (mul step (ratio 3 32), k1), (mul step (ratio 9 32), k2)])
  let k4 ← Stages.drift (simAccelWeightedSumReal
    [(one, ← Stages.state), (mul step (ratio 1932 2197), k1),
      (mul step (neg (ratio 7200 2197)), k2), (mul step (ratio 7296 2197), k3)])
  let k5 ← Stages.drift (simAccelWeightedSumReal
    [(one, ← Stages.state), (mul step (ratio 439 216), k1), (mul step (neg (lit 8 0)), k2),
      (mul step (ratio 3680 513), k3), (mul step (neg (ratio 845 4104)), k4)])
  let k6 ← Stages.drift (simAccelWeightedSumReal
    [(one, ← Stages.state), (mul step (neg (ratio 8 27)), k1), (mul step two, k2),
      (mul step (neg (ratio 3544 2565)), k3), (mul step (ratio 1859 4104), k4),
      (mul step (neg (ratio 11 40)), k5)])
  let final := rkf45Finalize isComplex (← Stages.state) k1 k3 k4 k5 k6 step count
  return if integrator.adaptive then final else { final with errorNorm := zero }

def Scheme.rkf45 : Scheme D where
  announced := true
  stages integrator isComplex count step :=
    attemptsFrom integrator true (lit 4 0) (rkf45Attempt integrator isComplex count) 7 0 step
  nextDt := embeddedNextDt

/-! ### Backward Euler -/

/-- The Euler step from the target's data with a given slope. -/
def backwardEulerUpdate (step : D) (slope : StateBuffer D) : Stages D (StateBuffer D) := do
  let state ← Stages.state
  return fun i => add (state i) (mul step (slope i))

/-- The fixed-point iterations of one attempt, and whether they converged. -/
def backwardEulerIterate (integrator : Integrator D) (isComplex : Bool) (count : ℕ) (step : D) :
    ℕ → StateBuffer D → Stages D (StateBuffer D × Bool)
  | 0, guess => return (guess, false)
  | iterations + 1, guess => do
      let updated ← backwardEulerUpdate step (← Stages.drift guess)
      if le (measureError isComplex guess updated count) integrator.tolerance then
        return (updated, true)
      backwardEulerIterate integrator isComplex count step iterations updated

/-- The attempts of `backward_euler` from attempt `index` on, with `left` more
behind it. -/
def backwardEulerAttempts (integrator : Integrator D) (isComplex : Bool) (count : ℕ)
    (left index : ℕ) (step : D) : Stages D (Attempted D) := do
  let guess ← backwardEulerUpdate step (← Stages.drift (← Stages.state))
  let (guess, converged) ← backwardEulerIterate integrator isComplex count step 12 guess
  if converged then return ⟨guess, zero, step, index + 1, true⟩
  if !integrator.adaptive || le step integrator.minDt then return ⟨guess, zero, step, 6, false⟩
  let next := fmax integrator.minDt (mul (mul integrator.safety half) step)
  match left with
  | 0 => return ⟨guess, zero, next, 6, false⟩
  | left + 1 => backwardEulerAttempts integrator isComplex count left (index + 1) next

def Scheme.backwardEuler : Scheme D where
  announced := false
  stages integrator isComplex count step :=
    backwardEulerAttempts integrator isComplex count 5 0 step
  nextDt integrator attempted := integrator.clampDt attempted.step

/-! ### Crank-Nicolson -/

/-- The step from the target's data with the mean of two slopes. -/
def crankNicolsonUpdate (step : D) (k0 kGuess : StateBuffer D) : Stages D (StateBuffer D) := do
  let state ← Stages.state
  return fun i => add (state i) (mul (mul step half) (add (k0 i) (kGuess i)))

/-- The fixed-point iterations of one attempt, and whether they converged. -/
def crankNicolsonIterate (integrator : Integrator D) (isComplex : Bool) (count : ℕ) (step : D)
    (k0 : StateBuffer D) : ℕ → StateBuffer D → Stages D (StateBuffer D × Bool)
  | 0, guess => return (guess, false)
  | iterations + 1, guess => do
      let updated ← crankNicolsonUpdate step k0 (← Stages.drift guess)
      if le (measureError isComplex guess updated count) integrator.tolerance then
        return (updated, true)
      crankNicolsonIterate integrator isComplex count step k0 iterations updated

/-- The attempts of `crank_nicolson` from attempt `index` on, with `left` more behind it. -/
def crankNicolsonAttempts (integrator : Integrator D) (isComplex : Bool) (count : ℕ)
    (left index : ℕ) (step : D) : Stages D (Attempted D) := do
  let k0 ← Stages.drift (← Stages.state)
  let guess ← backwardEulerUpdate step k0
  let (guess, converged) ← crankNicolsonIterate integrator isComplex count step k0 12 guess
  if converged then return ⟨guess, zero, step, index + 1, true⟩
  if !integrator.adaptive || le step integrator.minDt then return ⟨guess, zero, step, 6, false⟩
  let next := fmax integrator.minDt (mul (mul integrator.safety half) step)
  match left with
  | 0 => return ⟨guess, zero, next, 6, false⟩
  | left + 1 => crankNicolsonAttempts integrator isComplex count left (index + 1) next

def Scheme.crankNicolson : Scheme D where
  announced := false
  stages integrator isComplex count step :=
    crankNicolsonAttempts integrator isComplex count 5 0 step
  nextDt integrator attempted := integrator.clampDt attempted.step

end Oakfield
