import Oakfield.Integrator.Drift
import Oakfield.Library.Procedure

/-! Integrators: the timestep controller, error norms, and the stage evaluations
through the drift of the context. -/
namespace Oakfield

open KernelIR Library.Procedure

variable {D μ : Type} [CDouble D]

/-! ### Arithmetic shared by the schemes -/

namespace CDouble

/-- The quotient of two literals, as constant expressions spell it. -/
def ratio (numerator denominator : ℤ) : D := div (lit numerator 0) (lit denominator 0)

end CDouble

open CDouble

/-- A buffer of the workspace by lanes. An element of a complex state takes two. -/
abbrev StateBuffer (D : Type) := ℕ → D

/-- `sim_accel_weighted_sum_real`. -/
def simAccelWeightedSumReal (terms : List (D × StateBuffer D)) : StateBuffer D := fun k =>
  terms.foldl (fun value term =>
    if eq term.1 zero then value else add value (mul term.1 (term.2 k))) zero

/-- The maximum of all terms, in four interleaved accumulators. -/
def maxOfTerms (count : ℕ) (term : ℕ → D) : D :=
  let quads := count / 4
  let column (lane : ℕ) := (List.range quads).foldl
    (fun most group => fmax most (term (4 * group + lane))) zero
  let rest := (List.range (count % 4)).foldl
    (fun most lane => fmax most (term (4 * quads + lane))) (column 0)
  fmax (fmax rest (column 1)) (fmax (column 2) (column 3))

/-- The root of the mean of all terms, in two interleaved sums. -/
def rootMeanOfTerms (count : ℕ) (term : ℕ → D) : D :=
  let pairs := count / 2
  let column (lane : ℕ) := (List.range pairs).foldl
    (fun sum group => add sum (term (2 * group + lane))) zero
  let rest := (List.range (count % 2)).foldl
    (fun sum lane => add sum (term (2 * pairs + lane))) (column 0)
  CDouble.sqrt (div (add rest (column 1)) (ofU64 (BitVec.ofNat 64 count)))

/-- `integrator_measure_error`. -/
def integratorMeasureError (a b : StateBuffer D) (count : ℕ) : D :=
  maxOfTerms count fun i =>
    let scale := fmax (fabs (a i)) (fabs (b i))
    div (fabs (sub (a i) (b i))) (if lt scale one then one else scale)

/-- `integrator_measure_error_complex`. -/
def integratorMeasureErrorComplex (a b : StateBuffer D) (count : ℕ) : D :=
  let square (re im : D) := add (mul re re) (mul im im)
  rootMeanOfTerms count fun i =>
    let diff := square (sub (a (2 * i)) (b (2 * i))) (sub (a (2 * i + 1)) (b (2 * i + 1)))
    let scale := fmax (fmax (square (a (2 * i)) (a (2 * i + 1))) (square (b (2 * i)) (b (2 * i + 1))))
      one
    div diff scale

/-- The norm by which the embedded estimates compare real states. -/
def embeddedErrorReal (state companion : StateBuffer D) (count : ℕ) : D :=
  maxOfTerms count fun i =>
    div (fabs (sub (state i) (companion i)))
      (fmax (fmax (fabs (state i)) (fabs (companion i))) one)

/-! ### Integrators -/

/-- The part of `Integrator` which steps read and write. -/
structure Integrator (D : Type) where
  adaptive : Bool
  enableStochastic : Bool
  minDt : D
  maxDt : D
  tolerance : D
  safety : D
  currentDt : D
  lastStep : D
  lastError : D
  stochasticStrength : D
  lastAttemptCount : ℕ
  lastRejectionCount : ℕ

namespace Integrator

/-- `integrator_clamp_dt`. -/
def clampDt (integrator : Integrator D) (dt : D) : D :=
  let clamped := if lt dt integrator.minDt then integrator.minDt else dt
  if gt clamped integrator.maxDt then integrator.maxDt else clamped

/-- `integrator_suggest_dt`. -/
def suggestDt (integrator : Integrator D) (dt errorNorm methodOrder : D) : D :=
  if !integrator.adaptive then integrator.clampDt dt
  else
    let safeguardedError := if le errorNorm (lit 1 (-12)) then lit 1 (-12) else errorNorm
    let order := if lt methodOrder one then one else methodOrder
    let factor := mul integrator.safety
      (pow (div integrator.tolerance safeguardedError) (div one (add order one)))
    let limited :=
      if gt factor two then two else if lt factor (lit 25 (-2)) then lit 25 (-2) else factor
    integrator.clampDt (mul dt limited)

/-- `integrator_reject_dt`. -/
def rejectDt (integrator : Integrator D) (dt errorNorm methodOrder : D) : D :=
  if !gt dt integrator.minDt || !isfinite dt then integrator.clampDt integrator.minDt
  else
    let unusable (value : D) := !isfinite value || !gt value zero || ge value dt
    let suggested := integrator.suggestDt dt errorNorm methodOrder
    let suggested :=
      if unusable suggested then
        let fallback := mul (mul integrator.safety half) dt
        if unusable fallback then mul half dt else fallback
      else suggested
    let suggested := if lt suggested integrator.minDt then integrator.minDt else suggested
    let suggested :=
      if ge suggested dt then fmax integrator.minDt (mul half dt) else suggested
    integrator.clampDt suggested

/-- The timestep with which a step starts. -/
def firstStep (integrator : Integrator D) (dt : D) : D :=
  integrator.clampDt (if gt dt zero then dt else integrator.currentDt)

end Integrator

omit [CDouble D] in
/-- `integrator_state_length`. -/
def SimField.stateLength (field : SimField D) : ℕ :=
  if field.bytes = 0 then 0
  else if field.elementSize = 8 then field.bytes / 8
  else if field.elementSize = 16 then field.bytes / 16
  else 0

/-! ### Stages -/

/-- What the stages of a scheme ask for: the target's data, through a pointer
kept over the whole step; a drift evaluation; and an update of `current_dt`. -/
inductive StageCall (D : Type) where
  | state
  | drift (candidate : StateBuffer D)
  | setCurrentDt (dt : D)

abbrev StageCall.Answer : StageCall D → Type
  | .state | .drift _ => StateBuffer D
  | .setCurrentDt _ => Unit

/-- The stages of a scheme. -/
abbrev Stages (D : Type) := Program (StageCall D) StageCall.Answer

namespace Stages

omit [CDouble D]

def state : Stages D (StateBuffer D) := Program.ask StageCall.state

def drift (candidate : StateBuffer D) : Stages D (StateBuffer D) :=
  Program.ask (StageCall.drift candidate)

def setCurrentDt (dt : D) : Stages D Unit := Program.ask (StageCall.setCurrentDt dt)

end Stages

/-- What a step gets from outside: whether the workspace can be allocated, the
allocations of its drift evaluations in order, and the samples which
`integrator_apply_stochastic` draws, none where the noise callback fails. -/
structure StepEnvironment (D : Type) where
  workspace : Bool
  drifts : ℕ → DriftAllocations
  gaussian : StateBuffer D
  noise : Option (StateBuffer D)

/-- The state of a step between its stages. -/
structure StageState (D μ : Type) where
  context : SimContext D μ
  integrator : Integrator D
  drifts : ℕ

/-- The lanes behind the pointer to the data of the target. -/
def SimContext.targetLanes (target : ℕ) (context : SimContext D μ) : StateBuffer D :=
  match context.targetData SimField.buffer target with
  | none => fun _ => indeterminate
  | some data => data.lane

/-- The procedure behind the stages. -/
def stageCall (environment : StepEnvironment D) (target count : ℕ) : (request : StageCall D) →
    StageState D μ → StageState D μ × Except SimError request.Answer
  | .state, reached => (reached, .ok (reached.context.targetLanes target))
  | .drift candidate, reached =>
      let drifted := reached.context.contextDrift (environment.drifts reached.drifts) target count
        candidate
      ({ reached with context := drifted.1, drifts := reached.drifts + 1 },
        drifted.2.map fun derivative k => derivative.getD k indeterminate)
  | .setCurrentDt dt, reached =>
      ({ reached with integrator := { reached.integrator with currentDt := dt } }, .ok ())

/-! ### Attempts -/

/-- The outcome of one attempt, with its error norm. -/
structure Trial (D : Type) where
  candidate : StateBuffer D
  errorNorm : D

/-- The outcome of the loop over the attempts. -/
structure Attempted (D : Type) where
  candidate : StateBuffer D
  errorNorm : D
  step : D
  attemptCount : ℕ
  accepted : Bool

/-- Whether an attempt is accepted. -/
def Integrator.accepts (integrator : Integrator D) (errorNorm step : D) : Bool :=
  !integrator.adaptive || le errorNorm integrator.tolerance || le step integrator.minDt

/-- The loop of the explicit schemes from attempt `index` on, with `left` more
behind it. Where `announced`, a smaller step is stored in `current_dt`. -/
def attemptsFrom (integrator : Integrator D) (announced : Bool) (methodOrder : D)
    (attempt : D → Stages D (Trial D)) (left index : ℕ) (step : D) : Stages D (Attempted D) := do
  let trial ← attempt step
  if integrator.accepts trial.errorNorm step then
    return ⟨trial.candidate, trial.errorNorm, step, index + 1, true⟩
  let next := integrator.rejectDt step trial.errorNorm methodOrder
  if announced then Stages.setCurrentDt next
  match left with
  | 0 => return ⟨trial.candidate, trial.errorNorm, next, index + 1, false⟩
  | left + 1 => attemptsFrom integrator announced methodOrder attempt left (index + 1) next

/-! ### Steps -/

/-- `integrator_apply_stochastic`. -/
def applyStochastic (environment : StepEnvironment D) (integrator : Integrator D)
    (target count : ℕ) (dt : D) (context : SimContext D μ) : SimContext D μ :=
  if !integrator.enableStochastic || le integrator.stochasticStrength zero then context
  else
    let scale := mul integrator.stochasticStrength (CDouble.sqrt dt)
    let inject (lanes : ℕ) (samples : StateBuffer D) :=
      { context with
        fields := context.fields.modify target fun field =>
          { field with
            data := field.data.map fun data => .lanes fun k =>
              if k < lanes then add (data.lane k) (mul scale (samples k)) else data.lane k } }
    match context.fields[target]? with
    | none => context
    | some field =>
        if field.buffer.isNone then context
        else if field.storageIsComplex then inject (count * 2) environment.gaussian
        else
          match environment.noise with
          | none => context
          | some samples => inject count samples

/-- What a step leaves. The C functions return no code; `error` stands for a
return on the failure of a function which the step has called. -/
structure StepOutcome (D μ : Type) where
  context : SimContext D μ
  integrator : Integrator D
  result : Except SimError Unit

/-- A scheme which reads its drifts through the context. -/
structure Scheme (D : Type) where
  /-- The first timestep is stored in `current_dt` as well. -/
  announced : Bool
  stages : Integrator D → Bool → ℕ → D → Stages D (Attempted D)
  /-- The timestep for the next call. -/
  nextDt : Integrator D → Attempted D → D

/-- The step function of a scheme, for a target field of the context. -/
def Scheme.integratorStep (scheme : Scheme D) (environment : StepEnvironment D)
    (integrator : Integrator D) (target : ℕ) (dt : D) (context : SimContext D μ) :
    StepOutcome D μ :=
  match context.fields[target]? with
  | none => ⟨context, integrator, .ok ()⟩
  | some field =>
      let isComplex := field.domainIsComplex
      let count := field.stateLength
      let pointer := if isComplex then field.complexData else field.buffer
      if count = 0 then ⟨context, integrator, .ok ()⟩
      else if !environment.workspace then ⟨context, integrator, .error .outOfMemory⟩
      else
        let step := integrator.firstStep dt
        let integrator :=
          if scheme.announced then { integrator with currentDt := step } else integrator
        if pointer.isNone then ⟨context, integrator, .ok ()⟩
        else
          match (scheme.stages integrator isComplex count step).run
              (stageCall environment target count) ⟨context, integrator, 0⟩ with
          | (reached, .error failure) => ⟨reached.context, reached.integrator, .error failure⟩
          | (reached, .ok attempted) =>
              let size := count * if isComplex then 16 else 8
              let stored := reached.context.storeTarget target size attempted.candidate
              ⟨applyStochastic environment integrator target count attempted.step stored,
                { reached.integrator with
                  lastStep := attempted.step
                  lastError := attempted.errorNorm
                  lastAttemptCount := attempted.attemptCount
                  lastRejectionCount :=
                    if integrator.adaptive then attempted.attemptCount - 1 else 0
                  currentDt := scheme.nextDt integrator attempted }, .ok ()⟩

end Oakfield
