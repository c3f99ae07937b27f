import Oakfield.Integrator.Schemes
import Oakfield.KernelIR.ExactDouble
import Oakfield.Library.Retry

/-! What a step reports of the attempt which it has written. -/
namespace Oakfield

open KernelIR CDouble Library.Procedure Library.Retry

variable {D μ : Type} [CDouble D]

/-! ### The schemes as loops of attempts -/

/-- The schemes with a loop over attempts. -/
inductive StepMethod where
  | euler
  | heun
  | rk4
  | rkf45
  | crankNicolson
  | backwardEuler
deriving DecidableEq, Repr

/-- The loop of the explicit schemes. -/
def explicitRetrying (integrator : Integrator D) (announced : Bool) (methodOrder : D)
    (attempt : D → Stages D (Trial D)) : Retrying (StageCall D) StageCall.Answer D (Trial D) where
  attempt step := do
    let trial ← attempt step
    return (trial, integrator.accepts trial.errorNorm step)
  retry step trial := some (integrator.rejectDt step trial.errorNorm methodOrder)
  between next := if announced then Stages.setCurrentDt next else pure ()

/-- The loop of the implicit schemes, whose attempts are accepted when they converge. -/
def implicitRetrying (integrator : Integrator D) (attempt : D → Stages D (StateBuffer D × Bool)) :
    Retrying (StageCall D) StageCall.Answer D (Trial D) where
  attempt step := do
    let (guess, converged) ← attempt step
    return (⟨guess, zero⟩, converged)
  retry step _ :=
    if !integrator.adaptive || le step integrator.minDt then none
    else some (fmax integrator.minDt (mul (mul integrator.safety half) step))
  between _ := pure ()

theorem attemptsFrom_zero (integrator : Integrator D) (announced : Bool) (methodOrder : D)
    (attempt : D → Stages D (Trial D)) (index : ℕ) (step : D) :
    attemptsFrom integrator announced methodOrder attempt 0 index step = (do
      let trial ← attempt step
      if integrator.accepts trial.errorNorm step then
        return ⟨trial.candidate, trial.errorNorm, step, index + 1, true⟩
      let next := integrator.rejectDt step trial.errorNorm methodOrder
      if announced then Stages.setCurrentDt next
      return ⟨trial.candidate, trial.errorNorm, next, index + 1, false⟩) := rfl

theorem attemptsFrom_succ (integrator : Integrator D) (announced : Bool) (methodOrder : D)
    (attempt : D → Stages D (Trial D)) (left index : ℕ) (step : D) :
    attemptsFrom integrator announced methodOrder attempt (left + 1) index step = (do
      let trial ← attempt step
      if integrator.accepts trial.errorNorm step then
        return ⟨trial.candidate, trial.errorNorm, step, index + 1, true⟩
      let next := integrator.rejectDt step trial.errorNorm methodOrder
      if announced then Stages.setCurrentDt next
      attemptsFrom integrator announced methodOrder attempt left (index + 1) next) := rfl

/-- The loop of the explicit schemes as a loop of attempts. -/
theorem attemptsFrom_eq (integrator : Integrator D) (announced : Bool) (methodOrder : D)
    (attempt : D → Stages D (Trial D)) (left index : ℕ) (step : D) :
    attemptsFrom integrator announced methodOrder attempt left index step = (do
      let ending ← (explicitRetrying integrator announced methodOrder attempt).attempts left index
        step
      return ⟨ending.result.candidate, ending.result.errorNorm, ending.param, ending.count,
        ending.accepted⟩) := by
  induction left generalizing index step with
  | zero =>
      rw [attemptsFrom_zero, Retrying.attempts]
      simp only [explicitRetrying, bind_assoc, pure_bind]
      refine bind_congr fun trial => ?_
      cases integrator.accepts trial.errorNorm step <;> cases announced <;> rfl
  | succ left ih =>
      rw [attemptsFrom_succ, Retrying.attempts]
      simp only [ih, explicitRetrying, bind_assoc, pure_bind]
      refine bind_congr fun trial => ?_
      cases integrator.accepts trial.errorNorm step <;> cases announced <;> rfl

/-- One round of the implicit schemes; `again` is what follows when the step is reduced. -/
def implicitRound (integrator : Integrator D) (attempt : D → Stages D (StateBuffer D × Bool))
    (index : ℕ) (step : D) (again : StateBuffer D → D → Stages D (Attempted D)) :
    Stages D (Attempted D) := do
  let (guess, converged) ← attempt step
  if converged then return ⟨guess, zero, step, index + 1, true⟩
  if !integrator.adaptive || le step integrator.minDt then return ⟨guess, zero, step, 6, false⟩
  again guess (fmax integrator.minDt (mul (mul integrator.safety half) step))

/-- Rounds of the implicit schemes as a loop of attempts. -/
theorem implicitRounds_eq {integrator : Integrator D}
    {attempt : D → Stages D (StateBuffer D × Bool)}
    {rounds : ℕ → ℕ → D → Stages D (Attempted D)}
    (hZero : ∀ index step, rounds 0 index step =
      implicitRound integrator attempt index step fun guess next =>
        return ⟨guess, zero, next, 6, false⟩)
    (hSucc : ∀ left index step, rounds (left + 1) index step =
      implicitRound integrator attempt index step fun _ next => rounds left (index + 1) next)
    (left index : ℕ) (step : D) :
    rounds left index step = (do
      let ending ← (implicitRetrying integrator attempt).attempts left index step
      return ⟨ending.result.candidate, ending.result.errorNorm, ending.param,
        if ending.accepted then ending.count else 6, ending.accepted⟩) := by
  induction left generalizing index step with
  | zero =>
      rw [hZero, implicitRound, Retrying.attempts]
      simp only [implicitRetrying, bind_assoc, pure_bind]
      refine bind_congr fun outcome => ?_
      cases outcome.2 <;> cases !integrator.adaptive || le step integrator.minDt <;> rfl
  | succ left ih =>
      rw [hSucc, implicitRound, Retrying.attempts]
      simp only [ih, implicitRetrying, bind_assoc, pure_bind]
      refine bind_congr fun outcome => ?_
      cases outcome.2 <;> cases !integrator.adaptive || le step integrator.minDt <;> rfl

/-- One attempt of `backward_euler`. -/
def backwardEulerAttempt (integrator : Integrator D) (isComplex : Bool) (count : ℕ) (step : D) :
    Stages D (StateBuffer D × Bool) := do
  let guess ← backwardEulerUpdate step (← Stages.drift (← Stages.state))
  backwardEulerIterate integrator isComplex count step 12 guess

/-- One attempt of `crank_nicolson`. -/
def crankNicolsonAttempt (integrator : Integrator D) (isComplex : Bool) (count : ℕ) (step : D) :
    Stages D (StateBuffer D × Bool) := do
  let k0 ← Stages.drift (← Stages.state)
  let guess ← backwardEulerUpdate step k0
  crankNicolsonIterate integrator isComplex count step k0 12 guess

theorem backwardEulerAttempts_eq (integrator : Integrator D) (isComplex : Bool)
    (count left index : ℕ) (step : D) :
    backwardEulerAttempts integrator isComplex count left index step = (do
      let ending ← (implicitRetrying integrator
        (backwardEulerAttempt integrator isComplex count)).attempts left index step
      return ⟨ending.result.candidate, ending.result.errorNorm, ending.param,
        if ending.accepted then ending.count else 6, ending.accepted⟩) := by
  refine implicitRounds_eq ?_ ?_ left index step
  · intro index step
    simp only [implicitRound, backwardEulerAttempt, bind_assoc]
    rfl
  · intro left index step
    simp only [implicitRound, backwardEulerAttempt, bind_assoc]
    rfl

theorem crankNicolsonAttempts_eq (integrator : Integrator D) (isComplex : Bool)
    (count left index : ℕ) (step : D) :
    crankNicolsonAttempts integrator isComplex count left index step = (do
      let ending ← (implicitRetrying integrator
        (crankNicolsonAttempt integrator isComplex count)).attempts left index step
      return ⟨ending.result.candidate, ending.result.errorNorm, ending.param,
        if ending.accepted then ending.count else 6, ending.accepted⟩) := by
  refine implicitRounds_eq ?_ ?_ left index step
  · intro index step
    simp only [implicitRound, crankNicolsonAttempt, bind_assoc]
    rfl
  · intro left index step
    simp only [implicitRound, crankNicolsonAttempt, bind_assoc]
    rfl

namespace StepMethod

def scheme : StepMethod → Scheme D
  | .euler => .euler
  | .heun => .heun
  | .rk4 => .rk4
  | .rkf45 => .rkf45
  | .crankNicolson => .crankNicolson
  | .backwardEuler => .backwardEuler

/-- Whether the counts of a step which is not accepted are those of a full budget. -/
def implicit : StepMethod → Bool
  | .euler | .heun | .rk4 | .rkf45 => false
  | .crankNicolson | .backwardEuler => true

/-- The attempts behind the first one. -/
def budget (method : StepMethod) : ℕ := if method.implicit then 5 else 7

/-- The loop of a scheme. -/
def retrying (method : StepMethod) (integrator : Integrator D) (isComplex : Bool) (count : ℕ) :
    Retrying (StageCall D) StageCall.Answer D (Trial D) :=
  match method with
  | .euler => explicitRetrying integrator false one (eulerAttempt integrator isComplex count)
  | .heun => explicitRetrying integrator false two (heunAttempt integrator isComplex count)
  | .rk4 => explicitRetrying integrator true (lit 4 0) (rk4Attempt integrator isComplex count)
  | .rkf45 => explicitRetrying integrator true (lit 4 0) (rkf45Attempt integrator isComplex count)
  | .crankNicolson => implicitRetrying integrator (crankNicolsonAttempt integrator isComplex count)
  | .backwardEuler => implicitRetrying integrator (backwardEulerAttempt integrator isComplex count)

/-- The count of attempts which is reported for a loop that has counted `count` of them. -/
def reportedCount (method : StepMethod) (accepted : Bool) (count : ℕ) : ℕ :=
  if method.implicit then if accepted then count else 6 else count

theorem reportedCount_accepted (method : StepMethod) (count : ℕ) :
    method.reportedCount true count = count := by
  rw [reportedCount, if_pos rfl, ite_self]

theorem stages_eq (method : StepMethod) (integrator : Integrator D) (isComplex : Bool) (count : ℕ)
    (step : D) :
    method.scheme.stages integrator isComplex count step = (do
      let ending ← (method.retrying integrator isComplex count).attempts method.budget 0 step
      return ⟨ending.result.candidate, ending.result.errorNorm, ending.param,
        method.reportedCount ending.accepted ending.count, ending.accepted⟩) := by
  cases method with
  | euler => exact attemptsFrom_eq ..
  | heun => exact attemptsFrom_eq ..
  | rk4 => exact attemptsFrom_eq ..
  | rkf45 => exact attemptsFrom_eq ..
  | crankNicolson => exact crankNicolsonAttempts_eq ..
  | backwardEuler => exact backwardEulerAttempts_eq ..

end StepMethod

/-! ### Steps with any drift function -/

/-- `integrator->drift`, from the count of elements and the number of earlier evaluations. -/
abbrev DriftFunction (D μ : Type) :=
  ℕ → ℕ → StateBuffer D → SimContext D μ → SimContext D μ × Except SimError (StateBuffer D)

/-- The procedure behind the stages. -/
def driftCall (drift : DriftFunction D μ) (target count : ℕ) : (request : StageCall D) →
    StageState D μ → StageState D μ × Except SimError request.Answer
  | .state, reached => (reached, .ok (reached.context.targetLanes target))
  | .drift candidate, reached =>
      let drifted := drift count reached.drifts candidate reached.context
      ({ reached with context := drifted.1, drifts := reached.drifts + 1 }, drifted.2)
  | .setCurrentDt dt, reached =>
      ({ reached with integrator := { reached.integrator with currentDt := dt } }, .ok ())

/-- The integrator with which the attempts begin. -/
def Scheme.started (scheme : Scheme D) (integrator : Integrator D) (dt : D) : Integrator D :=
  if scheme.announced then { integrator with currentDt := integrator.firstStep dt } else integrator

/-- What follows the attempts: the state is written, noise is added, and the integrator
keeps what it reports. -/
def Scheme.finish (scheme : Scheme D) (environment : StepEnvironment D) (integrator : Integrator D)
    (target count : ℕ) (isComplex : Bool) :
    StageState D μ × Except SimError (Attempted D) → StepOutcome D μ
  | (reached, .error failure) => ⟨reached.context, reached.integrator, .error failure⟩
  | (reached, .ok attempted) =>
      let size := count * if isComplex then 16 else 8
      let stored := reached.context.storeTarget target size attempted.candidate
      ⟨applyStochastic environment integrator target count attempted.step stored,
        { reached.integrator with
          lastStep := attempted.step
          lastError := attempted.errorNorm
          lastAttemptCount := attempted.attemptCount
          lastRejectionCount := if integrator.adaptive then attempted.attemptCount - 1 else 0
          currentDt := scheme.nextDt integrator attempted }, .ok ()⟩

/-- The step function of a scheme over a drift function. -/
def Scheme.stepWith (scheme : Scheme D) (environment : StepEnvironment D)
    (drift : DriftFunction D μ) (integrator : Integrator D) (target : ℕ) (dt : D)
    (context : SimContext D μ) : StepOutcome D μ :=
  match context.fields[target]? with
  | none => ⟨context, integrator, .ok ()⟩
  | some field =>
      let isComplex := field.domainIsComplex
      let count := field.stateLength
      let started := scheme.started integrator dt
      if count = 0 then ⟨context, integrator, .ok ()⟩
      else if !environment.workspace then ⟨context, integrator, .error .outOfMemory⟩
      else if (if isComplex then field.complexData else field.buffer).isNone then
        ⟨context, started, .ok ()⟩
      else
        scheme.finish environment started target count isComplex
          ((scheme.stages started isComplex count (integrator.firstStep dt)).run
            (driftCall drift target count) ⟨context, started, 0⟩)

/-- `integrator_context_drift` as a drift function. -/
def contextDriftFunction (environment : StepEnvironment D) (target : ℕ) : DriftFunction D μ :=
  fun count evaluations candidate context =>
    let drifted := context.contextDrift (environment.drifts evaluations) target count candidate
    (drifted.1, drifted.2.map fun derivative k => derivative.getD k indeterminate)

/-- The drift of the context is one of them. -/
theorem Scheme.stepWith_contextDriftFunction (scheme : Scheme D) (environment : StepEnvironment D)
    (integrator : Integrator D) (target : ℕ) (dt : D) (context : SimContext D μ) :
    scheme.stepWith environment (contextDriftFunction environment target) integrator target dt
      context = scheme.integratorStep environment integrator target dt context := by
  have hCall (count : ℕ) : driftCall (contextDriftFunction environment target) target count =
      stageCall (μ := μ) environment target count := by
    funext request reached
    cases request <;> rfl
  unfold stepWith integratorStep
  cases context.fields[target]? with
  | none => rfl
  | some field =>
      dsimp only
      rw [hCall, started]
      refine if_congr Iff.rfl rfl (if_congr Iff.rfl rfl (if_congr Iff.rfl rfl ?_))
      generalize (scheme.stages _ field.domainIsComplex field.stateLength _).run _ _ = run
      obtain ⟨reached, result⟩ := run
      cases result <;> rfl

/-! ### What a step reports -/

namespace StepMethod

variable (method : StepMethod) (environment : StepEnvironment D) (drift : DriftFunction D μ)
  (integrator : Integrator D) (target : ℕ) (field : SimField D) (dt : D) (context : SimContext D μ)

/-- The loop of a step on a field. -/
abbrev loop : Retrying (StageCall D) StageCall.Answer D (Trial D) :=
  method.retrying (method.scheme.started integrator dt) field.domainIsComplex field.stateLength

/-- An attempt of a step that has been evaluated: the update of the scheme computed with
the step length `param`, and its error norm. -/
abbrev EvaluatedAttempt : Type :=
  Evaluated (driftCall drift target field.stateLength) (method.loop integrator field dt).attempt

/-- The attempts which a step evaluates, in order. -/
def evaluated : List (method.EvaluatedAttempt drift integrator target field dt) :=
  (method.loop integrator field dt).evaluated (driftCall drift target field.stateLength)
    method.budget (integrator.firstStep dt) ⟨context, method.scheme.started integrator dt, 0⟩

/-- A step reports the attempt it has taken, the last one evaluated. -/
structure Reports (last : method.EvaluatedAttempt drift integrator target field dt)
    (outcome : StepOutcome D μ) : Prop where
  written : outcome.context = applyStochastic environment (method.scheme.started integrator dt)
    target field.stateLength outcome.integrator.lastStep
      (last.reached.context.storeTarget target
        (field.stateLength * if field.domainIsComplex then 16 else 8) last.result.candidate)
  lastStep : outcome.integrator.lastStep = last.param
  lastError : outcome.integrator.lastError = last.result.errorNorm
  lastAttemptCount : outcome.integrator.lastAttemptCount =
    (method.evaluated drift integrator target field dt context).length
  lastRejectionCount : integrator.adaptive = true → outcome.integrator.lastRejectionCount + 1 =
    (method.evaluated drift integrator target field dt context).length

/-- The last attempt is accepted, or leaving the loop without that changes neither the step
nor the count. -/
def Settled (last : method.EvaluatedAttempt drift integrator target field dt) : Prop :=
  last.accepted = true ∨
    ((method.loop integrator field dt).retry last.param last.result).getD last.param = last.param ∧
      method.reportedCount false
          (method.evaluated drift integrator target field dt context).length =
        (method.evaluated drift integrator target field dt context).length

variable {method environment drift integrator target field dt context}

theorem stepWith_of_written (hField : context.fields[target]? = some field)
    (hLength : field.stateLength ≠ 0) (hWorkspace : environment.workspace = true)
    (hPointer : (if field.domainIsComplex then field.complexData else field.buffer).isSome = true) :
    method.scheme.stepWith environment drift integrator target dt context =
      method.scheme.finish environment (method.scheme.started integrator dt) target
        field.stateLength field.domainIsComplex
        ((method.scheme.stages (method.scheme.started integrator dt) field.domainIsComplex
          field.stateLength (integrator.firstStep dt)).run
            (driftCall drift target field.stateLength)
          ⟨context, method.scheme.started integrator dt, 0⟩) := by
  unfold Scheme.stepWith
  rw [hField]
  dsimp only
  rw [if_neg hLength, hWorkspace, if_neg (by decide), Option.isNone_eq_false_iff.mpr hPointer,
    if_neg Bool.false_ne_true]

end StepMethod

theorem Scheme.started_adaptive (scheme : Scheme D) (integrator : Integrator D) (dt : D) :
    (scheme.started integrator dt).adaptive = integrator.adaptive := by
  unfold started
  split_ifs <;> rfl

/-- The calls between two attempts leave the context alone. -/
theorem StepMethod.between_context {method : StepMethod} {integrator : Integrator D}
    {isComplex : Bool} {count target : ℕ} {drift : DriftFunction D μ} {next : D}
    {start reached : StageState D μ}
    (hRun : ((method.retrying integrator isComplex count).between next).run
      (driftCall drift target count) start = (reached, .ok ())) :
    reached.context = start.context := by
  cases method <;> obtain rfl := (Prod.mk.inj hRun).1 <;> rfl

/-- A step that has written the field reports the step it has taken exactly when its loop is
left with an accepted attempt, or without any change to the step or the count. -/
theorem reportedStep_iff (method : StepMethod) (environment : StepEnvironment D)
    (drift : DriftFunction D μ) (integrator : Integrator D) (target : ℕ) (field : SimField D)
    (dt : D) (context : SimContext D μ) (hField : context.fields[target]? = some field)
    (hLength : field.stateLength ≠ 0) (hWorkspace : environment.workspace = true)
    (hPointer : (if field.domainIsComplex then field.complexData else field.buffer).isSome = true)
    (hOk : (method.scheme.stepWith environment drift integrator target dt context).result =
      .ok ()) :
    ∃ last, (method.evaluated drift integrator target field dt context).getLast? = some last ∧
      (method.Reports environment drift integrator target field dt context last
          (method.scheme.stepWith environment drift integrator target dt context) ↔
        method.Settled drift integrator target field dt context last) := by
  rw [StepMethod.stepWith_of_written hField hLength hWorkspace hPointer] at hOk ⊢
  cases hRun : (method.scheme.stages (method.scheme.started integrator dt) field.domainIsComplex
      field.stateLength (integrator.firstStep dt)).run (driftCall drift target field.stateLength)
      ⟨context, method.scheme.started integrator dt, 0⟩ with
  | mk reached result =>
  rw [hRun] at hOk
  cases result with
  | error failure => exact (nomatch hOk)
  | ok attempted =>
      rw [StepMethod.stages_eq] at hRun
      obtain ⟨ended, ending, hLoop, hEnd⟩ := Program.run_bind_ok hRun
      obtain ⟨rfl, hAttempted⟩ := Prod.mk.inj hEnd
      obtain rfl := Except.ok.inj hAttempted
      obtain ⟨hCount, last, hLast, hEnds⟩ := Retrying.attempts_ended _ _ _ _ hLoop
      rw [Nat.zero_add] at hCount
      have hContext : ended.context = last.reached.context := by
        rcases hEnds.reached with hSame | ⟨next, hBetween⟩
        · rw [hSame]
        · exact StepMethod.between_context hBetween
      have hParam := hEnds.param
      have hReported : method.reportedCount last.accepted ending.count =
          method.reportedCount ending.accepted ending.count := by rw [hEnds.accepted]
      refine ⟨last, hLast, ?_, ?_⟩
      · intro hReports
        have hStep : ending.param = last.param := hReports.lastStep
        have hAttempts : method.reportedCount ending.accepted ending.count =
            (method.evaluated drift integrator target field dt context).length :=
          hReports.lastAttemptCount
        rw [hParam] at hStep
        rw [← hReported] at hAttempts
        cases hAccepted : last.accepted with
        | true => exact .inl hAccepted
        | false =>
            rw [hAccepted] at hStep hAttempts
            exact .inr ⟨hStep, hCount ▸ hAttempts⟩
      · intro hSettled
        have hStep : ending.param = last.param := by
          rcases hSettled with hAccepted | ⟨hSame, -⟩
          · rw [hParam, hAccepted, if_pos rfl]
          · rw [hParam, hSame, ite_self]
        have hAttempts : method.reportedCount ending.accepted ending.count =
            (method.evaluated drift integrator target field dt context).length := by
          rw [← hReported]
          cases hAccepted : last.accepted with
          | true => exact (method.reportedCount_accepted _).trans hCount
          | false =>
              rcases hSettled with hAccepting | ⟨-, hSame⟩
              · exact absurd (hAccepted.symm.trans hAccepting) Bool.false_ne_true
              · exact hCount ▸ hSame
        have hPos : 0 < (method.evaluated drift integrator target field dt context).length :=
          List.length_pos_of_mem (List.mem_of_getLast? hLast)
        refine ⟨?_, hStep, congrArg Trial.errorNorm hEnds.result, hAttempts, fun hAdaptive => ?_⟩
        · unfold Scheme.finish
          dsimp only
          rw [hContext, hEnds.result]
        · unfold Scheme.finish
          dsimp only
          rw [Scheme.started_adaptive, hAdaptive, if_pos rfl, hAttempts]
          omega

/-- A context with one real element, which is `1`. -/
def oneRationalElement : SimContext ℚ Unit :=
  let start : SimContext ℚ Unit := .init ⟨0, 0, 0, 0, 0⟩ ()
  { start with fields := [.ofElementSize ⟨[1], [1], true⟩ 8 (.lanes fun _ => 1)] }

/-- The drift of `u' = u`. -/
def growingDrift : DriftFunction ℚ Unit := fun _ _ candidate context => (context, .ok candidate)

def fixedStepEnvironment : StepEnvironment ℚ where
  workspace := true
  drifts _ := ⟨true, fun _ => true, true, fun _ _ => true⟩
  gaussian _ := 0
  noise := none

/-- An integrator out of adaptive mode, with the default tolerance and safety. -/
def fixedStepIntegrator : Integrator ℚ where
  adaptive := false
  enableStochastic := false
  minDt := lit 1 (-6)
  maxDt := one
  tolerance := lit 1 (-4)
  safety := lit 9 (-1)
  currentDt := one
  lastStep := zero
  lastError := zero
  stochasticStrength := zero
  lastAttemptCount := 0
  lastRejectionCount := 0

def oneRationalField : SimField ℚ := .ofElementSize ⟨[1], [1], true⟩ 8 (.lanes fun _ => 1)

theorem reportedStep_iff_fixedStep :
    ∃ last, (StepMethod.backwardEuler.evaluated growingDrift fixedStepIntegrator 0
      oneRationalField 1
        oneRationalElement).getLast? = some last ∧
      (StepMethod.backwardEuler.Reports fixedStepEnvironment growingDrift fixedStepIntegrator 0
          oneRationalField 1 oneRationalElement last
          ((StepMethod.backwardEuler.scheme).stepWith fixedStepEnvironment growingDrift
            fixedStepIntegrator 0 1 oneRationalElement) ↔
        StepMethod.backwardEuler.Settled growingDrift fixedStepIntegrator 0 oneRationalField 1
          oneRationalElement last) :=
  reportedStep_iff .backwardEuler fixedStepEnvironment growingDrift fixedStepIntegrator 0
    oneRationalField 1 oneRationalElement rfl (by decide) rfl rfl (by decide +kernel)

/-- Backward Euler does not converge within its twelve iterations, and out of adaptive mode one
attempt is reported as six. -/
theorem backwardEuler_reports_six :
    (StepMethod.backwardEuler.scheme.stepWith fixedStepEnvironment growingDrift
      fixedStepIntegrator 0
        1 oneRationalElement).result = .ok () ∧
      ∀ last, ¬ StepMethod.backwardEuler.Reports fixedStepEnvironment growingDrift
        fixedStepIntegrator 0 oneRationalField 1 oneRationalElement last
        (StepMethod.backwardEuler.scheme.stepWith fixedStepEnvironment growingDrift
          fixedStepIntegrator 0 1 oneRationalElement) := by
  have hCounts : (StepMethod.backwardEuler.scheme.stepWith fixedStepEnvironment growingDrift
      fixedStepIntegrator 0 1 oneRationalElement).integrator.lastAttemptCount ≠
      (StepMethod.backwardEuler.evaluated growingDrift fixedStepIntegrator 0 oneRationalField 1
        oneRationalElement).length := by
    decide +kernel
  exact ⟨by decide +kernel, fun last hReports => hCounts hReports.lastAttemptCount⟩

end Oakfield
