import Oakfield.Integrator.Controller
import Oakfield.Integrator.Etdrk4
import Oakfield.Integrator.Subordination
import Oakfield.Library.Run

/-! Timesteps over whole runs: `current_dt` between the bounds, and the steps of each loop of
attempts. -/
namespace Oakfield

open CDouble hiding nan
open KernelIR Library Library.Procedure Library.Retry
open Library.ExtendedRational (number nan)

/-! ### Calls of the stages -/

section

variable {D μ : Type} [CDouble D] {stored : D → Prop}

/-- A call which stores no timestep but those with a property. -/
def StageCall.Stores (stored : D → Prop) : StageCall D → Prop
  | .state | .drift _ => True
  | .setCurrentDt dt => stored dt

omit [CDouble D] in
theorem stores_state : Stages.state.OnlyCalls (StageCall.Stores stored) :=
  ⟨trivial, fun _ => trivial⟩

omit [CDouble D] in
theorem stores_drift (candidate : StateBuffer D) :
    (Stages.drift candidate).OnlyCalls (StageCall.Stores stored) :=
  ⟨trivial, fun _ => trivial⟩

theorem eulerAttempt_stores (integrator : Integrator D) (isComplex : Bool) (count : ℕ) (step : D) :
    (eulerAttempt integrator isComplex count step).OnlyCalls (StageCall.Stores stored) := by
  unfold eulerAttempt
  refine .bind stores_state fun _ => .bind (stores_drift _) fun k1 =>
    .bind stores_state fun state => ?_
  split_ifs
  · exact .bind (stores_drift _) fun _ => trivial
  · trivial

theorem heunAttempt_stores (integrator : Integrator D) (isComplex : Bool) (count : ℕ) (step : D) :
    (heunAttempt integrator isComplex count step).OnlyCalls (StageCall.Stores stored) := by
  unfold heunAttempt
  refine .bind stores_state fun _ => .bind (stores_drift _) fun k1 =>
    .bind stores_state fun _ => .bind (stores_drift _) fun k2 => .bind stores_state fun _ => ?_
  split_ifs <;> trivial

theorem rk4Attempt_stores (integrator : Integrator D) (isComplex : Bool) (count : ℕ) (step : D) :
    (rk4Attempt integrator isComplex count step).OnlyCalls (StageCall.Stores stored) := by
  unfold rk4Attempt
  refine .bind stores_state fun _ => .bind (stores_drift _) fun k1 =>
    .bind stores_state fun _ => .bind (stores_drift _) fun k2 =>
    .bind stores_state fun _ => .bind (stores_drift _) fun k3 =>
    .bind stores_state fun _ => .bind (stores_drift _) fun k4 => .bind stores_state fun _ => ?_
  split_ifs
  · exact .bind (stores_drift _) fun _ => .bind stores_state fun _ => trivial
  · trivial

theorem rkf45Attempt_stores (integrator : Integrator D) (isComplex : Bool) (count : ℕ) (step : D) :
    (rkf45Attempt integrator isComplex count step).OnlyCalls (StageCall.Stores stored) := by
  unfold rkf45Attempt
  exact .bind stores_state fun _ => .bind (stores_drift _) fun k1 =>
    .bind stores_state fun _ => .bind (stores_drift _) fun k2 =>
    .bind stores_state fun _ => .bind (stores_drift _) fun k3 =>
    .bind stores_state fun _ => .bind (stores_drift _) fun k4 =>
    .bind stores_state fun _ => .bind (stores_drift _) fun k5 =>
    .bind stores_state fun _ => .bind (stores_drift _) fun k6 => .bind stores_state fun _ => trivial

theorem backwardEulerAttempt_stores (integrator : Integrator D) (isComplex : Bool) (count : ℕ)
    (step : D) :
    (backwardEulerAttempt integrator isComplex count step).OnlyCalls
      (StageCall.Stores stored) := by
  have hIterate (iterations : ℕ) (guess : StateBuffer D) :
      (backwardEulerIterate integrator isComplex count step iterations guess).OnlyCalls
        (StageCall.Stores stored) := by
    induction iterations generalizing guess with
    | zero => trivial
    | succ iterations ih =>
        refine .bind (stores_drift _) fun _ => .bind (.bind stores_state fun _ => trivial)
          fun updated => ?_
        split_ifs
        · trivial
        · exact ih updated
  unfold backwardEulerAttempt
  exact .bind stores_state fun _ => .bind (stores_drift _) fun _ =>
    .bind (.bind stores_state fun _ => trivial) fun guess => hIterate 12 guess

theorem crankNicolsonAttempt_stores (integrator : Integrator D) (isComplex : Bool) (count : ℕ)
    (step : D) :
    (crankNicolsonAttempt integrator isComplex count step).OnlyCalls
      (StageCall.Stores stored) := by
  have hIterate (k0 : StateBuffer D) (iterations : ℕ) (guess : StateBuffer D) :
      (crankNicolsonIterate integrator isComplex count step k0 iterations guess).OnlyCalls
        (StageCall.Stores stored) := by
    induction iterations generalizing guess with
    | zero => trivial
    | succ iterations ih =>
        refine .bind (stores_drift _) fun _ => .bind (.bind stores_state fun _ => trivial)
          fun updated => ?_
        split_ifs
        · trivial
        · exact ih updated
  unfold crankNicolsonAttempt
  exact .bind stores_state fun _ => .bind (stores_drift _) fun k0 =>
    .bind (.bind stores_state fun _ => trivial) fun guess => hIterate k0 12 guess

theorem explicitRetrying_stores {integrator : Integrator D} {announced : Bool} {methodOrder : D}
    {attempt : D → Stages D (Trial D)}
    (hAttempt : ∀ step, (attempt step).OnlyCalls (StageCall.Stores stored)) :
    (∀ step, ((explicitRetrying integrator announced methodOrder attempt).attempt step).OnlyCalls
        (StageCall.Stores stored)) ∧
      ∀ next, stored next →
        ((explicitRetrying integrator announced methodOrder attempt).between next).OnlyCalls
          (StageCall.Stores stored) := by
  refine ⟨fun step => .bind (hAttempt step) fun _ => trivial, fun next hNext => ?_⟩
  cases announced with
  | false => trivial
  | true => exact ⟨hNext, fun _ => trivial⟩

/-- The loops store no timesteps but those of their retries. -/
theorem StepMethod.retrying_stores (method : StepMethod) (integrator : Integrator D)
    (isComplex : Bool) (count : ℕ) :
    (∀ step, ((method.retrying integrator isComplex count).attempt step).OnlyCalls
        (StageCall.Stores stored)) ∧
      ∀ next, (method.implicit = false → stored next) →
        ((method.retrying integrator isComplex count).between next).OnlyCalls
          (StageCall.Stores stored) := by
  have hExplicit {announced : Bool} {methodOrder : D} {attempt : D → Stages D (Trial D)}
      (hAttempt : ∀ step, (attempt step).OnlyCalls (StageCall.Stores stored)) :
      (∀ step, ((explicitRetrying integrator announced methodOrder attempt).attempt step).OnlyCalls
        (StageCall.Stores stored)) ∧ ∀ next, (false = false → stored next) →
        ((explicitRetrying integrator announced methodOrder attempt).between next).OnlyCalls
          (StageCall.Stores stored) :=
    ⟨(explicitRetrying_stores hAttempt).1, fun next hNext =>
      (explicitRetrying_stores hAttempt).2 next (hNext rfl)⟩
  cases method with
  | euler => exact hExplicit (eulerAttempt_stores integrator isComplex count)
  | heun => exact hExplicit (heunAttempt_stores integrator isComplex count)
  | rk4 => exact hExplicit (rk4Attempt_stores integrator isComplex count)
  | rkf45 => exact hExplicit (rkf45Attempt_stores integrator isComplex count)
  | crankNicolson =>
      exact ⟨fun step => .bind (crankNicolsonAttempt_stores integrator isComplex count step)
        fun _ => trivial, fun _ _ => trivial⟩
  | backwardEuler =>
      exact ⟨fun step => .bind (backwardEulerAttempt_stores integrator isComplex count step)
        fun _ => trivial, fun _ _ => trivial⟩

end

section

variable {μ : Type} [CDouble ExtendedRational] [ExtendedDouble]
  {integrator : Integrator ExtendedRational} {dt : ExtendedRational}

/-! ### Retries -/

/-- What all steps of a loop have in common, whether or not they decrease. -/
def StepMethod.StepInBounds (method : StepMethod) (integrator : Integrator ExtendedRational)
    (step : ExtendedRational) : Prop :=
  integrator.minDt ≤ step ∧ (method.implicit = false → step ≤ integrator.maxDt)

/-- A retry keeps to the bounds of its scheme. -/
theorem StepMethod.retry_inBounds (method : StepMethod) (hWell : integrator.WellConfigured)
    {isComplex : Bool} {count : ℕ} {step next : ExtendedRational} {trial : Trial ExtendedRational}
    (hStep : method.StepInBounds integrator step)
    (hNext : (method.retrying integrator isComplex count).retry step trial = some next) :
    method.StepInBounds integrator next := by
  have hExplicit {methodOrder : ExtendedRational} (hMethod : method.implicit = false)
      (hReject : integrator.rejectDt step trial.errorNorm methodOrder = next) :
      method.StepInBounds integrator next := by
    obtain ⟨hMin, hMax⟩ := (hWell.rejectDt_spec ⟨hStep.1, hStep.2 hMethod⟩ trial.errorNorm
      methodOrder).1
    exact hReject ▸ ⟨hMin, fun _ => hMax⟩
  have hImplicit (hMethod : method.implicit = true) (hReduce :
      (if !integrator.adaptive || le step integrator.minDt then none
        else some (fmax integrator.minDt (mul (mul integrator.safety half) step))) = some next) :
      method.StepInBounds integrator next := by
    split_ifs at hReduce
    obtain rfl := Option.some.inj hReduce
    exact ⟨ExtendedDouble.le_fmax_left (ExtendedRational.ne_nan_of_le_left hWell.bounds) _,
      fun hExplicitMethod => absurd (hMethod.symm.trans hExplicitMethod) (by decide)⟩
  cases method with
  | euler | heun | rk4 | rkf45 => exact hExplicit rfl (Option.some.inj hNext)
  | crankNicolson | backwardEuler => exact hImplicit rfl hNext

/-- The growth factor of the reductions of the implicit schemes is below one. -/
def StepMethod.Shrinks (method : StepMethod) (integrator : Integrator ExtendedRational)
    (step : ExtendedRational) : Prop :=
  method.implicit = true → integrator.safety < number 2 ∧ step.isFinite = true

theorem above_minDt {step : ExtendedRational} (hWell : integrator.WellConfigured)
    (hStep : integrator.minDt ≤ step) (hStop : ¬ le step integrator.minDt = true) :
    integrator.minDt < step :=
  ExtendedRational.lt_of_not_le (ExtendedRational.ne_nan_of_le_right hStep)
    (ExtendedRational.ne_nan_of_le_left hWell.bounds)
    fun hLe => hStop ((ExtendedDouble.le_iff _ _).mpr hLe)

/-- Half of a factor below two makes a finite step smaller. -/
theorem mul_half_lt {safety step : ExtendedRational} (hSafety : number 0 < safety)
    (hTwo : safety < number 2) (hPos : number 0 < step) (hFinite : step.isFinite = true) :
    mul (mul safety half) step < step := by
  rw [ExtendedDouble.mul_eq, ExtendedDouble.mul_eq, ExtendedDouble.half_eq]
  cases safety with
  | nan | negInf => exact (nomatch hSafety)
  | posInf => exact (nomatch hTwo)
  | number factor =>
      cases step with
      | nan | negInf | posInf => exact (nomatch hFinite)
      | number value =>
          rw [ExtendedRational.number_lt_number] at hTwo hPos
          refine ExtendedRational.number_lt_number.mpr ?_
          calc factor * (1 / 2) * value < 1 * value :=
                mul_lt_mul_of_pos_right (by linarith) hPos
            _ = value := one_mul value

/-- The retry of a rejected attempt has a smaller step. -/
theorem StepMethod.retry_lt (method : StepMethod) (hWell : integrator.WellConfigured)
    {isComplex : Bool} {count target : ℕ} {drift : DriftFunction ExtendedRational μ}
    (this : Evaluated (driftCall drift target count)
      (method.retrying integrator isComplex count).attempt)
    (hStep : method.StepInBounds integrator this.param)
    (hShrinks : method.Shrinks integrator this.param) (hRejected : this.accepted = false)
    {next : ExtendedRational}
    (hNext : (method.retrying integrator isComplex count).retry this.param this.result =
      some next) :
    next < this.param := by
  have hExplicit {announced : Bool} {methodOrder : ExtendedRational}
      {attempt : ExtendedRational → Stages ExtendedRational (Trial ExtendedRational)}
      (hMethod : method.implicit = false)
      (hRan : ((explicitRetrying integrator announced methodOrder attempt).attempt this.param).run
        (driftCall drift target count) this.start =
          (this.reached, .ok (this.result, this.accepted)))
      (hReject : integrator.rejectDt this.param this.result.errorNorm methodOrder = next) :
      next < this.param := by
    obtain ⟨_, trial, _, hDone⟩ := Program.run_bind_ok hRan
    have hAccepts : integrator.accepts trial.errorNorm this.param = false :=
      (Prod.mk.inj (Except.ok.inj (Prod.mk.inj hDone).2)).2.trans hRejected
    unfold Integrator.accepts at hAccepts
    have hAbove := above_minDt hWell hStep.1
      (Bool.eq_false_iff.mp (Bool.or_eq_false_iff.mp hAccepts).2)
    exact hReject ▸ (hWell.rejectDt_spec ⟨hStep.1, hStep.2 hMethod⟩ _ _).2 hAbove
  have hImplicit (hMethod : method.implicit = true) (hReduce :
      (if !integrator.adaptive || le this.param integrator.minDt then none
        else some (fmax integrator.minDt (mul (mul integrator.safety half) this.param))) =
        some next) :
      next < this.param := by
    split_ifs at hReduce with hStop
    obtain rfl := Option.some.inj hReduce
    rw [Bool.or_eq_true, not_or] at hStop
    obtain ⟨hTwo, hFinite⟩ := hShrinks hMethod
    exact ExtendedDouble.fmax_lt (above_minDt hWell hStep.1 hStop.2)
      (mul_half_lt hWell.safety hTwo (ExtendedRational.lt_of_lt_of_le hWell.minDt hStep.1) hFinite)
  have hRan := this.ran
  cases method with
  | euler | heun | rk4 | rkf45 => exact hExplicit rfl hRan (Option.some.inj hNext)
  | crankNicolson | backwardEuler => exact hImplicit rfl hNext

/-- A retry of an implicit scheme stays finite. -/
theorem StepMethod.retry_shrinks (method : StepMethod) (hWell : integrator.WellConfigured)
    {isComplex : Bool} {count : ℕ} {step next : ExtendedRational} {trial : Trial ExtendedRational}
    (hStep : method.StepInBounds integrator step) (hShrinks : method.Shrinks integrator step)
    (hNext : (method.retrying integrator isComplex count).retry step trial = some next) :
    method.Shrinks integrator next := by
  have hImplicit (hMethod : method.implicit = true) (hReduce :
      (if !integrator.adaptive || le step integrator.minDt then none
        else some (fmax integrator.minDt (mul (mul integrator.safety half) step))) = some next) :
      method.Shrinks integrator next := by
    have hPos := ExtendedRational.lt_of_lt_of_le hWell.minDt
      (method.retry_inBounds hWell hStep hNext).1
    split_ifs at hReduce
    obtain rfl := Option.some.inj hReduce
    obtain ⟨hTwo, hFinite⟩ := hShrinks hMethod
    have hSmaller := mul_half_lt hWell.safety hTwo
      (ExtendedRational.lt_of_lt_of_le hWell.minDt hStep.1) hFinite
    exact fun _ => ⟨hTwo, ExtendedRational.isFinite_of_le hPos
      (ExtendedDouble.fmax_le hStep.1 (ExtendedRational.le_of_lt hSmaller)) hFinite⟩
  cases method with
  | euler | heun | rk4 | rkf45 => exact fun hMethod => (nomatch hMethod)
  | crankNicolson | backwardEuler => exact hImplicit rfl hNext

/-- The attempts of a loop keep to the bounds, each has a smaller step than the one before, and
so has the retry which follows the last one. In the implicit schemes this takes a growth factor
below one. -/
theorem StepMethod.evaluated_decreasing (method : StepMethod) (hWell : integrator.WellConfigured)
    {isComplex : Bool} {count target : ℕ} {drift : DriftFunction ExtendedRational μ} (left : ℕ)
    {step : ExtendedRational} (start : StageState ExtendedRational μ)
    (hStep : method.StepInBounds integrator step)
    (hShrinks : (∃ this ∈ (method.retrying integrator isComplex count).evaluated
        (driftCall drift target count) left step start, this.accepted = false ∧
          (method.retrying integrator isComplex count).retry this.param this.result ≠ none) →
      method.Shrinks integrator step) :
    (∀ this ∈ (method.retrying integrator isComplex count).evaluated
        (driftCall drift target count) left step start,
      method.StepInBounds integrator this.param ∧ (this.accepted = false →
        ∀ next ∈ (method.retrying integrator isComplex count).retry this.param this.result,
          integrator.minDt ≤ next ∧ next < this.param)) ∧
      ((method.retrying integrator isComplex count).evaluated (driftCall drift target count) left
        step start).IsChain fun this later => later.param < this.param := by
  have hInBounds (step : ExtendedRational) (trial : Trial ExtendedRational)
      (next : ExtendedRational) (hInv : method.StepInBounds integrator step)
      (hNext : (method.retrying integrator isComplex count).retry step trial = some next) :
      method.StepInBounds integrator next := method.retry_inBounds hWell hInv hNext
  obtain ⟨hBounds, hChain, -⟩ :=
    Retrying.evaluated_chain (driftCall drift target count) hInBounds left step start hStep
  have hShrinking (hRetried : ∃ this ∈ (method.retrying integrator isComplex count).evaluated
      (driftCall drift target count) left step start, this.accepted = false ∧
        (method.retrying integrator isComplex count).retry this.param this.result ≠ none) :
      ∀ this ∈ (method.retrying integrator isComplex count).evaluated
        (driftCall drift target count) left step start, method.Shrinks integrator this.param := by
    have hInv (step : ExtendedRational) (trial : Trial ExtendedRational) (next : ExtendedRational)
        (hInv : method.StepInBounds integrator step ∧ method.Shrinks integrator step)
        (hNext : (method.retrying integrator isComplex count).retry step trial = some next) :
        method.StepInBounds integrator next ∧ method.Shrinks integrator next :=
      ⟨method.retry_inBounds hWell hInv.1 hNext, method.retry_shrinks hWell hInv.1 hInv.2 hNext⟩
    intro this hMem
    exact ((Retrying.evaluated_chain (driftCall drift target count) hInv left step start
      ⟨hStep, hShrinks hRetried⟩).1 this hMem).2
  have hRetry (this) (hMem : this ∈ (method.retrying integrator isComplex count).evaluated
      (driftCall drift target count) left step start) (hRejected : this.accepted = false)
      (next : ExtendedRational)
      (hNext : (method.retrying integrator isComplex count).retry this.param this.result =
        some next) :
      integrator.minDt ≤ next ∧ next < this.param := by
    have hShrinks := hShrinking ⟨this, hMem, hRejected, by rw [hNext]; exact Option.some_ne_none _⟩
      this hMem
    exact ⟨(method.retry_inBounds hWell (hBounds this hMem) hNext).1,
      method.retry_lt hWell this (hBounds this hMem) hShrinks hRejected hNext⟩
  refine ⟨fun this hMem => ⟨hBounds this hMem, hRetry this hMem⟩, hChain.imp_of_mem_imp ?_⟩
  intro this later hMem _ hLater
  exact (hRetry this hMem hLater.1 later.param hLater.2).2

/-! ### Steps -/

/-- An integrator with a configuration in order, and its timestep between its bounds. -/
structure Integrator.Controlled (integrator : Integrator ExtendedRational) : Prop where
  well : integrator.WellConfigured
  current : integrator.InRange integrator.currentDt

theorem Scheme.started_controlled (scheme : Scheme ExtendedRational)
    (hControlled : integrator.Controlled) (dt : ExtendedRational) :
    (scheme.started integrator dt).Controlled ∧
      (scheme.started integrator dt).InRange (integrator.firstStep dt) := by
  have hFirst := hControlled.well.firstStep_inRange hControlled.current dt
  unfold started
  split_ifs
  · obtain ⟨hMin, hBounds, hTolerance, hSafety⟩ := hControlled.well
    exact ⟨⟨⟨hMin, hBounds, hTolerance, hSafety⟩, hFirst⟩, hFirst⟩
  · exact ⟨hControlled, hFirst⟩

/-- The order for which the next timestep is suggested from the error estimate, none where the
step itself is kept. -/
def StepMethod.suggestionOrder : StepMethod → Bool → Option ExtendedRational
  | .euler, _ => some one
  | .heun, true => some two
  | .rk4, true | .rkf45, true => some (lit 4 0)
  | .heun, false | .rk4, false | .rkf45, false | .crankNicolson, _ | .backwardEuler, _ => none

theorem StepMethod.nextDt_inRange (method : StepMethod) (hWell : integrator.WellConfigured)
    {attempted : Attempted ExtendedRational}
    (hStep : method.StepInBounds integrator attempted.step)
    (hGrowth : integrator.adaptive = true → ∀ order ∈ method.suggestionOrder attempted.accepted,
      integrator.growthFactor attempted.errorNorm order ≠ nan) :
    integrator.InRange (method.scheme.nextDt integrator attempted) := by
  have hClamped : integrator.InRange (integrator.clampDt attempted.step) :=
    hWell.clampDt_inRange (ExtendedRational.ne_nan_of_le_right hStep.1)
  have hEmbedded {order : ExtendedRational} (hMethod : method.implicit = false)
      (hOrder : attempted.accepted = true →
        method.suggestionOrder attempted.accepted = some order) :
      integrator.InRange (if integrator.adaptive && attempted.accepted then
        integrator.suggestDt attempted.step attempted.errorNorm order
      else integrator.clampDt attempted.step) := by
    split_ifs with hSuggests
    · obtain ⟨hAdaptive, hAccepted⟩ := Bool.and_eq_true_iff.mp hSuggests
      exact (hWell.suggestDt_inRange_iff ⟨hStep.1, hStep.2 hMethod⟩).mpr
        fun _ => hGrowth hAdaptive order (hOrder hAccepted)
    · exact hClamped
  cases method with
  | euler =>
      exact (hWell.suggestDt_inRange_iff ⟨hStep.1, hStep.2 rfl⟩).mpr
        fun hAdaptive => hGrowth hAdaptive one rfl
  | heun => exact hEmbedded rfl fun hAccepted => by rw [hAccepted]; rfl
  | rk4 => exact hEmbedded rfl fun hAccepted => by rw [hAccepted]; rfl
  | rkf45 => exact hEmbedded rfl fun hAccepted => by rw [hAccepted]; rfl
  | crankNicolson => exact hClamped
  | backwardEuler => exact hClamped

/-- The stages of a step end with its last evaluated attempt, and the step within bounds. -/
theorem StepMethod.stages_ended (method : StepMethod) (hWell : integrator.WellConfigured)
    {isComplex : Bool} {count target : ℕ} {drift : DriftFunction ExtendedRational μ}
    {step : ExtendedRational} {start reached : StageState ExtendedRational μ}
    {attempted : Attempted ExtendedRational} (hStep : method.StepInBounds integrator step)
    (hRun : (method.scheme.stages integrator isComplex count step).run
      (driftCall drift target count)
      start = (reached, .ok attempted)) :
    method.StepInBounds integrator attempted.step ∧
      ∃ last, ((method.retrying integrator isComplex count).evaluated (driftCall drift target count)
          method.budget step start).getLast? = some last ∧
        attempted.errorNorm = last.result.errorNorm ∧ attempted.accepted = last.accepted := by
  have hInBounds (step : ExtendedRational) (trial : Trial ExtendedRational)
      (next : ExtendedRational) (hInv : method.StepInBounds integrator step)
      (hNext : (method.retrying integrator isComplex count).retry step trial = some next) :
      method.StepInBounds integrator next := method.retry_inBounds hWell hInv hNext
  rw [StepMethod.stages_eq] at hRun
  obtain ⟨ended, ending, hLoop, hEnd⟩ := Program.run_bind_ok hRun
  obtain ⟨rfl, hAttempted⟩ := Prod.mk.inj hEnd
  obtain rfl := Except.ok.inj hAttempted
  obtain ⟨-, last, hLast, hEnds⟩ := Retrying.attempts_ended _ _ _ _ hLoop
  have hBounds := (Retrying.evaluated_chain (driftCall drift target count) hInBounds method.budget
    step start hStep).1 last (List.mem_of_getLast? hLast)
  refine ⟨?_, last, hLast, congrArg Trial.errorNorm hEnds.result, hEnds.accepted⟩
  dsimp only
  rw [hEnds.param]
  split_ifs
  · exact hBounds
  · cases hNext : (method.retrying integrator isComplex count).retry last.param last.result with
    | none => exact hBounds
    | some next => exact method.retry_inBounds hWell hBounds hNext

/-- The integrator during the stages is the one they began with, but for the timestep, which is
within the bounds. -/
theorem StepMethod.stages_kept (method : StepMethod) (hControlled : integrator.Controlled)
    (isComplex : Bool) (count target : ℕ) (drift : DriftFunction ExtendedRational μ)
    (context : SimContext ExtendedRational μ) {step : ExtendedRational}
    (hStep : method.StepInBounds integrator step) :
    ∃ dt, integrator.InRange dt ∧
      ((method.scheme.stages integrator isComplex count step).run (driftCall drift target count)
        ⟨context, integrator, 0⟩).1.integrator = { integrator with currentDt := dt } := by
  have hInBounds (step : ExtendedRational) (trial : Trial ExtendedRational)
      (next : ExtendedRational) (hInv : method.StepInBounds integrator step)
      (hNext : (method.retrying integrator isComplex count).retry step trial = some next) :
      method.StepInBounds integrator next := method.retry_inBounds hControlled.well hInv hNext
  have hCalls : (method.scheme.stages integrator isComplex count step).OnlyCalls
      (StageCall.Stores integrator.InRange) := by
    obtain ⟨hAttempt, hBetween⟩ := method.retrying_stores integrator isComplex count
    rw [StepMethod.stages_eq]
    exact .bind (Retrying.attempts_onlyCalls hInBounds hAttempt
      (fun next hNext => hBetween next fun hMethod => ⟨hNext.1, hNext.2 hMethod⟩) method.budget 0
      hStep) fun _ => trivial
  have hCall (request : StageCall ExtendedRational) (reached : StageState ExtendedRational μ)
      (hStored : request.Stores integrator.InRange)
      (hKept : ∃ dt, integrator.InRange dt ∧
        reached.integrator = { integrator with currentDt := dt }) :
      ∃ dt, integrator.InRange dt ∧ (driftCall drift target count request reached).1.integrator =
        { integrator with currentDt := dt } := by
    cases request with
    | state => exact hKept
    | drift candidate => exact hKept
    | setCurrentDt dt =>
        obtain ⟨_, _, hSame⟩ := hKept
        refine ⟨dt, hStored, ?_⟩
        rw [driftCall]
        dsimp only
        rw [hSame]
  exact hCalls.run_invariant hCall _ ⟨integrator.currentDt, hControlled.current, rfl⟩

/-- The step reaches its stages: there is something to write, and room for it. -/
structure StepMethod.Runs (environment : StepEnvironment ExtendedRational)
    (field : SimField ExtendedRational) : Prop where
  length : field.stateLength ≠ 0
  workspace : environment.workspace = true
  pointer : (if field.domainIsComplex then field.complexData else field.buffer).isSome = true

/-- Where a step ends well, the growth factor behind the timestep it suggests is not a NaN. -/
def StepMethod.SuggestsNumber (method : StepMethod)
    (environment : StepEnvironment ExtendedRational) (drift : DriftFunction ExtendedRational μ)
    (integrator : Integrator ExtendedRational) (target : ℕ) (field : SimField ExtendedRational)
    (dt : ExtendedRational) (context : SimContext ExtendedRational μ) : Prop :=
  (method.scheme.stepWith environment drift integrator target dt context).result = .ok () →
    integrator.adaptive = true →
      ∀ last ∈ (method.evaluated drift integrator target field dt context).getLast?,
        ∀ order ∈ method.suggestionOrder last.accepted,
          integrator.growthFactor last.result.errorNorm order ≠ nan

omit [ExtendedDouble] in
theorem Scheme.started_growthFactor (scheme : Scheme ExtendedRational)
    (integrator : Integrator ExtendedRational) (dt errorNorm order : ExtendedRational) :
    (scheme.started integrator dt).growthFactor errorNorm order =
      integrator.growthFactor errorNorm order := by
  unfold started
  split_ifs <;> rfl

/-- A step keeps the timestep within the bounds, unless it suggests one from a NaN. -/
theorem StepMethod.stepWith_controlled (method : StepMethod)
    (environment : StepEnvironment ExtendedRational) (drift : DriftFunction ExtendedRational μ)
    (target : ℕ) (dt : ExtendedRational) (context : SimContext ExtendedRational μ)
    (hControlled : integrator.Controlled)
    (hSuggests : ∀ field, context.fields[target]? = some field → StepMethod.Runs environment field →
      method.SuggestsNumber environment drift integrator target field dt context) :
    (method.scheme.stepWith environment drift integrator target dt
    context).integrator.Controlled := by
  obtain ⟨hStarted, hStep⟩ := method.scheme.started_controlled hControlled dt
  cases hField : context.fields[target]? with
  | none =>
      unfold Scheme.stepWith
      rw [hField]
      exact hControlled
  | some field =>
      by_cases hRuns : StepMethod.Runs environment field
      case pos =>
        have hNumber := hSuggests field hField hRuns
        unfold StepMethod.SuggestsNumber at hNumber
        rw [StepMethod.stepWith_of_written hField hRuns.length hRuns.workspace hRuns.pointer]
          at hNumber ⊢
        have hInBounds : method.StepInBounds (method.scheme.started integrator dt)
            (integrator.firstStep dt) := ⟨hStep.1, fun _ => hStep.2⟩
        obtain ⟨kept, hKept, hReached⟩ := method.stages_kept hStarted field.domainIsComplex
          field.stateLength target drift context hInBounds
        obtain ⟨hMin, hBounds, hTolerance, hSafety⟩ := hStarted.well
        cases hRun : (method.scheme.stages (method.scheme.started integrator dt)
            field.domainIsComplex field.stateLength (integrator.firstStep dt)).run
            (driftCall drift target field.stateLength)
            ⟨context, method.scheme.started integrator dt, 0⟩ with
        | mk reached result =>
        rw [hRun] at hReached hNumber
        dsimp only at hReached
        cases result with
        | error failure =>
            unfold Scheme.finish
            dsimp only
            rw [hReached]
            exact ⟨⟨hMin, hBounds, hTolerance, hSafety⟩, hKept⟩
        | ok attempted =>
            obtain ⟨hEnd, last, hLast, hError, hAccepted⟩ :=
              method.stages_ended hStarted.well hInBounds hRun
            have hNext : (method.scheme.started integrator dt).InRange
                (method.scheme.nextDt (method.scheme.started integrator dt) attempted) := by
              refine method.nextDt_inRange hStarted.well hEnd fun hAdaptive order hOrder => ?_
              rw [Scheme.started_adaptive] at hAdaptive
              rw [Scheme.started_growthFactor, hError]
              exact hNumber rfl hAdaptive last hLast order (hAccepted ▸ hOrder)
            unfold Scheme.finish
            dsimp only
            rw [hReached]
            exact ⟨⟨hMin, hBounds, hTolerance, hSafety⟩, hNext⟩
      case neg =>
        unfold Scheme.stepWith
        rw [hField]
        dsimp only
        by_cases hLength : field.stateLength = 0
        · rw [if_pos hLength]
          exact hControlled
        rw [if_neg hLength]
        cases hWorkspace : environment.workspace with
        | false =>
            rw [if_pos (by decide)]
            exact hControlled
        | true =>
            have hPointer : (if field.domainIsComplex then field.complexData
                else field.buffer).isNone = true := by
              rw [Option.isNone_iff_eq_none, ← Option.not_isSome_iff_eq_none]
              exact fun hSome => hRuns ⟨hLength, hWorkspace, hSome⟩
            rw [if_neg (by decide), if_pos hPointer]
            exact hStarted

/-- The scheme with exponential flows clamps the step it has taken. -/
theorem etdrk4Step_controlled (environment : Etdrk4Environment ExtendedRational) (target : ℕ)
    (dt : ExtendedRational) (context : SimContext ExtendedRational μ)
    (hControlled : integrator.Controlled) :
    (etdrk4Step environment integrator target dt context).integrator.Controlled := by
  obtain ⟨hMin, hBounds, hTolerance, hSafety⟩ := hControlled.well
  have hFirst := hControlled.well.firstStep_inRange hControlled.current dt
  have hNext := hControlled.well.clampDt_inRange hFirst.ne_nan
  unfold etdrk4Step
  cases context.fields[target]? with
  | none => exact hControlled
  | some field =>
      dsimp only
      split
      · exact hControlled
      · split
        · exact hControlled
        · split
          · exact hControlled
          · exact ⟨⟨hMin, hBounds, hTolerance, hSafety⟩, hNext⟩

/-- Subordination clamps the step it is given. -/
theorem subordinationStep_controlled (state : SubordinationState ExtendedRational)
    (environment : StepEnvironment ExtendedRational) (drift : DriftFunction ExtendedRational μ)
    (target : ℕ) {dt : ExtendedRational} (context : SimContext ExtendedRational μ)
    (hControlled : integrator.Controlled) (hNumber : dt ≠ nan) :
    (subordinationStep state environment drift integrator target dt
      context).integrator.Controlled := by
  obtain ⟨hMin, hBounds, hTolerance, hSafety⟩ := hControlled.well
  have hNext := hControlled.well.clampDt_inRange hNumber
  rcases subordinationStep_integrator state environment drift integrator target dt context with
    hSame | hStepped
  · rw [hSame]
    exact hControlled
  · rw [hStepped]
    exact ⟨⟨hMin, hBounds, hTolerance, hSafety⟩, hNext⟩

/-! ### Runs -/

/-- A call of the step function of an integrator, on a field of any context. -/
inductive TimestepCall (μ : Type) where
  | method (method : StepMethod) (environment : StepEnvironment ExtendedRational)
      (drift : DriftFunction ExtendedRational μ) (target : ℕ) (dt : ExtendedRational)
      (context : SimContext ExtendedRational μ)
  | etdrk4 (environment : Etdrk4Environment ExtendedRational) (target : ℕ) (dt : ExtendedRational)
      (context : SimContext ExtendedRational μ)
  | subordination (state : SubordinationState ExtendedRational)
      (environment : StepEnvironment ExtendedRational) (drift : DriftFunction ExtendedRational μ)
      (target : ℕ) (dt : ExtendedRational) (context : SimContext ExtendedRational μ)

namespace TimestepCall

/-- The integrator behind a call. -/
def apply (integrator : Integrator ExtendedRational) : TimestepCall μ → Integrator ExtendedRational
  | .method kind environment drift target dt context =>
      (kind.scheme.stepWith environment drift integrator target dt context).integrator
  | .etdrk4 environment target dt context =>
      (etdrk4Step environment integrator target dt context).integrator
  | .subordination state environment drift target dt context =>
      (subordinationStep state environment drift integrator target dt context).integrator

/-- No timestep is suggested from a NaN, and an implicit scheme which retries a rejected attempt
has a safety factor below two and begins with a finite step. -/
def Sound (integrator : Integrator ExtendedRational) : TimestepCall μ → Prop
  | .method kind environment drift target dt context =>
      ∀ field, context.fields[target]? = some field → StepMethod.Runs environment field →
        kind.SuggestsNumber environment drift integrator target field dt context ∧
          ((∃ this ∈ kind.evaluated drift integrator target field dt context,
              this.accepted = false ∧
                (kind.loop integrator field dt).retry this.param this.result ≠ none) →
            kind.Shrinks integrator (integrator.firstStep dt))
  | .etdrk4 .. => True
  | .subordination _ _ _ _ dt _ => dt ≠ nan

/-- The steps of the attempts decrease: each attempt has a smaller step than the one before, and
so has the retry that follows a rejected one, which does not go below the lower bound. -/
def Decreases (integrator : Integrator ExtendedRational) : TimestepCall μ → Prop
  | .method kind environment drift target dt context =>
      ∀ field, context.fields[target]? = some field → StepMethod.Runs environment field →
        ((kind.evaluated drift integrator target field dt context).IsChain
          fun this later => later.param < this.param) ∧
        ∀ this ∈ kind.evaluated drift integrator target field dt context, this.accepted = false →
          ∀ next ∈ (kind.loop integrator field dt).retry this.param this.result,
            integrator.minDt ≤ next ∧ next < this.param
  | .etdrk4 .. | .subordination .. => True

theorem apply_controlled (call : TimestepCall μ) (hControlled : integrator.Controlled)
    (hSound : call.Sound integrator) : (apply integrator call).Controlled := by
  cases call with
  | method kind environment drift target dt context =>
      exact kind.stepWith_controlled environment drift target dt context hControlled
        fun field hField hRuns => (hSound field hField hRuns).1
  | etdrk4 environment target dt context =>
      exact etdrk4Step_controlled environment target dt context hControlled
  | subordination state environment drift target dt context =>
      exact subordinationStep_controlled state environment drift target context hControlled hSound

theorem decreases_of_sound (call : TimestepCall μ) (hControlled : integrator.Controlled)
    (hSound : call.Sound integrator) : call.Decreases integrator := by
  cases call with
  | method kind environment drift target dt context =>
      intro field hField hRuns
      obtain ⟨hStarted, hStep⟩ := kind.scheme.started_controlled hControlled dt
      have hShrinks := (hSound field hField hRuns).2
      have hMin : (kind.scheme.started integrator dt).minDt = integrator.minDt := by
        unfold Scheme.started
        split_ifs <;> rfl
      have hSafety : (kind.scheme.started integrator dt).safety = integrator.safety := by
        unfold Scheme.started
        split_ifs <;> rfl
      unfold StepMethod.Shrinks at hShrinks
      rw [← hSafety] at hShrinks
      obtain ⟨hAll, hChain⟩ := kind.evaluated_decreasing hStarted.well kind.budget
        ⟨context, kind.scheme.started integrator dt, 0⟩ ⟨hStep.1, fun _ => hStep.2⟩ hShrinks
      exact ⟨hChain, fun this hMem hRejected => hMin ▸ (hAll this hMem).2 hRejected⟩
  | etdrk4 => trivial
  | subordination => trivial

end TimestepCall

/-- From every configuration, in every run of steps which suggest no timestep from a NaN, the
timestep is within the bounds; a rejection stays within them and reduces what is above the lower
one; and the attempts of each step have decreasing steps. -/
theorem timestepController {config : Option (IntegratorConfig ExtendedRational)}
    (hConfigured : integratorConfigure config = .ok integrator) (calls : List (TimestepCall μ))
    (hSound : Run.EachCall TimestepCall.apply (fun integrator call => call.Sound integrator)
      integrator calls) :
    let reached := Run.after TimestepCall.apply integrator calls
    reached.InRange reached.currentDt ∧
      (∀ dt errorNorm methodOrder, reached.InRange dt →
        reached.InRange (reached.rejectDt dt errorNorm methodOrder) ∧
          (reached.minDt < dt → reached.rejectDt dt errorNorm methodOrder < dt)) ∧
      Run.EachCall TimestepCall.apply (fun integrator call => call.Decreases integrator) integrator
        calls := by
  obtain ⟨hWell, hCurrent⟩ := integratorConfigure_spec hConfigured
  have hStep (integrator : Integrator ExtendedRational) (call : TimestepCall μ)
      (hControlled : integrator.Controlled) (hCall : call.Sound integrator) :
      (TimestepCall.apply integrator call).Controlled := call.apply_controlled hControlled hCall
  have hReached := Run.after_invariant Integrator.Controlled hStep ⟨hWell, hCurrent⟩ hSound
  refine ⟨hReached.current, fun dt errorNorm methodOrder hRange =>
    hReached.well.rejectDt_spec hRange errorNorm methodOrder, ?_⟩
  exact hSound.imp_of_invariant Integrator.Controlled
    (fun _ call hControlled hCall => call.decreases_of_sound hControlled hCall) hStep
    ⟨hWell, hCurrent⟩

end

/-! ### An error estimate which is a NaN -/

section

local instance : CDouble ExtendedRational := extendedArithmetic

local instance : ExtendedDouble := extendedArithmetic_lawful

/-- The default controller, with a drift function. -/
def defaultController : IntegratorConfig ExtendedRational :=
  { IntegratorConfig.defaults with drift := true }

/-- One complex element, which is `1`. -/
def oneComplexElement : SimContext ExtendedRational Unit :=
  let start : SimContext ExtendedRational Unit := .init ⟨0, 0, 0, 0, 0⟩ ()
  { start with
    fields := [.ofElementSize ⟨[1], [1], true⟩ 16
      (.lanes fun k => number (if k = 0 then 1 else 0))] }

def constantDrift (slope : ExtendedRational) : DriftFunction ExtendedRational Unit :=
  fun _ _ _ context => (context, .ok fun _ => slope)

/-- A step of `euler` on one complex element, by a drift function with constant values. -/
def constantDriftStep (slope : ExtendedRational) : TimestepCall Unit :=
  .method .euler
    ⟨true, fun _ => ⟨true, fun _ => true, true, fun _ _ => true⟩, fun _ => number 0, none⟩
    (constantDrift slope) 0 (number 0) oneComplexElement

/-- The integrator behind the configuration. -/
def configuredController : Integrator ExtendedRational where
  adaptive := true
  enableStochastic := false
  minDt := lit 1 (-6)
  maxDt := half
  tolerance := lit 1 (-4)
  safety := lit 9 (-1)
  currentDt := lit 1 (-2)
  lastStep := lit 1 (-2)
  lastError := number 0
  stochasticStrength := lit 1 (-2)
  lastAttemptCount := 1
  lastRejectionCount := 0

theorem integratorConfigure_default :
    integratorConfigure (some defaultController) = .ok configuredController := by
  with_unfolding_all rfl

theorem timestepController_constantDrift :
    let reached := Run.after TimestepCall.apply configuredController [constantDriftStep (number 0)]
    reached.InRange reached.currentDt ∧
      (∀ dt errorNorm methodOrder, reached.InRange dt →
        reached.InRange (reached.rejectDt dt errorNorm methodOrder) ∧
          (reached.minDt < dt → reached.rejectDt dt errorNorm methodOrder < dt)) ∧
      Run.EachCall TimestepCall.apply (fun integrator call => call.Decreases integrator)
        configuredController [constantDriftStep (number 0)] := by
  refine timestepController integratorConfigure_default [constantDriftStep (number 0)] ⟨?_, trivial⟩
  intro field hField _
  obtain rfl := Option.some.inj hField
  exact ⟨by unfold StepMethod.SuggestsNumber; decide +kernel, fun hRetried =>
    absurd hRetried (by decide +kernel)⟩

/-- A drift function with a NaN makes the error estimate of a complex state one, and from it the
next timestep. -/
theorem euler_suggests_nan :
    integratorConfigure (some defaultController) = .ok configuredController ∧
      (TimestepCall.apply configuredController
        (constantDriftStep ExtendedRational.nan)).currentDt = ExtendedRational.nan ∧
      ¬ (TimestepCall.apply configuredController (constantDriftStep ExtendedRational.nan)).InRange
        (TimestepCall.apply configuredController
          (constantDriftStep ExtendedRational.nan)).currentDt := by
  have hStored : (TimestepCall.apply configuredController
      (constantDriftStep ExtendedRational.nan)).currentDt = ExtendedRational.nan := by
    decide +kernel
  exact ⟨integratorConfigure_default, hStored, fun hRange => hRange.ne_nan hStored⟩

end

end Oakfield
