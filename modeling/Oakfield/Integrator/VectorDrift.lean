import Mathlib.Algebra.Module.Pi
import Oakfield.Integrator.ReportedStep
import Oakfield.Library.RungeKutta

/-! Steps of the explicit schemes in exact arithmetic, on the vector of the lanes of a field. -/
namespace Oakfield

open KernelIR CDouble Library.Procedure Library.RungeKutta

variable {K μ : Type} [Field K] [LinearOrder K] [CDouble K]

/-! ### Vectors of lanes -/

omit [Field K] [LinearOrder K] [CDouble K] in
/-- The first lanes of a buffer. -/
def lanesVector (lanes : ℕ) (buffer : StateBuffer K) : Fin lanes → K := fun lane => buffer lane

theorem simAccelWeightedSumReal_apply [ExactDouble K] (terms : List (K × StateBuffer K)) (k : ℕ) :
    simAccelWeightedSumReal terms k = (terms.map fun term => term.1 * term.2 k).sum := by
  have hFold (start : K) : terms.foldl (fun value term =>
      if eq term.1 zero then value else add value (mul term.1 (term.2 k))) start =
        start + (terms.map fun term => term.1 * term.2 k).sum := by
    induction terms generalizing start with
    | nil => exact (add_zero start).symm
    | cons term terms ih =>
        rw [List.foldl_cons, ih, List.map_cons, List.sum_cons, ← add_assoc]
        congr 1
        split_ifs with hZero
        · rw [ExactDouble.eq_iff, ExactDouble.zero_eq] at hZero
          rw [hZero, zero_mul, add_zero]
        · rw [ExactDouble.add_eq, ExactDouble.mul_eq]
  rw [simAccelWeightedSumReal, hFold, ExactDouble.zero_eq, zero_add]

/-- A weighted sum of the state and the scaled slopes before is the argument of a stage. -/
theorem lanesVector_stage [ExactDouble K] (lanes : ℕ) (step : K) (coefficients : List K)
    (state : StateBuffer K) (slopes : List (StateBuffer K)) :
    lanesVector lanes (simAccelWeightedSumReal ((one, state) ::
        List.zipWith (fun coefficient slope => (mul step coefficient, slope)) coefficients slopes)) =
      lanesVector lanes state + step • combine coefficients (slopes.map (lanesVector lanes)) := by
  funext lane
  rw [lanesVector, simAccelWeightedSumReal_apply, List.map_cons, List.sum_cons, ExactDouble.one_eq,
    one_mul, Pi.add_apply, Pi.smul_apply, smul_eq_mul]
  refine congrArg (state lane + ·) ?_
  induction coefficients generalizing slopes with
  | nil => exact (mul_zero step).symm
  | cons coefficient coefficients ih =>
      cases slopes with
      | nil => exact (mul_zero step).symm
      | cons slope slopes =>
          have hRest := ih slopes
          unfold combine at hRest ⊢
          rw [List.zipWith_cons_cons, List.map_cons, List.sum_cons, hRest, List.map_cons,
            List.zipWith_cons_cons, List.sum_cons, Pi.add_apply, Pi.smul_apply, smul_eq_mul,
            ExactDouble.mul_eq, lanesVector]
          ring

/-! ### Drifts which compute functions of vectors -/

omit [Field K] [LinearOrder K] in
/-- While the context holds this target field, the drift function answers every candidate with
the value of `f` on the first lanes, and leaves the field. -/
def DriftComputes (drift : DriftFunction K μ) (target count : ℕ) (field : SimField K) {lanes : ℕ}
    (f : (Fin lanes → K) → Fin lanes → K) : Prop :=
  ∀ evaluations candidate (context : SimContext K μ), context.fields[target]? = some field →
    ∃ reached slope, drift count evaluations candidate context = (reached, .ok slope) ∧
      lanesVector lanes slope = f (lanesVector lanes candidate) ∧
      reached.fields[target]? = some field

omit [Field K] [LinearOrder K] in
/-- The lanes behind the data of a field. -/
def SimField.bufferLanes (field : SimField K) : StateBuffer K :=
  match field.buffer with
  | none => fun _ => indeterminate
  | some data => data.lane

section Stages

variable {drift : DriftFunction K μ} {target count lanes : ℕ} {field : SimField K}
  {f : (Fin lanes → K) → Fin lanes → K} {start : StageState K μ} {Result : Type}
  {next : StateBuffer K → Stages K Result} {post : StageState K μ → Result → Prop}

omit [Field K] [LinearOrder K] in
theorem targetLanes_eq {context : SimContext K μ} (hField : context.fields[target]? = some field) :
    context.targetLanes target = field.bufferLanes := by
  unfold SimContext.targetLanes SimContext.targetData SimField.bufferLanes
  rw [hField]
  rfl

omit [Field K] [LinearOrder K] in
/-- The stage which reads the data of the target. -/
theorem ends_state (hField : start.context.fields[target]? = some field)
    (hNext : (next field.bufferLanes).Ends (driftCall drift target count) start post) :
    (Stages.state >>= next).Ends (driftCall drift target count) start post := by
  refine Program.Ends.bind (Program.ends_ask rfl ?_)
  rw [targetLanes_eq hField]
  exact hNext

omit [Field K] [LinearOrder K] in
/-- The stage which evaluates the drift. -/
theorem ends_drift (hDrift : DriftComputes drift target count field f)
    (hField : start.context.fields[target]? = some field) (candidate : StateBuffer K)
    (hNext : ∀ reached slope, reached.context.fields[target]? = some field →
      reached.integrator = start.integrator →
      lanesVector lanes slope = f (lanesVector lanes candidate) →
      (next slope).Ends (driftCall drift target count) reached post) :
    (Stages.drift candidate >>= next).Ends (driftCall drift target count) start post := by
  obtain ⟨context, slope, hCall, hSlope, hKept⟩ :=
    hDrift start.drifts candidate start.context hField
  have hAsk : driftCall drift target count (.drift candidate) start =
      (⟨context, start.integrator, start.drifts + 1⟩, .ok slope) := by
    rw [driftCall, hCall]
  exact Program.Ends.bind (Program.ends_ask hAsk (hNext _ slope hKept rfl hSlope))

end Stages

/-! ### Fixed steps -/

/-- A step on a target field, whose drift computes a function of its vector of lanes. -/
structure VectorStep (environment : StepEnvironment K) (drift : DriftFunction K μ) (target : ℕ)
    (context : SimContext K μ) (field : SimField K) {lanes : ℕ}
    (f : (Fin lanes → K) → Fin lanes → K) : Prop where
  holds : context.fields[target]? = some field
  granted : environment.workspace = true
  pointer : (if field.domainIsComplex then field.complexData else field.buffer).isSome = true
  width : lanes = field.stateLength * if field.domainIsComplex then 2 else 1
  computes : DriftComputes drift target field.stateLength field f

/-- The step has written this vector, and added the noise behind it. A field without elements
is left alone. -/
def StepOutcome.Wrote (outcome : StepOutcome K μ) (environment : StepEnvironment K)
    (integrator : Integrator K) (target : ℕ) (field : SimField K) (step : K) {lanes : ℕ}
    (state : Fin lanes → K) : Prop :=
  ∃ stored, lanesVector lanes (stored.targetLanes target) = state ∧
    outcome.context = if field.stateLength = 0 then stored
      else applyStochastic environment integrator target field.stateLength step stored

section Steps

variable {environment : StepEnvironment K} {drift : DriftFunction K μ} {target lanes : ℕ}
  {context : SimContext K μ} {field : SimField K} {f : (Fin lanes → K) → Fin lanes → K}

omit [Field K] [LinearOrder K] [CDouble K] in
theorem SimField.buffer_of_pointer
    (hPointer : (if field.domainIsComplex then field.complexData else field.buffer).isSome = true) :
    ∃ data, field.initialized = true ∧ field.data = some data := by
  unfold SimField.complexData SimField.buffer at hPointer
  cases hInitialized : field.initialized with
  | false =>
      rw [hInitialized] at hPointer
      simp at hPointer
  | true =>
      cases hData : field.data with
      | none =>
          rw [hData] at hPointer
          simp at hPointer
      | some data => exact ⟨data, rfl, rfl⟩

omit [Field K] [LinearOrder K] in
/-- The lanes which a step copies into the target are read back from it. -/
theorem VectorStep.stored (hStep : VectorStep environment drift target context field f)
    {reached : SimContext K μ} (hField : reached.fields[target]? = some field)
    (candidate : StateBuffer K) :
    lanesVector lanes ((reached.storeTarget target
        (field.stateLength * if field.domainIsComplex then 16 else 8) candidate).targetLanes
          target) = lanesVector lanes candidate := by
  obtain ⟨data, hInitialized, hData⟩ := field.buffer_of_pointer hStep.pointer
  have hStored : (reached.storeTarget target
      (field.stateLength * if field.domainIsComplex then 16 else 8) candidate).fields[target]? =
        some (field.store (field.stateLength * if field.domainIsComplex then 16 else 8)
          (.lanes candidate)) := by
    rw [SimContext.storeTarget, List.getElem?_modify_eq, hField]
    rfl
  have hLanes := hStep.width
  rw [targetLanes_eq hStored]
  funext lane
  have hLane := lane.isLt
  unfold lanesVector SimField.bufferLanes SimField.buffer SimField.store
  rw [hInitialized, hData]
  dsimp only [Option.map_some]
  rw [if_neg (by decide)]
  dsimp only
  split_ifs at hLanes ⊢ with hComplex hBytes hBytes
  · rfl
  · exact if_pos (by omega)
  · rfl
  · exact if_pos (by omega)

omit [Field K] [LinearOrder K] in
theorem applyStochastic_started (scheme : Scheme K) (integrator : Integrator K) (count : ℕ)
    (dt step : K) (stored : SimContext K μ) :
    applyStochastic environment (scheme.started integrator dt) target count step stored =
      applyStochastic environment integrator target count step stored := by
  unfold Scheme.started
  split_ifs <;> rfl

omit [Field K] [LinearOrder K] in
/-- A step writes the vector of the candidate with which its stages end. -/
theorem VectorStep.wrote (hStep : VectorStep environment drift target context field f)
    (method : StepMethod) (integrator : Integrator K) (dt : K) {step : K} {state : Fin lanes → K}
    (hStages : (method.scheme.stages (method.scheme.started integrator dt) field.domainIsComplex
      field.stateLength (integrator.firstStep dt)).Ends
        (driftCall drift target field.stateLength) ⟨context, method.scheme.started integrator dt, 0⟩
        fun reached attempted => reached.context.fields[target]? = some field ∧
          attempted.step = step ∧ lanesVector lanes attempted.candidate = state) :
    (method.scheme.stepWith environment drift integrator target dt context).Wrote environment
      integrator target field step state := by
  by_cases hEmpty : field.stateLength = 0
  · refine ⟨context, ?_, ?_⟩
    · obtain rfl : lanes = 0 := by rw [hStep.width, hEmpty, Nat.zero_mul]
      exact Subsingleton.elim _ _
    · unfold Scheme.stepWith
      rw [hStep.holds]
      dsimp only
      rw [if_pos hEmpty, if_pos hEmpty]
  · obtain ⟨reached, attempted, hRun, hField, hTaken, hState⟩ := hStages
    rw [StepMethod.stepWith_of_written hStep.holds hEmpty hStep.granted hStep.pointer, hRun]
    refine ⟨_, (hStep.stored hField attempted.candidate).trans hState, ?_⟩
    rw [if_neg hEmpty, ← hTaken]
    exact applyStochastic_started method.scheme integrator _ dt _ _

omit [Field K] [LinearOrder K] in
/-- Out of adaptive mode the first attempt is accepted. -/
theorem ends_attempts {integrator : Integrator K} (hFixed : integrator.adaptive = false)
    {count : ℕ} {announced : Bool} {methodOrder step : K} {attempt : K → Stages K (Trial K)}
    {left index : ℕ} {start : StageState K μ} {post : StageState K μ → Trial K → Prop}
    (hAttempt : (attempt step).Ends (driftCall drift target count) start post) :
    (attemptsFrom integrator announced methodOrder attempt left index step).Ends
      (driftCall drift target count) start fun reached attempted =>
        attempted.step = step ∧ post reached ⟨attempted.candidate, attempted.errorNorm⟩ := by
  have hAccepts (trial : Trial K) : integrator.accepts trial.errorNorm step = true := by
    rw [Integrator.accepts, hFixed]
    rfl
  have hRound {again : Trial K → Stages K (Attempted K)} : (do
      let trial ← attempt step
      if integrator.accepts trial.errorNorm step then
        return ⟨trial.candidate, trial.errorNorm, step, index + 1, true⟩
      again trial : Stages K (Attempted K)).Ends (driftCall drift target count) start
        fun reached attempted =>
          attempted.step = step ∧ post reached ⟨attempted.candidate, attempted.errorNorm⟩ := by
    refine Program.Ends.bind (hAttempt.mono fun reached trial hPost => ?_)
    rw [hAccepts, if_pos rfl]
    exact Program.ends_pure ⟨rfl, hPost⟩
  cases left with
  | zero => exact hRound
  | succ left => exact hRound

end Steps

end Oakfield
