import Oakfield.Integrator.DriftPurity
import Oakfield.Integrator.Etdrk4
import Oakfield.Integrator.Schemes

/-! What a step leaves in the context when one of its stages fails. -/
namespace Oakfield

open KernelIR Library.Procedure

variable {D μ : Type} [CDouble D]

/-! ### The time override out of drift -/

/-- Out of drift no time override is in force. -/
def SimRuntimeState.OverrideSettled (runtime : SimRuntimeState D) : Prop :=
  runtime.driftModeDepth = 0 →
    runtime.driftTimeOverrideActive = false ∧ runtime.driftTimeOverride = CDouble.zero

/-- The calls which change drift mode or the timestep. -/
inductive DriftModeCall (D : Type) where
  | beginDrift
  | endDrift
  | setDriftTimeOverride (value : D)
  | clearDriftTimeOverride
  | setTimestep (dt : D)

def DriftModeCall.apply (runtime : SimRuntimeState D) : DriftModeCall D → SimRuntimeState D
  | .beginDrift => runtime.beginDrift
  | .endDrift => runtime.endDrift
  | .setDriftTimeOverride value => runtime.setDriftTimeOverride value
  | .clearDriftTimeOverride => runtime.clearDriftTimeOverride
  | .setTimestep dt => runtime.setTimestep dt

theorem overrideSettled_apply (runtime : SimRuntimeState D) (call : DriftModeCall D)
    (hSettled : runtime.OverrideSettled) : (call.apply runtime).OverrideSettled := by
  cases call with
  | beginDrift =>
      show runtime.beginDrift.OverrideSettled
      rw [SimRuntimeState.beginDrift]
      split
      case isTrue =>
        intro hDepth
        exact absurd hDepth (Nat.succ_ne_zero _)
      case isFalse => exact hSettled
  | endDrift =>
      show runtime.endDrift.OverrideSettled
      rw [SimRuntimeState.endDrift]
      split
      case isTrue =>
        dsimp only
        split
        case isTrue => exact fun _ => ⟨rfl, rfl⟩
        case isFalse hNested => exact fun hDepth => absurd hDepth hNested
      case isFalse => exact hSettled
  | setDriftTimeOverride value =>
      show (runtime.setDriftTimeOverride value).OverrideSettled
      rw [SimRuntimeState.setDriftTimeOverride]
      split
      case isTrue => exact hSettled
      case isFalse hNested => exact fun hDepth => absurd hDepth hNested
  | clearDriftTimeOverride => exact fun _ => ⟨rfl, rfl⟩
  | setTimestep dt => exact hSettled

/-- In every run of these calls from a settled state, the override is settled. -/
theorem overrideSettled_after (runtime : SimRuntimeState D) (calls : List (DriftModeCall D))
    (hSettled : runtime.OverrideSettled) :
    (Library.Run.after (fun runtime call => DriftModeCall.apply runtime call) runtime
      calls).OverrideSettled := by
  induction calls generalizing runtime with
  | nil => exact hSettled
  | cons call calls ih => exact ih _ (overrideSettled_apply runtime call hSettled)

/-- Drift mode ends as it began, below the limit of its depth. -/
theorem endDrift_beginDrift {runtime : SimRuntimeState D} (hSettled : runtime.OverrideSettled)
    (hLimit : runtime.driftModeDepth < driftDepthLimit) :
    runtime.beginDrift.endDrift = runtime := by
  rw [SimRuntimeState.beginDrift, if_pos hLimit, SimRuntimeState.endDrift]
  dsimp only
  rw [if_pos (Nat.succ_pos _), Nat.add_sub_cancel]
  split
  case isTrue hDepth =>
    obtain ⟨hActive, hOverride⟩ := hSettled hDepth
    rw [SimRuntimeState.clearDriftTimeOverride]
    dsimp only
    rw [← hActive, ← hOverride]
  case isFalse => rfl

/-- Two runtime states agree on the timestep and on drift mode. -/
structure SimRuntimeState.SameDriftMode (runtime other : SimRuntimeState D) : Prop where
  dt : other.dt = runtime.dt
  driftModeDepth : other.driftModeDepth = runtime.driftModeDepth
  driftTimeOverride : other.driftTimeOverride = runtime.driftTimeOverride
  driftTimeOverrideActive : other.driftTimeOverrideActive = runtime.driftTimeOverrideActive

namespace SimRuntimeState.SameDriftMode

variable {runtime middle other : SimRuntimeState D}

omit [CDouble D] in
theorem refl (runtime : SimRuntimeState D) : SameDriftMode runtime runtime := ⟨rfl, rfl, rfl, rfl⟩

omit [CDouble D] in
theorem trans (hFirst : SameDriftMode runtime middle) (hSecond : SameDriftMode middle other) :
    SameDriftMode runtime other := by
  constructor
  case dt => exact hSecond.dt.trans hFirst.dt
  case driftModeDepth => exact hSecond.driftModeDepth.trans hFirst.driftModeDepth
  case driftTimeOverride => exact hSecond.driftTimeOverride.trans hFirst.driftTimeOverride
  case driftTimeOverrideActive =>
    exact hSecond.driftTimeOverrideActive.trans hFirst.driftTimeOverrideActive

theorem endDrift (hSame : SameDriftMode runtime other) :
    SameDriftMode runtime.endDrift other.endDrift := by
  rw [SimRuntimeState.endDrift, SimRuntimeState.endDrift, hSame.driftModeDepth]
  split
  case isTrue =>
    dsimp only
    split
    case isTrue hZero => exact ⟨hSame.dt, rfl, rfl, rfl⟩
    case isFalse hNested =>
      exact ⟨hSame.dt, rfl, hSame.driftTimeOverride, hSame.driftTimeOverrideActive⟩
  case isFalse => exact hSame

theorem settled (hSame : SameDriftMode runtime other) (hSettled : runtime.OverrideSettled) :
    other.OverrideSettled := by
  intro hDepth
  rw [hSame.driftTimeOverrideActive, hSame.driftTimeOverride]
  exact hSettled (hSame.driftModeDepth ▸ hDepth)

end SimRuntimeState.SameDriftMode

/-! ### Steps which keep the context -/

namespace SimContext

variable {context middle later : SimContext D μ}

omit [CDouble D] in
/-- All fields hold their bytes, and timestep and drift mode are as before. -/
structure StepKept (context later : SimContext D μ) : Prop where
  fields : FieldsKept context.fields later.fields
  runtime : context.runtime.SameDriftMode later.runtime

omit [CDouble D] in
theorem StepKept.refl (context : SimContext D μ) : StepKept context context :=
  ⟨.refl _, .refl _⟩

omit [CDouble D] in
theorem StepKept.trans (hFirst : StepKept context middle) (hSecond : StepKept middle later) :
    StepKept context later :=
  ⟨hFirst.fields.trans hSecond.fields, hFirst.runtime.trans hSecond.runtime⟩

omit [CDouble D] in
theorem Probed.sameDriftMode (hProbed : Probed context later) :
    context.runtime.SameDriftMode later.runtime :=
  ⟨hProbed.dt, hProbed.driftModeDepth, hProbed.driftTimeOverride, hProbed.driftTimeOverrideActive⟩

theorem planValid_executePrepared (hDrift : context.inDrift = true) :
    context.executePrepared.context.planValid = context.planValid := by
  cases hValid : context.planValid with
  | false =>
      rw [executePrepared, hValid]
      exact hValid
  | true =>
      rw [executePrepared_valid hValid]
      obtain ⟨writes, memory, hRun⟩ :=
        runPlan_wrote (show context.resetContinuityCounters.inDrift = true from hDrift) context.plan
      rw [hRun]
      exact hValid

variable {allocations : DriftAllocations} {target count : ℕ} {candidate : ℕ → D}

/-- Both paths of a drift evaluation leave a valid plan valid. -/
theorem planValid_driftThrough {pointer : SimField D → Option (FieldData D)} {size : ℕ}
    {finish : SimContext D μ → DriftCall D μ} (hValid : context.planValid = true)
    (hDrift : context.inDrift = true)
    (hFinish : ∀ reached, (finish reached).1.planValid = reached.planValid) :
    (driftThrough allocations pointer target size candidate finish context).1.planValid = true := by
  have hStored : (context.storeTarget target size candidate).planValid = true := hValid
  have hRun := planValid_executePrepared
    (show (context.storeTarget target size candidate).inDrift = true from hDrift)
  rw [hStored] at hRun
  rw [driftThrough, ensurePlan, hStored]
  simp only [if_true]
  split
  · exact hValid
  · split
    · exact hValid
    · cases hResult : (context.storeTarget target size candidate).executePrepared.result with
      | error failure =>
          dsimp only
          split <;> exact hRun
      | ok code => exact (hFinish _).trans hRun

theorem planValid_drifted (field : SimField D) (hValid : context.planValid = true) :
    (context.drifted allocations target count candidate field).1.planValid = true := by
  have hDrift := inDrift_beginDrift context
  have hBegun : context.beginDrift.planValid = true := hValid
  rw [drifted]
  split
  · apply planValid_driftThrough hBegun hDrift
    intro reached
    split <;> rfl
  · apply planValid_driftThrough hBegun hDrift
    intro reached
    split <;> split <;> rfl

/-- A drift evaluation with a valid plan keeps the context, whatever it returns. -/
theorem contextDrift_kept (allocations : DriftAllocations) (target count : ℕ) (candidate : ℕ → D)
    (hValid : context.planValid = true) (hSettled : context.runtime.OverrideSettled)
    (hLimit : context.runtime.driftModeDepth < driftDepthLimit) :
    StepKept context (context.contextDrift allocations target count candidate).1 ∧
      (context.contextDrift allocations target count candidate).1.planValid = true := by
  by_cases hBegins : context.DriftBegins allocations target count
  · obtain ⟨field, hField⟩ := Option.isSome_iff_exists.mp hBegins.1
    have hNotPromotes : ¬context.PlanPromotes allocations.prepare := by
      rintro ⟨hStale, -⟩
      rw [hValid] at hStale
      cases hStale
    have hProbed : Probed context.beginDrift
        (context.drifted allocations target count candidate field).1 :=
      drifted_probed field fun _ => hNotPromotes
    have hEnd := hProbed.sameDriftMode.endDrift
    rw [show context.beginDrift.runtime.endDrift = context.runtime from
      endDrift_beginDrift hSettled hLimit] at hEnd
    rw [contextDrift_begins hField hBegins]
    constructor
    · exact ⟨fieldsKept_restoreSnapshots hProbed.fields, hEnd⟩
    · exact planValid_drifted field hValid
  · rw [contextDrift_not_begins hBegins]
    exact ⟨.refl context, hValid⟩

/-! ### Failed steps -/

/-- Every stage of a scheme keeps the context. -/
theorem stageCall_kept (environment : StepEnvironment D) (target count : ℕ)
    (request : StageCall D) (reached : StageState D μ)
    (hReached : StepKept context reached.context ∧ reached.context.planValid = true)
    (hSettled : context.runtime.OverrideSettled)
    (hLimit : context.runtime.driftModeDepth < driftDepthLimit) :
    StepKept context (stageCall environment target count request reached).1.context ∧
      (stageCall environment target count request reached).1.context.planValid = true := by
  obtain ⟨hKept, hValid⟩ := hReached
  cases request with
  | state => exact ⟨hKept, hValid⟩
  | setCurrentDt dt => exact ⟨hKept, hValid⟩
  | drift candidate =>
      have hDepth : reached.context.runtime.driftModeDepth < driftDepthLimit := by
        rw [hKept.runtime.driftModeDepth]
        exact hLimit
      obtain ⟨hDrift, hStill⟩ := contextDrift_kept (environment.drifts reached.drifts) target count
        candidate hValid (hKept.runtime.settled hSettled) hDepth
      exact ⟨hKept.trans hDrift, hStill⟩

/-- A failed step of a scheme keeps the context, whichever of its calls failed. -/
theorem integratorStep_kept (scheme : Scheme D) (environment : StepEnvironment D)
    (integrator : Integrator D) (target : ℕ) (dt : D) {failure : SimError}
    (hValid : context.planValid = true) (hSettled : context.runtime.OverrideSettled)
    (hLimit : context.runtime.driftModeDepth < driftDepthLimit)
    (hFailed : (scheme.integratorStep environment integrator target dt context).result =
      .error failure) :
    StepKept context (scheme.integratorStep environment integrator target dt context).context := by
  rw [Scheme.integratorStep] at hFailed ⊢
  cases hField : context.fields[target]? with
  | none => exact .refl context
  | some field =>
      rw [hField] at hFailed
      dsimp only at hFailed ⊢
      generalize (if scheme.announced = true then
        { integrator with currentDt := integrator.firstStep dt } else integrator) = started at *
      generalize (if field.domainIsComplex = true then field.complexData else field.buffer) =
        pointer at *
      split at hFailed
      case isTrue hCount =>
        rw [if_pos hCount]
        exact .refl context
      case isFalse hCount =>
        rw [if_neg hCount]
        split at hFailed
        case isTrue hWorkspace =>
          rw [if_pos hWorkspace]
          exact .refl context
        case isFalse hWorkspace =>
          rw [if_neg hWorkspace]
          split at hFailed
          case isTrue hPointer =>
            rw [if_pos hPointer]
            exact .refl context
          case isFalse hPointer =>
            rw [if_neg hPointer]
            have hRun := Program.run_invariant
              (fun request reached hReached => stageCall_kept environment target field.stateLength
                request reached hReached hSettled hLimit)
              (scheme.stages started field.domainIsComplex field.stateLength
                (integrator.firstStep dt))
              (⟨context, started, 0⟩ : StageState D μ) ⟨.refl context, hValid⟩
            cases hStages : (scheme.stages started field.domainIsComplex field.stateLength
                (integrator.firstStep dt)).run (stageCall environment target field.stateLength)
                (⟨context, started, 0⟩ : StageState D μ) with
            | mk reached result =>
                rw [hStages] at hFailed hRun
                cases result with
                | error code => exact hRun.1
                | ok attempted => cases hFailed

end SimContext

/-! ### The built-in integrators -/

inductive IntegratorKind where
  | euler
  | rk4
  | rkf45
  | backwardEuler
  | etdrk4
deriving DecidableEq, Repr

/-- The step function of an integrator. -/
def IntegratorKind.step (kind : IntegratorKind) (environment : Etdrk4Environment D)
    (integrator : Integrator D) (target : ℕ) (dt : D) (context : SimContext D μ) :
    StepOutcome D μ :=
  match kind with
  | .euler => Scheme.euler.integratorStep environment.toStepEnvironment integrator target dt context
  | .rk4 => Scheme.rk4.integratorStep environment.toStepEnvironment integrator target dt context
  | .rkf45 => Scheme.rkf45.integratorStep environment.toStepEnvironment integrator target dt context
  | .backwardEuler =>
      Scheme.backwardEuler.integratorStep environment.toStepEnvironment integrator target dt context
  | .etdrk4 => etdrk4Step environment integrator target dt context

/-- Whatever the context of a given drift depth, its operators, and the stage at
which a call fails, a failed step keeps the context. -/
def FailedStepsKeep (kind : IntegratorKind) (depth : ℕ) : Prop :=
  ∀ (D μ : Type) [CDouble D] (environment : Etdrk4Environment D) (integrator : Integrator D)
    (target : ℕ) (dt : D) (context : SimContext D μ) (failure : SimError),
    context.planValid = true → context.runtime.OverrideSettled →
    context.runtime.driftModeDepth = depth →
    (kind.step environment integrator target dt context).result = .error failure →
    SimContext.StepKept context (kind.step environment integrator target dt context).context

/-- An operator which reads and writes field 0. -/
def targetOperator (evaluate : Callback ℤ Unit) : SimOperatorRecord ℤ Unit where
  dependencies := []
  readMask := 1
  writeMask := 1
  readIndices := []
  writeIndices := []
  representation := ⟨false, false, .realScalar⟩
  config := ⟨.none, 0⟩
  warpLevel := .none
  kernel := none
  evaluate := some evaluate
  saveState := none
  restoreState := none
  userdata := none

/-- A complex field with the element `3 + 3i`, a valid plan, and a drift depth. -/
def complexTarget (operators : List (SimOperatorRecord ℤ Unit)) (depth : ℕ) : SimContext ℤ Unit :=
  let start : SimContext ℤ Unit := .init ⟨0, 0, 0, 0, 0⟩ ()
  { start with
    fields := [.ofElementSize ⟨[1], [1], true⟩ 16 (.lanes fun _ => 3)]
    operators := operators
    plan := List.range operators.length
    planValid := true
    runtime := { start.runtime with dt := 1, driftModeDepth := depth } }

/-- Nothing runs out of memory, and all operators are general nonlinear ones. -/
def plainEnvironment : Etdrk4Environment ℤ where
  workspace := true
  drifts _ := ⟨true, fun _ => true, true, fun _ _ => true⟩
  gaussian _ := 0
  noise := none
  indices := true
  slots := true
  copy _ := true
  nodeScratch := true
  isNoise _ := false
  classifySemilinear _ := .ok .generalNonlinear

def plainIntegrator : Integrator ℤ := ⟨false, false, 0, 10, 1, 1, 1, 1, 0, 0, 0, 0⟩

/-- Write `7 + 7i` to the target, and return a code. -/
def writeSeven (result : Except SimError Unit) : Callback ℤ Unit := fun _ _ _ =>
  ⟨fun i => if i = 0 then some ⟨.lanes fun _ => 7, ⟨.physical, .complexScalar⟩, false⟩ else none,
    (), result⟩

/-- The evaluation of the operators fails behind a write to the target. -/
def writtenTarget (depth : ℕ) : SimContext ℤ Unit :=
  complexTarget [targetOperator (writeSeven (.error .invalidState))] depth

/-- The fields hold the failed write behind the step. -/
theorem etdrk4Step_writtenTarget (depth : ℕ) :
    (etdrk4Step plainEnvironment plainIntegrator 0 1 (writtenTarget depth)).result =
        .error .invalidState ∧
      (etdrk4Step plainEnvironment plainIntegrator 0 1 (writtenTarget depth)).context.fields.map
        SimField.contents = [some (.lanes fun _ => 7)] :=
  ⟨rfl, rfl⟩

/-- The other integrators stop at their first drift evaluation. -/
theorem step_writtenTarget {kind : IntegratorKind} (hKind : kind ≠ .etdrk4) (depth : ℕ) :
    (kind.step plainEnvironment plainIntegrator 0 1 (writtenTarget depth)).result =
        .error .invalidState ∧
      (kind.step plainEnvironment plainIntegrator 0 1 (writtenTarget depth)).context =
        ((writtenTarget depth).contextDrift (plainEnvironment.drifts 0) 0 1 fun _ => 3).1 := by
  cases kind with
  | euler => exact ⟨rfl, rfl⟩
  | rk4 => exact ⟨rfl, rfl⟩
  | rkf45 => exact ⟨rfl, rfl⟩
  | backwardEuler => exact ⟨rfl, rfl⟩
  | etdrk4 => exact absurd rfl hKind

/-- At its limit, drift mode is left one level below where it began. -/
theorem driftModeDepth_contextDrift {context : SimContext D μ} {allocations : DriftAllocations}
    {target count : ℕ} {candidate : ℕ → D}
    (hBegins : context.DriftBegins allocations target count)
    (hLimit : ¬context.runtime.driftModeDepth < driftDepthLimit) :
    (context.contextDrift allocations target count candidate).1.runtime.driftModeDepth =
      context.runtime.driftModeDepth - 1 := by
  obtain ⟨field, hField⟩ := Option.isSome_iff_exists.mp hBegins.1
  rw [SimContext.contextDrift_begins hField hBegins]
  show (SimRuntimeState.endDrift _).driftModeDepth = _
  rw [SimContext.driftModeDepth_endDrift]
  show (context.drifted allocations target count candidate field).1.runtime.driftModeDepth - 1 = _
  rw [SimContext.driftModeDepth_drifted]
  show context.runtime.beginDrift.driftModeDepth - 1 = _
  rw [SimContext.driftModeDepth_beginDrift, if_neg hLimit]

/-- Failed steps keep the context for every integrator but `etdrk4`, as long as
drift mode is below the limit of its depth. -/
theorem failedStepsKeep_iff (kind : IntegratorKind) (depth : ℕ) :
    FailedStepsKeep kind depth ↔ kind ≠ .etdrk4 ∧ depth < driftDepthLimit := by
  constructor
  · intro hKeep
    have hSettled : (writtenTarget depth).runtime.OverrideSettled := fun _ => ⟨rfl, rfl⟩
    have hKind : kind ≠ .etdrk4 := by
      rintro rfl
      obtain ⟨hFailed, hWritten⟩ := etdrk4Step_writtenTarget depth
      have hKept := hKeep ℤ Unit plainEnvironment plainIntegrator 0 1 (writtenTarget depth)
        .invalidState rfl hSettled rfl hFailed
      have hContents := hKept.fields.contents
      rw [IntegratorKind.step, hWritten] at hContents
      have hLanes : [some (7 : ℤ)] = [some 3] :=
        congrArg (List.map (Option.map fun data : FieldData ℤ => data.lane 0)) hContents
      exact absurd hLanes (by decide)
    refine ⟨hKind, ?_⟩
    by_contra hLimit
    obtain ⟨hFailed, hDrift⟩ := step_writtenTarget hKind depth
    have hKept := hKeep ℤ Unit plainEnvironment plainIntegrator 0 1 (writtenTarget depth)
      .invalidState rfl hSettled rfl hFailed
    have hDepth := hKept.runtime.driftModeDepth
    have hBegins : (writtenTarget depth).DriftBegins (plainEnvironment.drifts 0) 0 1 :=
      ⟨rfl, Nat.one_ne_zero, rfl⟩
    rw [hDrift, driftModeDepth_contextDrift hBegins hLimit] at hDepth
    have hHere : (writtenTarget depth).runtime.driftModeDepth = depth := rfl
    have hPositive : 0 < driftDepthLimit := by decide
    omega
  · rintro ⟨hKind, hLimit⟩ D μ _ environment integrator target dt context failure hValid hSettled
      hDepth hFailed
    have hBelow : context.runtime.driftModeDepth < driftDepthLimit := by rwa [hDepth]
    cases kind with
    | euler => exact SimContext.integratorStep_kept _ _ _ _ _ hValid hSettled hBelow hFailed
    | rk4 => exact SimContext.integratorStep_kept _ _ _ _ _ hValid hSettled hBelow hFailed
    | rkf45 => exact SimContext.integratorStep_kept _ _ _ _ _ hValid hSettled hBelow hFailed
    | backwardEuler => exact SimContext.integratorStep_kept _ _ _ _ _ hValid hSettled hBelow hFailed
    | etdrk4 => exact absurd rfl hKind

/-- Two operators in the plan: the first writes the target, the second fails. -/
def failingSecond : SimContext ℤ Unit :=
  complexTarget [targetOperator (writeSeven (.ok ())),
    targetOperator fun _ _ _ => ⟨fun _ => none, (), .error .invalidState⟩] 0

/-- The step fails in its first evaluation, and the target keeps `7 + 7i`. -/
theorem etdrk4Step_notKept :
    (IntegratorKind.etdrk4.step plainEnvironment plainIntegrator 0 1 failingSecond).result =
        .error .invalidState ∧
      (IntegratorKind.etdrk4.step plainEnvironment plainIntegrator 0 1
        failingSecond).context.fields.map (fun field => field.contents.map fun data =>
          [data.lane 0, data.lane 1]) = [some [7, 7]] ∧
      ¬SimContext.StepKept failingSecond
        (IntegratorKind.etdrk4.step plainEnvironment plainIntegrator 0 1 failingSecond).context ∧
      ¬FailedStepsKeep .etdrk4 0 := by
  have hFailed : (IntegratorKind.etdrk4.step plainEnvironment plainIntegrator 0 1
      failingSecond).result = .error .invalidState := by decide
  have hWritten : (IntegratorKind.etdrk4.step plainEnvironment plainIntegrator 0 1
      failingSecond).context.fields.map (fun field => field.contents.map fun data =>
        [data.lane 0, data.lane 1]) = [some [7, 7]] := by decide
  have hNot : ¬SimContext.StepKept failingSecond
      (IntegratorKind.etdrk4.step plainEnvironment plainIntegrator 0 1 failingSecond).context := by
    intro hKept
    have hContents := hKept.fields.contents
    have hLanes := congrArg (List.map (Option.map fun data => [data.lane 0, data.lane 1])) hContents
    rw [List.map_map] at hLanes
    exact absurd (hWritten.symm.trans hLanes) (by decide)
  refine ⟨hFailed, hWritten, hNot, fun hKeep => hNot ?_⟩
  exact hKeep ℤ Unit plainEnvironment plainIntegrator 0 1 failingSecond .invalidState rfl
    (fun _ => ⟨rfl, rfl⟩) rfl hFailed

end Oakfield
