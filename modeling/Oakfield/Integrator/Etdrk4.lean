import Oakfield.Integrator.Stages

/-! The exponential time-differencing scheme. It applies the operators of the
plan by itself, between snapshots of its own. -/
namespace Oakfield

open KernelIR CDouble
open Operator (SimOperator)

variable {D μ : Type} [CDouble D]

/-! ### Classification of the plan -/

inductive SimSemilinearRole where
  | unsupported
  | exactLinearFlow
  | dtScaledIncrement
  | generalNonlinear
deriving DecidableEq, Repr

/-- The environment of a step: allocations, whether the operator information
marks an operator as noise, and `sim_operator_classify_semilinear`. -/
structure Etdrk4Environment (D : Type) extends StepEnvironment D where
  indices : Bool
  slots : Bool
  copy : ℕ → Bool
  nodeScratch : Bool
  isNoise : ℕ → Bool
  classifySemilinear : ℕ → Except SimError SimSemilinearRole

/-- `etdrk4_indices_only_field`. -/
def etdrk4IndicesOnlyField (indices : List SizeT) (field : ℕ) : Bool :=
  indices.all fun index => index.toNat == field

/-- `etdrk4_mask_only_field`. -/
def etdrk4MaskOnlyField (mask : BitVec 64) (field : ℕ) : Bool :=
  if mask = 0 then true else if 64 ≤ field then false else mask == 1#64 <<< field

/-- `etdrk4_operator_reads_only_field`. -/
def etdrk4OperatorReadsOnlyField (op : SimOperator) (field : ℕ) : Bool :=
  etdrk4MaskOnlyField op.readMask field && etdrk4IndicesOnlyField op.readIndices field

/-- `etdrk4_operator_writes_target`. -/
def etdrk4OperatorWritesTarget (op : SimOperator) (field : ℕ) : Bool :=
  etdrk4MaskOnlyField op.writeMask field && etdrk4IndicesOnlyField op.writeIndices field &&
    (!op.writeIndices.isEmpty || op.writeMask != 0)

/-- The loop of `etdrk4_classify_plan`, which appends to the linear and the
nonlinear operators. -/
def etdrk4ClassifyFrom (environment : Etdrk4Environment D) (target : ℕ)
    (context : SimContext D μ) : List ℕ → List ℕ × List ℕ → Except SimError (List ℕ × List ℕ)
  | [], found => .ok found
  | index :: order, (linear, nonlinear) => do
      match context.operators[index]? with
      | none => throw .notFound
      | some op =>
          if !etdrk4OperatorWritesTarget op.toSimOperator target ||
              !etdrk4OperatorReadsOnlyField op.toSimOperator target then
            throw .notSupported
          if environment.isNoise index then throw .notSupported
          match ← environment.classifySemilinear index with
          | .exactLinearFlow =>
              etdrk4ClassifyFrom environment target context order (linear ++ [index], nonlinear)
          | .dtScaledIncrement | .generalNonlinear =>
              etdrk4ClassifyFrom environment target context order (linear, nonlinear ++ [index])
          | .unsupported => throw .notSupported

/-- `etdrk4_classify_plan`, for a target with complex storage. -/
def etdrk4ClassifyPlan (environment : Etdrk4Environment D) (target : ℕ)
    (context : SimContext D μ) : Except SimError (List ℕ × List ℕ) :=
  if !environment.indices then .error .outOfMemory
  else etdrk4ClassifyFrom environment target context context.plan ([], [])

/-! ### Stages -/

/-- Code which changes the context and may fail. -/
abbrev Etdrk4M (D μ : Type) := ExceptT SimError (StateM (SimContext D μ))

/-- The step which is being computed: target field, count of complex elements,
snapshots, and the timestep which stages put back. -/
structure Etdrk4Frame (D : Type) where
  target : ℕ
  count : ℕ
  snapshots : List (DriftSnapshot D)
  linear : List ℕ
  nonlinear : List ℕ
  restoreDt : D

omit [CDouble D] in
/-- `etdrk4_capture_snapshots`. -/
def etdrk4CaptureSnapshots (environment : Etdrk4Environment D) (context : SimContext D μ) :
    Except SimError (List (DriftSnapshot D)) :=
  let snapshots := context.fields.map SimField.snapshot
  if context.fields.isEmpty then .ok []
  else if !environment.slots then .error .outOfMemory
  else if (snapshots.mapIdx fun i snapshot => snapshot.isNone || environment.copy i).all id then
    .ok snapshots
  else .error .outOfMemory

/-- `etdrk4_restore_snapshots`. -/
def etdrk4RestoreSnapshots (snapshots : List (DriftSnapshot D)) : Etdrk4M D μ Unit := do
  let context ← get
  set { context with fields := restoreSnapshots snapshots context.fields }
  if context.fields.length < snapshots.length then throw .notFound

omit [CDouble D] in
/-- The complex data of the target. -/
def etdrk4Data (frame : Etdrk4Frame D) : Etdrk4M D μ (FieldData D) := do
  match (← get).targetData SimField.complexData frame.target with
  | none => throw .invalidArgument
  | some data => return data

/-- `etdrk4_copy_field`. -/
def etdrk4CopyField (frame : Etdrk4Frame D) : Etdrk4M D μ (StateBuffer D) := do
  return (← etdrk4Data frame).lane

/-- `etdrk4_write_field`. -/
def etdrk4WriteField (frame : Etdrk4Frame D) (state : StateBuffer D) : Etdrk4M D μ Unit := do
  let _ ← etdrk4Data frame
  modify (·.storeTarget frame.target (frame.count * 16) state)

/-- The operators applied in order. -/
def etdrk4ApplyOperators : List ℕ → Etdrk4M D μ Unit
  | [] => return
  | index :: indices => do
      let context ← get
      match context.operators[index]? with
      | none => throw .notFound
      | some op =>
          let applied := context.applyOperator op
          set applied.1
          match applied.2 with
          | .error failure => throw failure
          | .ok _ => etdrk4ApplyOperators indices

/-- Change the runtime state only. -/
def etdrk4Runtime (change : SimRuntimeState D → SimRuntimeState D) : Etdrk4M D μ Unit :=
  modify (·.modifyRuntime change)

/-- `etdrk4_apply_linear_flow`. -/
def etdrk4ApplyLinearFlow (frame : Etdrk4Frame D) (input : StateBuffer D) (dtFlow : D) :
    Etdrk4M D μ (StateBuffer D) := do
  if frame.linear.isEmpty || eq dtFlow zero then return input
  etdrk4RestoreSnapshots frame.snapshots
  etdrk4WriteField frame input
  etdrk4Runtime (.setTimestep dtFlow)
  try etdrk4ApplyOperators frame.linear
  catch failure =>
    etdrk4Runtime (.setTimestep frame.restoreDt)
    throw failure
  etdrk4Runtime (.setTimestep frame.restoreDt)
  etdrk4CopyField frame

/-- `etdrk4_eval_nonlinear`. -/
def etdrk4EvalNonlinear (frame : Etdrk4Frame D) (stageState : StateBuffer D)
    (evalTime stepDt : D) : Etdrk4M D μ (StateBuffer D) := do
  if frame.nonlinear.isEmpty then return fun _ => zero
  etdrk4RestoreSnapshots frame.snapshots
  etdrk4WriteField frame stageState
  etdrk4Runtime (.setDriftTimeOverride evalTime)
  etdrk4Runtime (.setTimestep stepDt)
  let leave : Etdrk4M D μ Unit := do
    etdrk4Runtime (.setTimestep frame.restoreDt)
    etdrk4Runtime .clearDriftTimeOverride
  try etdrk4ApplyOperators frame.nonlinear
  catch failure =>
    leave
    throw failure
  leave
  let data ← etdrk4Data frame
  return fun k => div (sub (data.lane k) (stageState k)) stepDt

/-! ### Quadrature -/

/-- `k_etdrk4_nodes` with `k_etdrk4_weights`. -/
def kEtdrk4Nodes : List (D × D) :=
  [(lit 6943184420297371 (-17), lit 17392742256872692 (-17)),
    (lit 33000947820757187 (-17), lit 32607257743127305 (-17)),
    (lit 6699905217924281 (-16), lit 32607257743127305 (-17)),
    (lit 9305681557970262 (-16), lit 17392742256872692 (-17))]

/-- `etdrk4_weight_q`. -/
def etdrk4WeightQ (_theta step : D) : D := mul half step

/-- `etdrk4_weight_b1`. -/
def etdrk4WeightB1 (theta step : D) : D :=
  mul step (add (sub one (mul (lit 3 0) theta)) (mul (mul two theta) theta))

/-- `etdrk4_weight_b2`. -/
def etdrk4WeightB2 (theta step : D) : D := mul (mul two step) (sub theta (mul theta theta))

/-- `etdrk4_weight_b3`. -/
def etdrk4WeightB3 (theta step : D) : D := mul step (add (neg theta) (mul (mul two theta) theta))

/-- `etdrk4_axpy`. -/
def etdrk4Axpy (dst : StateBuffer D) (scale : D) (src : StateBuffer D) : StateBuffer D := fun k =>
  add (dst k) (mul scale (src k))

/-- `etdrk4_linear_combine`. -/
def etdrk4LinearCombine (lhs : StateBuffer D) (lhsScale : D) (rhs : StateBuffer D) (rhsScale : D) :
    StateBuffer D := fun k => add (mul lhsScale (lhs k)) (mul rhsScale (rhs k))

/-- The loop of `etdrk4_apply_quadrature` over the nodes. -/
def etdrk4QuadratureFrom (frame : Etdrk4Frame D) (input : StateBuffer D)
    (step flowScale : D) (weight : D → D → D) :
    List (D × D) → StateBuffer D → Etdrk4M D μ (StateBuffer D)
  | [], output => return output
  | (theta, nodeWeight) :: nodes, output => do
      let quadW := mul nodeWeight (weight theta step)
      let flowDt := mul (mul flowScale (sub one theta)) step
      if eq quadW zero then
        etdrk4QuadratureFrom frame input step flowScale weight nodes output
      else
        let flowed ← etdrk4ApplyLinearFlow frame input flowDt
        etdrk4QuadratureFrom frame input step flowScale weight nodes (etdrk4Axpy output quadW flowed)

/-- `etdrk4_apply_quadrature`; `scratch` is whether it has a buffer for the nodes. -/
def etdrk4ApplyQuadrature (frame : Etdrk4Frame D) (scratch : Bool) (input : StateBuffer D)
    (step flowScale : D) (weight : D → D → D) : Etdrk4M D μ (StateBuffer D) := do
  if !scratch then throw .outOfMemory
  etdrk4QuadratureFrom frame input step flowScale weight kEtdrk4Nodes fun _ => zero

/-! ### The step -/

/-- The body of `etdrk4_step` between `sim_context_begin_drift` and the label
`cleanup_drift`. -/
def etdrk4Stages (environment : Etdrk4Environment D) (integrator : Integrator D)
    (frame : Etdrk4Frame D) (baseTime step : D) : Etdrk4M D μ Unit := do
  let halfStep := mul half step
  let u0 ← etdrk4CopyField frame
  let e2u ← etdrk4ApplyLinearFlow frame u0 halfStep
  let n0 ← etdrk4EvalNonlinear frame u0 baseTime step
  let temp ← etdrk4ApplyQuadrature frame true n0 step half etdrk4WeightQ
  let a := etdrk4LinearCombine e2u one temp one
  let na ← etdrk4EvalNonlinear frame a (add baseTime halfStep) step
  let temp ← etdrk4ApplyQuadrature frame true na step half etdrk4WeightQ
  let b := etdrk4LinearCombine e2u one temp one
  let nb ← etdrk4EvalNonlinear frame b (add baseTime halfStep) step
  let temp := etdrk4LinearCombine nb two n0 (neg one)
  let work ← etdrk4ApplyLinearFlow frame a halfStep
  -- Here the buffer for the nodes would be the input itself.
  let accum ← etdrk4ApplyQuadrature frame environment.nodeScratch temp step half etdrk4WeightQ
  let c := etdrk4LinearCombine work one accum one
  let nc ← etdrk4EvalNonlinear frame c (add baseTime step) step
  let final ← etdrk4ApplyLinearFlow frame u0 step
  let temp ← etdrk4ApplyQuadrature frame true n0 step one etdrk4WeightB1
  let final := etdrk4Axpy final one temp
  let work := etdrk4LinearCombine na one nb one
  let temp ← etdrk4ApplyQuadrature frame true work step one etdrk4WeightB2
  let final := etdrk4Axpy final one temp
  let temp ← etdrk4ApplyQuadrature frame true nc step one etdrk4WeightB3
  let final := etdrk4Axpy final one temp
  etdrk4RestoreSnapshots frame.snapshots
  etdrk4WriteField frame final
  modify (applyStochastic environment.toStepEnvironment integrator frame.target frame.count step)

/-- The label `cleanup_drift`, which does not restore the snapshots. -/
def etdrk4CleanupDrift (restoreDt : D) (context : SimContext D μ) : SimContext D μ :=
  (context.modifyRuntime fun runtime =>
    (runtime.setTimestep restoreDt).clearDriftTimeOverride).endDrift

/-- `etdrk4_step`, for a target field of the context. -/
def etdrk4Step (environment : Etdrk4Environment D) (integrator : Integrator D) (target : ℕ) (dt : D)
    (context : SimContext D μ) : StepOutcome D μ :=
  match context.fields[target]? with
  | none => ⟨context, integrator, .ok ()⟩
  | some field =>
      let count := field.stateLength
      let step := integrator.firstStep dt
      let prepared : Except SimError (Etdrk4Frame D) := do
        if !environment.workspace then throw .outOfMemory
        let (linear, nonlinear) ← etdrk4ClassifyPlan environment target context
        let snapshots ← etdrk4CaptureSnapshots environment context
        return ⟨target, count, snapshots, linear, nonlinear, context.runtime.timestep⟩
      if !field.storageIsComplex || count == 0 || (environment.workspace && !gt step zero) then
        ⟨context, integrator, .ok ()⟩
      else
        match prepared with
        | .error failure => ⟨context, integrator, .error failure⟩
        | .ok frame =>
            let run := (etdrk4Stages environment integrator frame context.runtime.time step).run
              |>.run context.beginDrift
            let context := etdrk4CleanupDrift frame.restoreDt run.2
            match run.1 with
            | .error failure => ⟨context, integrator, .error failure⟩
            | .ok _ =>
                ⟨context,
                  { integrator with
                    lastStep := step
                    lastError := zero
                    lastAttemptCount := 1
                    lastRejectionCount := 0
                    currentDt := integrator.clampDt step }, .ok ()⟩

end Oakfield
