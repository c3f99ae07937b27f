import Oakfield.Integrator.ReportedStep

/-! The subordination integrator: drift evaluations at the nodes of a midpoint rule, under
timesteps of their own. -/
namespace Oakfield

open KernelIR CDouble

variable {D μ : Type} [CDouble D]

/-- The private state of a subordination integrator which owns a context. -/
structure SubordinationState (D : Type) where
  alpha : D
  quadratureN : ℕ
  truncation : D

namespace SubordinationState

/-- The width of a node. -/
def width (state : SubordinationState D) : D :=
  div state.truncation (ofU64 (BitVec.ofNat 64 state.quadratureN))

/-- The place of node `i`. -/
def node (state : SubordinationState D) (i : ℕ) : D :=
  mul (add (ofU64 (BitVec.ofNat 64 i)) half) state.width

def weight (state : SubordinationState D) (i : ℕ) : D :=
  mul (exp (neg (pow (state.node i) state.alpha))) state.width

/-- The timestep under which node `i` is evaluated. -/
def evalDt (state : SubordinationState D) (dt baseDt : D) (i : ℕ) : D :=
  let scaled := mul dt (state.node i)
  let outer := if !gt scaled zero then dt else scaled
  let base := if !gt outer zero then baseDt else outer
  if !gt base zero then one else base

end SubordinationState

/-- The loop over the nodes. A failed evaluation ends it, with the timestep put back. -/
def subordinationFrom (state : SubordinationState D) (drift : DriftFunction D μ)
    (target count : ℕ) (dt baseDt : D) :
    List ℕ → StateBuffer D → SimContext D μ → SimContext D μ × Except SimError (StateBuffer D)
  | [], accum, context => (context, .ok accum)
  | i :: nodes, accum, context =>
      let drifted := drift count i (context.targetLanes target)
        (context.modifyRuntime (.setTimestep (state.evalDt dt baseDt i)))
      let restored := drifted.1.modifyRuntime (.setTimestep baseDt)
      match drifted.2 with
      | .error failure => (restored, .error failure)
      | .ok slope =>
          subordinationFrom state drift target count dt baseDt nodes
            (fun k => add (accum k) (mul (state.weight i) (slope k))) restored

/-- `subordination_step`, for a target field of the context. -/
def subordinationStep (state : SubordinationState D) (environment : StepEnvironment D)
    (drift : DriftFunction D μ) (integrator : Integrator D) (target : ℕ) (dt : D)
    (context : SimContext D μ) : StepOutcome D μ :=
  match context.fields[target]? with
  | none => ⟨context, integrator, .ok ()⟩
  | some field =>
      let isComplex := field.domainIsComplex
      let count := field.stateLength
      if state.quadratureN = 0 || !gt state.truncation zero then ⟨context, integrator, .ok ()⟩
      else if (if isComplex then field.complexData else field.buffer).isNone then
        ⟨context, integrator, .ok ()⟩
      else if count = 0 then ⟨context, integrator, .ok ()⟩
      else if !environment.workspace then ⟨context, integrator, .error .outOfMemory⟩
      else
        let run := subordinationFrom state drift target count dt context.runtime.timestep
          (List.range state.quadratureN) (fun _ => zero) context
        match run.2 with
        | .error failure => ⟨run.1, integrator, .error failure⟩
        | .ok accum =>
            let lanes := run.1.targetLanes target
            let size := count * if isComplex then 16 else 8
            let stored := run.1.storeTarget target size fun k => add (lanes k) (mul dt (accum k))
            ⟨applyStochastic environment integrator target count dt stored,
              { integrator with
                lastStep := dt
                lastError := zero
                lastAttemptCount := 1
                lastRejectionCount := 0
                currentDt := integrator.clampDt dt }, .ok ()⟩

/-- What a step leaves of the timestep is the clamped one it was given. -/
theorem subordinationStep_integrator (state : SubordinationState D)
    (environment : StepEnvironment D) (drift : DriftFunction D μ) (integrator : Integrator D)
    (target : ℕ) (dt : D) (context : SimContext D μ) :
    (subordinationStep state environment drift integrator target dt context).integrator =
        integrator ∨
      (subordinationStep state environment drift integrator target dt context).integrator =
        { integrator with
          lastStep := dt
          lastError := zero
          lastAttemptCount := 1
          lastRejectionCount := 0
          currentDt := integrator.clampDt dt } := by
  unfold subordinationStep
  cases context.fields[target]? with
  | none => exact .inl rfl
  | some field =>
      dsimp only
      generalize subordinationFrom state drift target field.stateLength dt context.runtime.timestep
        (List.range state.quadratureN) (fun _ => zero) context = run
      cases run.2 with
      | error failure => split_ifs <;> exact .inl rfl
      | ok accum => split_ifs <;> first | exact .inl rfl | exact .inr rfl

end Oakfield
