import Oakfield.Context.DriftMode

/-! `integrator_context_drift`: run the plan on a candidate state, take the
difference over the timestep as its derivative, and put every field back. -/
namespace Oakfield

variable {D μ : Type} [CDouble D]

/-! ### Bytes of a field -/

namespace SimField

/-- `memcpy` of the first `size` bytes of a buffer into that of the field. -/
def store (size : ℕ) (source : FieldData D) (field : SimField D) : SimField D :=
  { field with
    data := field.data.map fun data =>
      if field.bytes ≤ size then source
      else .lanes fun k => if k < size / 8 then source.lane k else data.lane k }

/-- `sim_field_domain_is_complex`. -/
def domainIsComplex (field : SimField D) : Bool :=
  if !field.initialized then false else field.complexModeSet || field.domain.isComplex

end SimField

/-! ### Snapshots -/

/-- The allocations of a drift evaluation: snapshot slots, the snapshot of each
field, the copy of the candidate, and the promotions of plan preparation. -/
structure DriftAllocations where
  slots : Bool
  snapshot : ℕ → Bool
  state : Bool
  prepare : ℕ → ℕ → Bool

/-- A snapshot: size and copy of the data of a field. -/
abbrev DriftSnapshot (D : Type) := Option (ℕ × FieldData D)

omit [CDouble D] in
/-- The snapshot of a field, none while it has no bytes. -/
def SimField.snapshot (field : SimField D) : DriftSnapshot D :=
  match field.buffer with
  | none => none
  | some data => if 0 < field.bytes then some (field.bytes, data) else none

/-- Copy a snapshot back into the field, when there is one. -/
def SimField.restore (snapshot : DriftSnapshot D) (field : SimField D) : SimField D :=
  match snapshot with
  | none => field
  | some (size, data) => if field.initialized then field.store size data else field

/-- The loop over the snapshots which restores them. -/
def restoreSnapshots : List (DriftSnapshot D) → List (SimField D) → List (SimField D)
  | snapshot :: snapshots, field :: fields =>
      field.restore snapshot :: restoreSnapshots snapshots fields
  | [], fields => fields
  | _ :: _, [] => []

namespace SimContext

/-! ### Candidate -/

/-- Copy `size` bytes of lanes into the target field. -/
def storeTarget (target size : ℕ) (lanes : ℕ → D) (context : SimContext D μ) : SimContext D μ :=
  { context with fields := context.fields.modify target (·.store size (.lanes lanes)) }

/-- The call of `sim_context_prepare_plan` when the plan is not valid. -/
def ensurePlan (prepare : ℕ → ℕ → Bool) (context : SimContext D μ) : ContextCall D μ :=
  if context.planValid then (context, .ok ()) else context.preparePlan prepare

/-- What a drift evaluation leaves in the context, and the derivative. -/
abbrev DriftCall (D μ : Type) := SimContext D μ × Except SimError (List D)

/-- The data of the target through one of the typed accessors. -/
def targetData (pointer : SimField D → Option (FieldData D)) (target : ℕ)
    (context : SimContext D μ) : Option (FieldData D) :=
  context.fields[target]?.bind pointer

/-- Lanes of the derivative: the difference over the timestep. -/
def derivative (dt : D) (lanes : ℕ) (updated candidate : ℕ → D) : List D :=
  (List.range lanes).map fun k => CDouble.div (CDouble.sub (updated k) (candidate k)) dt

/-- What both paths do between `sim_context_begin_drift` and the restoring
loop: write the candidate, run the plan, and leave success to `finish`. -/
def driftThrough (allocations : DriftAllocations) (pointer : SimField D → Option (FieldData D))
    (target size : ℕ) (candidate : ℕ → D) (finish : SimContext D μ → DriftCall D μ)
    (context : SimContext D μ) : DriftCall D μ :=
  if !allocations.state then (context, .error .outOfMemory)
  else if (context.targetData pointer target).isNone then (context, .error .invalidArgument)
  else
    match (context.storeTarget target size candidate).ensurePlan allocations.prepare with
    | (context, .error failure) => (context, .error failure)
    | (context, .ok _) =>
        let run := context.executePrepared
        match run.result with
        | .error failure =>
            if (run.context.targetData pointer target).isNone then (run.context, .error failure)
            else (run.context.storeTarget target size candidate, .error failure)
        | .ok _ => finish run.context

/-- The complex path. -/
def driftComplex (allocations : DriftAllocations) (target count : ℕ) (dt : D) (candidate : ℕ → D) :
    SimContext D μ → DriftCall D μ :=
  driftThrough allocations SimField.complexData target (count * 16) candidate fun context =>
    match context.targetData SimField.complexData target with
    | none => (context, .error .dependencyError)
    | some data =>
        (context.storeTarget target (count * 16) candidate,
          .ok (derivative dt (2 * count) data.lane candidate))

/-- The real path, which tells a target that has complex storage by now from
one that has not. -/
def driftReal (allocations : DriftAllocations) (target count : ℕ) (dt : D) (candidate : ℕ → D) :
    SimContext D μ → DriftCall D μ :=
  driftThrough allocations SimField.realData target (count * 8) candidate fun context =>
    if context.fields[target]?.any SimField.storageIsComplex then
      match context.targetData SimField.complexData target with
      | none => (context, .error .dependencyError)
      | some data =>
          (context.storeTarget target (count * 16)
              fun k => if k % 2 = 0 then candidate (k / 2) else CDouble.zero,
            .ok (derivative dt count (fun k => data.lane (2 * k)) candidate))
    else
      match context.targetData SimField.realData target with
      | none => (context, .error .dependencyError)
      | some data =>
          (context.storeTarget target (count * 8) candidate,
            .ok (derivative dt count data.lane candidate))

/-- The timestep of the difference quotient. -/
def driftTimestep (context : SimContext D μ) : D :=
  if CDouble.gt context.runtime.timestep CDouble.zero then context.runtime.timestep
  else CDouble.one

omit [CDouble D] in
/-- The snapshots of all fields can be allocated. -/
def snapshotsGranted (allocations : DriftAllocations) (context : SimContext D μ) : Bool :=
  context.fields.isEmpty || (allocations.slots &&
    (context.fields.mapIdx fun i field =>
      field.snapshot.isNone || allocations.snapshot i).all id)

/-- `integrator_context_drift`, for a target field of the context. The candidate
is an array of `count` real or complex elements. -/
def contextDrift (allocations : DriftAllocations) (target count : ℕ) (candidate : ℕ → D)
    (context : SimContext D μ) : DriftCall D μ :=
  match context.fields[target]? with
  | none => (context, .error .invalidArgument)
  | some field =>
      if count = 0 then (context, .ok [])
      else if !context.snapshotsGranted allocations then (context, .error .outOfMemory)
      else
        let drift := if field.domainIsComplex then driftComplex else driftReal
        let drifted := drift allocations target count context.driftTimestep candidate
          context.beginDrift
        let restored := restoreSnapshots (context.fields.map SimField.snapshot) drifted.1.fields
        ({ drifted.1 with fields := restored }.endDrift, drifted.2)

end SimContext

end Oakfield
