import Oakfield.Field.Init

/-! The arrays of a context with one entry for each field. -/
namespace Oakfield

open KernelIR CDouble

/-- The records which the arrays hold, with their initial values and `sizeof`. The value of
`Topology` is the one which `sim_field_topology_runtime_init` sets, the others are all zero. -/
structure RuntimeRecords where
  Stats : Type
  Topology : Type
  Metrics : Type
  Waveform : Type
  zeroStats : Stats
  initTopology : Topology
  zeroMetrics : Metrics
  zeroWaveform : Waveform
  statsSize : ℕ
  topologySize : ℕ
  metricsSize : ℕ
  waveformSize : ℕ
  fieldSize : ℕ
  overrideSize : ℕ
  fieldSize_pos : 0 < fieldSize
  overrideSize_pos : 0 < overrideSize
  fieldSize_lt : fieldSize < 2 ^ 32
  overrideSize_lt : overrideSize < 2 ^ 32

/-- The arrays of `SimRuntimeState` whose length is `continuity_capacity`. -/
inductive ContinuityArray where
  | fieldDirtyCounts
  | fieldStableCounts
  | fieldPhaseEma
  | fieldPhaseLastTime
  | fieldPhaseLockState
  | fieldPhaseInitialized
  | driftFieldStats
  | driftFieldStatsValid
  | driftFieldStatsRequested
  | fieldStatsCache
  | fieldStatsCacheStepIndex
  | fieldTopologyCache
  | driftFieldSnapshots
  | driftFieldSnapshotCapacity
  | driftFieldSnapshotCount
  | driftFieldSnapshotStepIndex
  | driftFieldSnapshotValid
  | driftFieldSnapshotRequested
  | fieldHealthCacheStepIndex
  | fieldHealthNanCounts
  | fieldHealthInfCounts
  | visualSampleCache
  | visualSampleCacheCapacity
  | visualSampleCacheCount
  | visualSampleCacheStepIndex
  | visualSampleCacheSourceCount
  | visualSampleCacheStride
  | visualSampleCacheValid
  | phasePortraitMetricsCache
  | phasePortraitMetricsCacheStepIndex
  | phasePortraitMetricsCacheSampleCount
  | phasePortraitMetricsCacheValid
  | waveformSampleStatsCache
  | waveformSampleStatsCacheStepIndex
  | waveformSampleStatsCacheSampleCount
  | waveformSampleStatsCacheValid
deriving DecidableEq, Repr

namespace ContinuityArray

variable (R : RuntimeRecords) (D : Type)

/-- The type of the entries. Pointers are addresses, or `none` for `NULL`. -/
def Elem : ContinuityArray → Type
  | fieldDirtyCounts | fieldStableCounts => BitVec 64
  | fieldPhaseEma | fieldPhaseLastTime => D
  | fieldPhaseLockState | fieldPhaseInitialized => BitVec 8
  | driftFieldStats | fieldStatsCache => R.Stats
  | fieldTopologyCache => R.Topology
  | phasePortraitMetricsCache => R.Metrics
  | waveformSampleStatsCache => R.Waveform
  | driftFieldSnapshots | visualSampleCache => Option ℕ
  | driftFieldStatsValid | driftFieldStatsRequested | driftFieldSnapshotValid
  | driftFieldSnapshotRequested | visualSampleCacheValid | phasePortraitMetricsCacheValid
  | waveformSampleStatsCacheValid => Bool
  | fieldStatsCacheStepIndex | driftFieldSnapshotCapacity | driftFieldSnapshotCount
  | driftFieldSnapshotStepIndex | fieldHealthCacheStepIndex | fieldHealthNanCounts
  | fieldHealthInfCounts | visualSampleCacheCapacity | visualSampleCacheCount
  | visualSampleCacheStepIndex | visualSampleCacheSourceCount | visualSampleCacheStride
  | phasePortraitMetricsCacheStepIndex | phasePortraitMetricsCacheSampleCount
  | waveformSampleStatsCacheStepIndex | waveformSampleStatsCacheSampleCount => BitVec 64

/-- The arrays of step indices which are allocated by `malloc` and set to `SIZE_MAX`; the others
are allocated by `calloc`. -/
def isStepIndex : ContinuityArray → Bool
  | fieldStatsCacheStepIndex | fieldHealthCacheStepIndex | visualSampleCacheStepIndex
  | phasePortraitMetricsCacheStepIndex | waveformSampleStatsCacheStepIndex => true
  | _ => false

/-- `sizeof` of an entry. -/
def elemSize : ContinuityArray → ℕ
  | fieldPhaseLockState | fieldPhaseInitialized => 1
  | driftFieldStats | fieldStatsCache => R.statsSize
  | fieldTopologyCache => R.topologySize
  | phasePortraitMetricsCache => R.metricsSize
  | waveformSampleStatsCache => R.waveformSize
  | driftFieldStatsValid | driftFieldStatsRequested | driftFieldSnapshotValid
  | driftFieldSnapshotRequested | visualSampleCacheValid | phasePortraitMetricsCacheValid
  | waveformSampleStatsCacheValid => 1
  | _ => 8

/-- What `sim_runtime_state_ensure_continuity_capacity` puts into a new entry. -/
def fresh [CDouble D] : (a : ContinuityArray) → a.Elem R D
  | fieldDirtyCounts | fieldStableCounts => (0 : BitVec 64)
  | fieldPhaseEma | fieldPhaseLastTime => (zero : D)
  | fieldPhaseLockState | fieldPhaseInitialized => (0 : BitVec 8)
  | driftFieldStats | fieldStatsCache => R.zeroStats
  | fieldTopologyCache => R.initTopology
  | phasePortraitMetricsCache => R.zeroMetrics
  | waveformSampleStatsCache => R.zeroWaveform
  | driftFieldSnapshots | visualSampleCache => (none : Option ℕ)
  | driftFieldStatsValid | driftFieldStatsRequested | driftFieldSnapshotValid
  | driftFieldSnapshotRequested | visualSampleCacheValid | phasePortraitMetricsCacheValid
  | waveformSampleStatsCacheValid => false
  | fieldStatsCacheStepIndex | fieldHealthCacheStepIndex | visualSampleCacheStepIndex
  | phasePortraitMetricsCacheStepIndex | waveformSampleStatsCacheStepIndex =>
      BitVec.allOnes 64
  | driftFieldSnapshotCapacity | driftFieldSnapshotCount | driftFieldSnapshotStepIndex
  | fieldHealthNanCounts | fieldHealthInfCounts | visualSampleCacheCapacity
  | visualSampleCacheCount | visualSampleCacheSourceCount | visualSampleCacheStride
  | phasePortraitMetricsCacheSampleCount | waveformSampleStatsCacheSampleCount => (0 : BitVec 64)

/-- The arrays whose entry `sim_context_add_field` leaves as it is. -/
def keepsEntry : ContinuityArray → Bool
  | visualSampleCache | visualSampleCacheCapacity | visualSampleCacheCount
  | visualSampleCacheStepIndex | visualSampleCacheSourceCount | visualSampleCacheStride
  | visualSampleCacheValid | phasePortraitMetricsCache | phasePortraitMetricsCacheStepIndex
  | phasePortraitMetricsCacheSampleCount | phasePortraitMetricsCacheValid
  | waveformSampleStatsCache | waveformSampleStatsCacheStepIndex
  | waveformSampleStatsCacheSampleCount | waveformSampleStatsCacheValid => true
  | _ => false

end ContinuityArray

/-- An array on the heap: its length and its entries. -/
structure FieldArray (α : Type) where
  slots : ℕ
  entry : ℕ → α

/-- The part of `SimRuntimeState` with the arrays. -/
structure ContinuityState (R : RuntimeRecords) (D : Type) where
  arrays : (a : ContinuityArray) → Option (FieldArray (a.Elem R D))
  continuityCapacity : ℕ
  driftFieldStatsStepIndex : BitVec 64

/-- The loop which doubles a capacity until it is large enough. Sixty-four doublings of a 64-bit
word leave zero, and then the loop does not end. -/
def doubledCapacity : ℕ → ℕ → ℕ → Option ℕ
  | 0, _, _ => none
  | fuel + 1, capacity, required =>
      if capacity < required then doubledCapacity fuel (capacity * 2 % 2 ^ 64) required
      else some capacity

/-- The capacity to which an array grows; `none` when the loop does not end. -/
def grownCapacity (capacity required : ℕ) : Option ℕ :=
  doubledCapacity 65 (if capacity = 0 then 4 else capacity) required

namespace ContinuityState

variable {R : RuntimeRecords} {D : Type} [CDouble D]

/-- The length of a new array, when the heap grants it. -/
def allocate (R : RuntimeRecords) (grants : ContinuityArray → Bool) (capacity : ℕ)
    (a : ContinuityArray) : Option ℕ :=
  if a.isStepIndex then if grants a then some (capacity * 8 % 2 ^ 64 / 8) else none
  else if capacity * a.elemSize R < 2 ^ 64 ∧ grants a then some capacity
  else none

/-- All arrays, in the order of their allocation. -/
def allArrays : List ContinuityArray :=
  [.fieldDirtyCounts, .fieldStableCounts, .fieldPhaseEma, .fieldPhaseLastTime,
    .fieldPhaseLockState, .fieldPhaseInitialized, .driftFieldStats, .driftFieldStatsValid,
    .driftFieldStatsRequested, .fieldStatsCache, .fieldStatsCacheStepIndex, .fieldTopologyCache,
    .driftFieldSnapshots, .driftFieldSnapshotCapacity, .driftFieldSnapshotCount,
    .driftFieldSnapshotStepIndex, .driftFieldSnapshotValid, .driftFieldSnapshotRequested,
    .fieldHealthCacheStepIndex, .fieldHealthNanCounts, .fieldHealthInfCounts, .visualSampleCache,
    .visualSampleCacheCapacity, .visualSampleCacheCount, .visualSampleCacheStepIndex,
    .visualSampleCacheSourceCount, .visualSampleCacheStride, .visualSampleCacheValid,
    .phasePortraitMetricsCache, .phasePortraitMetricsCacheStepIndex,
    .phasePortraitMetricsCacheSampleCount, .phasePortraitMetricsCacheValid,
    .waveformSampleStatsCache, .waveformSampleStatsCacheStepIndex,
    .waveformSampleStatsCacheSampleCount, .waveformSampleStatsCacheValid]

/-- The entries of a new array after the old ones were copied. -/
def copied (state : ContinuityState R D) (a : ContinuityArray) (i : ℕ) : a.Elem R D :=
  match state.arrays a with
  | none => a.fresh R D
  | some old => if i < state.continuityCapacity then old.entry i else a.fresh R D

/-- The last loop over `drift_field_stats_valid`, which clears all its entries. -/
def cleared (capacity : ℕ) : (a : ContinuityArray) → (ℕ → a.Elem R D) → ℕ → a.Elem R D
  | .driftFieldStatsValid, entry => fun i => if i < capacity then false else entry i
  | _, entry => entry

/-- `sim_runtime_state_ensure_continuity_capacity`; `none` when it does not return. -/
def ensureContinuityCapacity (grants : ContinuityArray → Bool) (required : ℕ)
    (state : ContinuityState R D) : Option (ContinuityState R D × Except SimError Unit) :=
  if required = 0 ∨ required ≤ state.continuityCapacity then some (state, .ok ())
  else
    match grownCapacity state.continuityCapacity required with
    | none => none
    | some capacity =>
        if allArrays.any fun a => (allocate R grants capacity a).isNone then
          some (state, .error .outOfMemory)
        else
          some
            ({ arrays := fun a => (allocate R grants capacity a).map fun slots =>
                ⟨slots, cleared capacity a (state.copied a)⟩
               continuityCapacity := capacity
               driftFieldStatsStepIndex := BitVec.allOnes 64 }, .ok ())

end ContinuityState

/-! ### The fields of the world -/

/-- The part of `SimWorld` about its fields: their number, the capacity and the lengths of the
arrays `fields` and `field_continuity`. -/
structure FieldStore where
  fieldCount : ℕ
  fieldCapacity : ℕ
  fieldSlots : ℕ
  overrideSlots : ℕ

/-- The length of an array after `realloc`, which grants no more than `PTRDIFF_MAX` bytes. -/
def reallocLength (granted : Bool) (count size : ℕ) : Option ℕ :=
  let bytes := count * size % 2 ^ 64
  if bytes < 2 ^ 63 ∧ granted then some (bytes / size) else none

/-- `sim_world_reserve_fields`, with the answers of the heap; `none` when it does not return. -/
def FieldStore.reserveFields (R : RuntimeRecords) (granted : Bool × Bool) (additional : ℕ)
    (world : FieldStore) : Option (FieldStore × Except SimError Unit) :=
  if additional = 0 then some (world, .ok ())
  else
    let required := (world.fieldCount + additional) % 2 ^ 64
    if required ≤ world.fieldCapacity then some (world, .ok ())
    else
      match grownCapacity world.fieldCapacity required with
      | none => none
      | some capacity =>
          match reallocLength granted.1 capacity R.fieldSize with
          | none => some (world, .error .outOfMemory)
          | some fieldSlots =>
              let world := { world with fieldSlots := fieldSlots }
              match reallocLength granted.2 capacity R.overrideSize with
              | none => some (world, .error .outOfMemory)
              | some overrideSlots =>
                  some ({ world with overrideSlots := overrideSlots, fieldCapacity := capacity },
                    .ok ())

/-! ### The context -/

/-- A context, as far as the arrays with an entry for each field go. -/
structure FieldContext (R : RuntimeRecords) (D : Type) where
  world : FieldStore
  runtime : ContinuityState R D

namespace FieldContext

variable {R : RuntimeRecords} {D : Type}

/-- `sim_world_init` and `sim_runtime_state_init`; also what the destruction leaves. -/
def init : FieldContext R D where
  world := ⟨0, 0, 0, 0⟩
  runtime := ⟨fun _ => none, 0, BitVec.allOnes 64⟩

variable [CDouble D]

/-- What `sim_context_add_field` stores in the entry of a new field. -/
def newEntry (time : D) : (a : ContinuityArray) → a.Elem R D
  | .fieldPhaseLastTime => time
  | a => a.fresh R D

/-- The stores of `sim_context_add_field` at the index of the new field. -/
def resetEntry (index : ℕ) (time : D) (runtime : ContinuityState R D) : ContinuityState R D :=
  { runtime with
    arrays := fun a => (runtime.arrays a).map fun array =>
      if a.keepsEntry then array
      else { array with
        entry := fun i => if i = index then newEntry time a else array.entry i }
    driftFieldStatsStepIndex := BitVec.allOnes 64 }

/-- `sim_context_add_field`, given what its checks of the field and of the memory limits say. -/
def addField (admitted : Except SimError Unit) (granted : Bool × Bool)
    (grants : ContinuityArray → Bool) (time : D) (context : FieldContext R D) :
    Option (FieldContext R D × Except SimError Unit) :=
  match admitted with
  | .error failure => some (context, .error failure)
  | .ok _ =>
      match context.world.reserveFields R granted 1 with
      | none => none
      | some (world, .error failure) => some ({ context with world := world }, .error failure)
      | some (world, .ok _) =>
          match context.runtime.ensureContinuityCapacity grants
              ((world.fieldCount + 1) % 2 ^ 64) with
          | none => none
          | some (runtime, .error failure) => some (⟨world, runtime⟩, .error failure)
          | some (runtime, .ok _) =>
              some
                ({ world := { world with fieldCount := world.fieldCount + 1 }
                   runtime := resetEntry world.fieldCount time runtime }, .ok ())

/-- Whether one of the first flags of an array is set. -/
def requested (limit : ℕ) (flags : Option (FieldArray Bool)) : Bool :=
  match flags with
  | none => false
  | some flags => (List.range limit).any flags.entry

/-- The part of `sim_context_capture_drift_field_stats` which may grow the arrays. -/
def captureDriftFieldStats (grants : ContinuityArray → Bool) (context : FieldContext R D) :
    Option (FieldContext R D) :=
  let fieldCount := context.world.fieldCount
  let limit := min context.runtime.continuityCapacity fieldCount
  if fieldCount < 2 then some context
  else if !requested limit (context.runtime.arrays .driftFieldStatsRequested) &&
      !requested limit (context.runtime.arrays .driftFieldSnapshotRequested) then some context
  else if (context.runtime.arrays .driftFieldStats).isNone ||
      (context.runtime.arrays .driftFieldStatsValid).isNone ||
      (context.runtime.arrays .driftFieldStatsRequested).isNone ||
      decide (context.runtime.continuityCapacity < fieldCount) then
    match context.runtime.ensureContinuityCapacity grants fieldCount with
    | none => none
    | some (runtime, _) => some { context with runtime := runtime }
  else some context

/-- The calls on a context which change the number of fields or the capacities. -/
inductive Call (D : Type) where
  | addField (admitted : Except SimError Unit) (granted : Bool × Bool)
      (grants : ContinuityArray → Bool) (time : D)
  | captureDriftFieldStats (grants : ContinuityArray → Bool)
  | destroy

/-- The context after a call; `none` when it does not return. -/
def call (context : FieldContext R D) : Call D → Option (FieldContext R D)
  | .addField admitted granted grants time =>
      (context.addField admitted granted grants time).map Prod.fst
  | .captureDriftFieldStats grants => context.captureDriftFieldStats grants
  | .destroy => some init

/-- The context after a run of calls. -/
def run (context : FieldContext R D) : List (Call D) → Option (FieldContext R D)
  | [] => some context
  | next :: calls => (context.call next).bind fun after => after.run calls

end FieldContext

end Oakfield
