import Oakfield.Context.PlanPromotions
import Oakfield.Integrator.DriftFields

/-! When a drift evaluation leaves the fields of the context as they were. -/
namespace Oakfield

open SimField

variable {D μ : Type} [CDouble D] {context later : SimContext D μ}

/-! ### Promotions with the candidate in place -/

/-- The result of `sim_field_require_complex` on a field with data, which does not
depend on the data. -/
theorem SimField.requireComplex_result {allocate : ℕ → Bool} {field : SimField D}
    {data : FieldData D} (hInit : field.initialized = true) (hData : field.data = some data) :
    (field.requireComplex allocate).2 =
      if !field.promotable then .error .dependencyError
      else if field.storageIsComplex || decide (field.elementSize = 16) ||
          decide (elementCount field.shape = 0) then .ok ()
      else if !field.contiguous then .error .invalidState
      else if field.elementSize ≠ 8 then .error .dependencyError
      else if !allocate (elementCount field.shape * 16 % 2 ^ 64) then .error .outOfMemory
      else .ok () := by
  rw [requireComplex, promoteInplaceToComplex, hInit, hData]
  dsimp only
  split_ifs <;> simp_all

theorem SimField.requireComplex_store (allocate : ℕ → Bool) (size : ℕ) (source : FieldData D)
    (field : SimField D) :
    ((field.store size source).requireComplex allocate).2 = (field.requireComplex allocate).2 := by
  cases hInit : field.initialized with
  | false => rw [requireComplex, requireComplex, store, hInit]
  | true =>
      cases hData : field.data with
      | none => rw [requireComplex, requireComplex, store, hInit, hData]; rfl
      | some data =>
          have hStored : ∃ stored, (field.store size source).data = some stored := by
            rw [store, hData]
            exact ⟨_, rfl⟩
          obtain ⟨stored, hStored⟩ := hStored
          rw [requireComplex_result hInit hData, requireComplex_result
            (show (field.store size source).initialized = true from hInit) hStored]
          rfl

namespace SimContext

/-- The result of one iteration of the promotion loop on a field. -/
theorem prepareComplexField_result {allocate : ℕ → Bool} {i : ℕ} {field : SimField D}
    (hField : context.fields[i]? = some field) :
    (context.prepareComplexField allocate i).2 =
      let count := elementCount field.shape
      let limits := context.memoryLimits
      if !field.complexModeSet || field.storageIsComplex then .ok ()
      else if count = 0 then .error .invalidArgument
      else if sizeLimit / 16 < count then .error .outOfMemory
      else if 0 < limits.maxFieldElements ∧ limits.maxFieldElements < count then
        .error .outOfMemory
      else if 0 < limits.maxFieldBytes ∧ limits.maxFieldBytes < count * 16 then
        .error .outOfMemory
      else
        match context.promotedBytes field.bytes (count * 16) with
        | .error failure => .error failure
        | .ok _ => (field.requireComplex allocate).2 := by
  rw [prepareComplexField, hField]
  dsimp only
  cases context.promotedBytes field.bytes (elementCount field.shape * 16) with
  | error failure => split_ifs <;> rfl
  | ok next =>
      cases field.requireComplex allocate with
      | mk promoted result => cases result <;> dsimp only <;> split_ifs <;> rfl

/-- The context in which a drift evaluation runs the plan. -/
def probe (target size : ℕ) (candidate : ℕ → D) (context : SimContext D μ) : SimContext D μ :=
  context.beginDrift.storeTarget target size candidate

theorem getElem?_probe (target size i : ℕ) (candidate : ℕ → D) (context : SimContext D μ) :
    (context.probe target size candidate).fields[i]? = context.fields[i]?.map fun field =>
      if target = i then field.store size (.lanes candidate) else field := by
  rw [probe, storeTarget, List.getElem?_modify]
  show Option.map _ context.fields[i]? = _
  cases context.fields[i]? with
  | none => rfl
  | some field => simp only [Option.map_some]

/-- The candidate in the target field changes no promotion. -/
theorem prepareComplexField_probe (allocate : ℕ → Bool) (target size i : ℕ) (candidate : ℕ → D)
    (context : SimContext D μ) :
    ((context.probe target size candidate).prepareComplexField allocate i).2 =
      (context.prepareComplexField allocate i).2 := by
  have hProbe := getElem?_probe target size i candidate context
  cases hField : context.fields[i]? with
  | none =>
      rw [hField] at hProbe
      rw [prepareComplexField, prepareComplexField, hField, hProbe]
      rfl
  | some field =>
      rw [hField, Option.map_some] at hProbe
      rw [prepareComplexField_result hProbe, prepareComplexField_result hField]
      by_cases hTarget : target = i
      · have hRequire := requireComplex_store allocate size (.lanes candidate) field
        simp only [if_pos hTarget, hRequire]
        rfl
      · simp only [if_neg hTarget]
        rfl

theorem needsComplex_probe (target size : ℕ) (candidate : ℕ → D) (context : SimContext D μ)
    (i : ℕ) : (∃ field, (context.probe target size candidate).fields[i]? = some field ∧
      NeedsComplex field) ↔ ∃ field, context.fields[i]? = some field ∧ NeedsComplex field := by
  rw [getElem?_probe]
  cases context.fields[i]? with
  | none => rfl
  | some field =>
      simp only [Option.map_some, Option.some.injEq, exists_eq_left']
      split <;> rfl

theorem planPromotes_iff (prepare : ℕ → ℕ → Bool) (context : SimContext D μ) :
    context.PlanPromotes prepare ↔ context.planValid = false ∧ ∃ i : ℕ,
      (∃ field, context.fields[i]? = some field ∧ NeedsComplex field) ∧
      (∀ j < i, ¬∃ field, context.fields[j]? = some field ∧ NeedsComplex field) ∧
      (context.prepareComplexField (prepare i) i).2 = .ok () := by
  rw [PlanPromotes]
  simp only [not_exists, not_and]
  constructor
  · rintro ⟨hStale, i, field, hField, hHere, hFirst, hOk⟩
    exact ⟨hStale, i, ⟨field, hField, hHere⟩, hFirst, hOk⟩
  · rintro ⟨hStale, i, ⟨field, hField, hHere⟩, hFirst, hOk⟩
    exact ⟨hStale, i, field, hField, hHere, hFirst, hOk⟩

theorem planPromotes_probe (prepare : ℕ → ℕ → Bool) (target size : ℕ) (candidate : ℕ → D)
    (context : SimContext D μ) :
    (context.probe target size candidate).PlanPromotes prepare ↔ context.PlanPromotes prepare := by
  rw [planPromotes_iff, planPromotes_iff]
  simp only [needsComplex_probe, prepareComplexField_probe]
  rfl

/-! ### The path between beginning drift and restoring -/

theorem ensurePlan_frame (prepare : ℕ → ℕ → Bool) (context : SimContext D μ) :
    (context.ensurePlan prepare).1.runtime = context.runtime ∧
      (¬context.PlanPromotes prepare → (context.ensurePlan prepare).1.fields = context.fields) := by
  rw [ensurePlan]
  cases hValid : context.planValid with
  | true => exact ⟨rfl, fun _ => rfl⟩
  | false =>
      obtain ⟨hFields, hRuntime⟩ := preparePlan_frame prepare context
      refine ⟨hRuntime, fun hNot => ?_⟩
      exact hFields.trans (prepareComplexFields_unpromoted hValid hNot)

/-- The path reaches the plan: it has its copy of the candidate, and the target
has data of the right type. -/
def DriftReaches (allocations : DriftAllocations) (pointer : SimField D → Option (FieldData D))
    (target : ℕ) (context : SimContext D μ) : Prop :=
  allocations.state = true ∧ (context.targetData pointer target).isSome = true

variable {allocations : DriftAllocations} {pointer : SimField D → Option (FieldData D)}
  {target size : ℕ} {candidate : ℕ → D} {finish : SimContext D μ → DriftCall D μ}

/-- From the prepared context on, the path only writes contents. -/
theorem driftThrough_prepared (hDrift : context.inDrift = true)
    (hReaches : context.DriftReaches allocations pointer target)
    (hFinish : ∀ reached, Probed reached (finish reached).1) :
    Probed ((context.storeTarget target size candidate).ensurePlan allocations.prepare).1
      (driftThrough allocations pointer target size candidate finish context).1 := by
  have hPlan := (ensurePlan_frame allocations.prepare
    (context.storeTarget target size candidate)).1
  have hState : (!allocations.state) = false := by rw [hReaches.1]; rfl
  have hData : (context.targetData pointer target).isNone = false := by
    rw [Option.isNone_eq_false_iff]
    exact hReaches.2
  rw [driftThrough, hState, hData]
  simp only [Bool.false_eq_true, if_false]
  cases hPrepared : (context.storeTarget target size candidate).ensurePlan allocations.prepare with
  | mk prepared result =>
      rw [hPrepared] at hPlan
      cases result with
      | error failure => exact .refl prepared
      | ok code =>
          have hPreparedDrift : prepared.inDrift = true := by
            rw [inDrift, hPlan]
            exact hDrift
          have hRun := probed_executePrepared hPreparedDrift
          dsimp only
          cases hResult : prepared.executePrepared.result with
          | error failure =>
              dsimp only
              split
              · exact hRun
              · exact hRun.trans (probed_storeTarget _ _ _ _)
          | ok code => exact hRun.trans (hFinish _)

/-- Otherwise nothing happens. -/
theorem driftThrough_unreached (hNot : ¬context.DriftReaches allocations pointer target) :
    (driftThrough allocations pointer target size candidate finish context).1 = context := by
  rw [driftThrough]
  split
  case isTrue => rfl
  case isFalse hState =>
    split
    case isTrue => rfl
    case isFalse hData =>
      have hReaches : context.DriftReaches allocations pointer target := by
        constructor
        · simpa using hState
        · simpa [Option.isSome_iff_ne_none, Option.isNone_iff_eq_none] using hData
      exact absurd hReaches hNot

/-! ### Purity -/

/-- The accessor and the element size of the path for a field. -/
def driftPointer (field : SimField D) : SimField D → Option (FieldData D) :=
  if field.domainIsComplex then SimField.complexData else SimField.realData

def driftElementSize (field : SimField D) : ℕ := if field.domainIsComplex then 16 else 8

/-- The call gets as far as beginning drift. -/
def DriftBegins (allocations : DriftAllocations) (target count : ℕ) (context : SimContext D μ) :
    Prop :=
  (context.fields[target]?).isSome = true ∧ count ≠ 0 ∧ context.snapshotsGranted allocations = true

/-- Both paths on the context in drift. -/
def drifted (allocations : DriftAllocations) (target count : ℕ) (candidate : ℕ → D)
    (field : SimField D) (context : SimContext D μ) : DriftCall D μ :=
  (if field.domainIsComplex then driftComplex else driftReal) allocations target count
    context.driftTimestep candidate context.beginDrift

variable {count : ℕ} {field : SimField D}

theorem contextDrift_begins (hField : context.fields[target]? = some field)
    (hBegins : context.DriftBegins allocations target count) :
    context.contextDrift allocations target count candidate =
      ({ (context.drifted allocations target count candidate field).1 with
          fields := restoreSnapshots (context.fields.map SimField.snapshot)
            (context.drifted allocations target count candidate field).1.fields }.endDrift,
        (context.drifted allocations target count candidate field).2) := by
  obtain ⟨-, hCount, hSnapshots⟩ := hBegins
  rw [contextDrift, hField]
  simp only [if_neg hCount, hSnapshots, Bool.not_true, Bool.false_eq_true, if_false]
  rfl

theorem contextDrift_not_begins (hNot : ¬context.DriftBegins allocations target count) :
    (context.contextDrift allocations target count candidate).1 = context := by
  rw [contextDrift]
  cases hField : context.fields[target]? with
  | none => rfl
  | some field =>
      dsimp only
      split
      case isTrue => rfl
      case isFalse hCount =>
        split
        case isTrue => rfl
        case isFalse hSnapshots =>
          refine absurd ⟨?_, hCount, by simpa using hSnapshots⟩ hNot
          rw [hField]
          rfl

theorem driftBegins_of_ok {result : List D}
    (hRun : (context.contextDrift allocations target count candidate).2 = .ok result)
    (hCount : count ≠ 0) : context.DriftBegins allocations target count := by
  rw [contextDrift] at hRun
  cases hField : context.fields[target]? with
  | none =>
      rw [hField] at hRun
      cases hRun
  | some field =>
      rw [hField] at hRun
      dsimp only at hRun
      rw [if_neg hCount] at hRun
      split at hRun
      case isTrue => cases hRun
      case isFalse hSnapshots =>
        refine ⟨?_, hCount, by simpa using hSnapshots⟩
        rw [hField]
        rfl

/-- With the context in drift, either nothing happens or the plan is run and
everything else is only written. -/
theorem drifted_cases (field : SimField D) (context : SimContext D μ) :
    (¬context.beginDrift.DriftReaches allocations (driftPointer field) target ∧
      (context.drifted allocations target count candidate field).1 = context.beginDrift) ∨
    (context.beginDrift.DriftReaches allocations (driftPointer field) target ∧
      Probed ((context.probe target (count * driftElementSize field) candidate).ensurePlan
          allocations.prepare).1
        (context.drifted allocations target count candidate field).1) := by
  have hDrift := inDrift_beginDrift context
  rw [drifted, driftPointer, driftElementSize]
  by_cases hComplex : field.domainIsComplex = true
  · simp only [if_pos hComplex]
    by_cases hReaches : context.beginDrift.DriftReaches allocations SimField.complexData target
    · right
      refine ⟨hReaches, driftThrough_prepared hDrift hReaches fun reached => ?_⟩
      split
      · exact .refl reached
      · exact probed_storeTarget _ _ _ _
    · exact .inl ⟨hReaches, driftThrough_unreached hReaches⟩
  · simp only [if_neg hComplex]
    by_cases hReaches : context.beginDrift.DriftReaches allocations SimField.realData target
    · right
      refine ⟨hReaches, driftThrough_prepared hDrift hReaches fun reached => ?_⟩
      split
      · split
        · exact .refl reached
        · exact probed_storeTarget _ _ _ _
      · split
        · exact .refl reached
        · exact probed_storeTarget _ _ _ _
    · exact .inl ⟨hReaches, driftThrough_unreached hReaches⟩

/-- Without promotions the path only writes contents of the fields it found. -/
theorem drifted_probed (field : SimField D)
    (hSafe : context.beginDrift.DriftReaches allocations (driftPointer field) target →
      ¬context.PlanPromotes allocations.prepare) :
    Probed context.beginDrift (context.drifted allocations target count candidate field).1 := by
  rcases drifted_cases field context with ⟨-, hSame⟩ | ⟨hReaches, hProbed⟩
  · rw [hSame]
    exact .refl _
  · obtain ⟨hRuntime, hFields⟩ := ensurePlan_frame allocations.prepare
      (context.probe target (count * driftElementSize field) candidate)
    have hStored := probed_storeTarget target (count * driftElementSize field) candidate
      context.beginDrift
    have hPlan : Probed (context.probe target (count * driftElementSize field) candidate)
        ((context.probe target (count * driftElementSize field) candidate).ensurePlan
          allocations.prepare).1 := by
      rw [← planPromotes_probe _ target (count * driftElementSize field) candidate] at hSafe
      constructor
      case fields =>
        rw [hFields (hSafe hReaches)]
        exact .refl _
      all_goals rw [hRuntime]
    exact hStored.trans (hPlan.trans hProbed)

omit [CDouble D] in
theorem driftModeDepth_beginDrift (runtime : SimRuntimeState D) :
    runtime.beginDrift.driftModeDepth =
      if runtime.driftModeDepth < driftDepthLimit then runtime.driftModeDepth + 1
      else runtime.driftModeDepth := by
  rw [SimRuntimeState.beginDrift]
  split <;> rfl

theorem driftModeDepth_endDrift (runtime : SimRuntimeState D) :
    runtime.endDrift.driftModeDepth = runtime.driftModeDepth - 1 := by
  rw [SimRuntimeState.endDrift]
  split
  case isTrue =>
    dsimp only
    split <;> rfl
  case isFalse hZero => omega

/-- The path itself leaves the depth alone, also when it promotes fields. -/
theorem driftModeDepth_drifted (field : SimField D) (context : SimContext D μ) :
    (context.drifted allocations target count candidate field).1.runtime.driftModeDepth =
      context.beginDrift.runtime.driftModeDepth := by
  rcases drifted_cases field context with ⟨-, hSame⟩ | ⟨-, hProbed⟩
  · rw [hSame]
  · rw [hProbed.driftModeDepth, (ensurePlan_frame _ _).1]
    rfl

/-- A promotion shows in the element sizes afterwards. -/
theorem not_sameStorages_drifted (candidate : ℕ → D) (count : ℕ)
    (hReaches : context.beginDrift.DriftReaches allocations (driftPointer field) target)
    (hPromotes : context.PlanPromotes allocations.prepare) :
    ¬SameStorages context.fields
      (context.drifted allocations target count candidate field).1.fields := by
  have hCases := @drifted_cases D μ _ allocations target candidate count field context
  rcases hCases with ⟨hNot, -⟩ | ⟨-, hProbed⟩
  · exact absurd hReaches hNot
  · intro hSame
    have hStored := probed_storeTarget target (count * driftElementSize field) candidate
      context.beginDrift
    rw [← planPromotes_probe _ target (count * driftElementSize field) candidate] at hPromotes
    obtain ⟨i, before, promoted, hBefore, hPromoted, hSize⟩ :=
      prepareComplexFields_promoted hPromotes
    rw [ensurePlan, hPromotes.1] at hProbed
    have hPrepared := hProbed.fields.elementSizes
    simp only [Bool.false_eq_true, if_false] at hPrepared
    rw [(preparePlan_frame _ _).1, hSame.elementSizes,
      ← show _ = context.fields.map SimField.elementSize from hStored.fields.elementSizes]
      at hPrepared
    have hAt := congrArg (fun sizes => sizes[i]?) hPrepared
    simp only [List.getElem?_map] at hAt
    rw [show (context.beginDrift.storeTarget target (count * driftElementSize field)
      candidate).fields[i]? = some before from hBefore, hPromoted] at hAt
    exact hSize (Option.some.inj hAt).symm

/-! ### The derivative -/

theorem driftThrough_ok {derivative : List D}
    (hRun : (driftThrough allocations pointer target size candidate finish context).2 =
      .ok derivative) :
    (finish ((context.storeTarget target size candidate).ensurePlan
      allocations.prepare).1.executePrepared.context).2 = .ok derivative := by
  rw [driftThrough] at hRun
  split at hRun
  case isTrue => cases hRun
  case isFalse =>
    split at hRun
    case isTrue => cases hRun
    case isFalse =>
      cases hPrepared : (context.storeTarget target size candidate).ensurePlan
          allocations.prepare with
      | mk prepared result =>
          rw [hPrepared] at hRun
          cases result with
          | error failure => cases hRun
          | ok code =>
              dsimp only at hRun ⊢
              cases hResult : prepared.executePrepared.result with
              | error failure =>
                  rw [hResult] at hRun
                  dsimp only at hRun
                  split at hRun <;> cases hRun
              | ok code =>
                  rw [hResult] at hRun
                  exact hRun

/-- The context after the plan has run on the pre-call fields with the target
replaced by the candidate. -/
def probed (prepare : ℕ → ℕ → Bool) (target count : ℕ) (candidate : ℕ → D) (field : SimField D)
    (context : SimContext D μ) : SimContext D μ :=
  ((context.probe target (count * driftElementSize field) candidate).ensurePlan
    prepare).1.executePrepared.context

/-- The lanes of a state: two for each complex element, and the real parts when
a real target is stored as complex. -/
def stateLane (field updated : SimField D) (data : FieldData D) (k : ℕ) : D :=
  if !field.domainIsComplex && updated.storageIsComplex then data.lane (2 * k) else data.lane k

/-- The derivative is the difference between the target after the plan and the
candidate, over the timestep. -/
def DriftDerivative (prepare : ℕ → ℕ → Bool) (target count : ℕ) (candidate : ℕ → D)
    (context : SimContext D μ) (result : List D) : Prop :=
  ∃ field updated data, context.fields[target]? = some field ∧
    (context.probed prepare target count candidate field).fields[target]? = some updated ∧
    updated.data = some data ∧
    result = derivative context.driftTimestep
      (if field.domainIsComplex then 2 * count else count) (stateLane field updated data) candidate

omit [CDouble D] in
theorem complexData_some {data : FieldData D} (hData : field.complexData = some data) :
    field.data = some data := by
  rw [complexData] at hData
  split at hData
  case isTrue => cases hData
  case isFalse => exact hData

omit [CDouble D] in
theorem realData_some {data : FieldData D} (hData : field.realData = some data) :
    field.data = some data := by
  rw [realData] at hData
  split at hData
  case isTrue => cases hData
  case isFalse =>
    split at hData
    case isTrue => cases hData
    case isFalse => exact hData

omit [CDouble D] in
theorem targetData_some {data : FieldData D} (hData : context.targetData pointer target = some data) :
    ∃ updated, context.fields[target]? = some updated ∧ pointer updated = some data :=
  Option.bind_eq_some_iff.mp hData

theorem driftDerivative_drifted (hField : context.fields[target]? = some field) {result : List D}
    (hRun : (context.drifted allocations target count candidate field).2 = .ok result) :
    context.DriftDerivative allocations.prepare target count candidate result := by
  rw [drifted] at hRun
  by_cases hComplex : field.domainIsComplex = true
  · rw [if_pos hComplex] at hRun
    have hFinish := driftThrough_ok hRun
    have hProbed : ((context.beginDrift.storeTarget target (count * 16) candidate).ensurePlan
        allocations.prepare).1.executePrepared.context =
        context.probed allocations.prepare target count candidate field := by
      rw [probed, driftElementSize, if_pos hComplex]
      rfl
    rw [hProbed] at hFinish
    split at hFinish
    case h_1 => cases hFinish
    case h_2 data hData =>
      obtain ⟨updated, hUpdated, hPointer⟩ := targetData_some hData
      refine ⟨field, updated, data, hField, hUpdated, complexData_some hPointer, ?_⟩
      have hLane : stateLane field updated data = data.lane := by
        funext k
        simp [stateLane, hComplex]
      rw [if_pos hComplex, hLane]
      exact (Except.ok.inj hFinish).symm
  · rw [if_neg hComplex] at hRun
    have hFinish := driftThrough_ok hRun
    have hProbed : ((context.beginDrift.storeTarget target (count * 8) candidate).ensurePlan
        allocations.prepare).1.executePrepared.context =
        context.probed allocations.prepare target count candidate field := by
      rw [probed, driftElementSize, if_neg hComplex]
      rfl
    rw [hProbed] at hFinish
    split at hFinish
    case isTrue hStorage =>
      split at hFinish
      case h_1 => cases hFinish
      case h_2 data hData =>
        obtain ⟨updated, hUpdated, hPointer⟩ := targetData_some hData
        refine ⟨field, updated, data, hField, hUpdated, complexData_some hPointer, ?_⟩
        rw [hUpdated, Option.any_some] at hStorage
        have hLane : stateLane field updated data = fun k => data.lane (2 * k) := by
          funext k
          simp [stateLane, hComplex, hStorage]
        rw [if_neg hComplex, hLane]
        exact (Except.ok.inj hFinish).symm
    case isFalse hStorage =>
      split at hFinish
      case h_1 => cases hFinish
      case h_2 data hData =>
        obtain ⟨updated, hUpdated, hPointer⟩ := targetData_some hData
        refine ⟨field, updated, data, hField, hUpdated, realData_some hPointer, ?_⟩
        rw [hUpdated, Option.any_some] at hStorage
        have hLane : stateLane field updated data = data.lane := by
          funext k
          simp [stateLane, hStorage]
        rw [if_neg hComplex, hLane]
        exact (Except.ok.inj hFinish).symm

/-! ### The probe -/

/-- A drift evaluation is a probe: element types and contents of all fields and
the drift depth are as before, and a derivative is that of the candidate. -/
structure DriftPure (allocations : DriftAllocations) (target count : ℕ) (candidate : ℕ → D)
    (context : SimContext D μ) : Prop where
  fields : FieldsKept context.fields
    (context.contextDrift allocations target count candidate).1.fields
  depth : (context.contextDrift allocations target count candidate).1.runtime.driftModeDepth =
    context.runtime.driftModeDepth
  derivative : ∀ result, (context.contextDrift allocations target count candidate).2 = .ok result →
    count ≠ 0 → context.DriftDerivative allocations.prepare target count candidate result

/-- A call which begins drift finds the depth below its limit, and one which
reaches the plan promotes no field. -/
def DriftSafe (allocations : DriftAllocations) (target count : ℕ) (context : SimContext D μ) : Prop :=
  context.DriftBegins allocations target count →
    context.runtime.driftModeDepth < driftDepthLimit ∧
    ∀ field, context.fields[target]? = some field →
      context.DriftReaches allocations (driftPointer field) target →
        ¬context.PlanPromotes allocations.prepare

/-- A drift evaluation is a probe exactly when it is safe. -/
theorem contextDrift_pure_iff (allocations : DriftAllocations) (target count : ℕ)
    (candidate : ℕ → D) (context : SimContext D μ) :
    context.DriftPure allocations target count candidate ↔
      context.DriftSafe allocations target count := by
  by_cases hBegins : context.DriftBegins allocations target count
  · obtain ⟨field, hField⟩ := Option.isSome_iff_exists.mp hBegins.1
    have hEq := @contextDrift_begins D μ _ context allocations target candidate count field hField
      hBegins
    have hDepth : (context.contextDrift allocations target count
        candidate).1.runtime.driftModeDepth = context.runtime.driftModeDepth ↔
          context.runtime.driftModeDepth < driftDepthLimit := by
      rw [hEq]
      show (SimRuntimeState.endDrift _).driftModeDepth = _ ↔ _
      rw [driftModeDepth_endDrift]
      show (context.drifted allocations target count candidate field).1.runtime.driftModeDepth - 1 =
        _ ↔ _
      rw [driftModeDepth_drifted]
      show context.runtime.beginDrift.driftModeDepth - 1 = _ ↔ _
      rw [driftModeDepth_beginDrift]
      have hPositive : 0 < driftDepthLimit := by decide
      split <;> omega
    have hFields : (context.contextDrift allocations target count candidate).1.fields =
        restoreSnapshots (context.fields.map SimField.snapshot)
          (context.drifted allocations target count candidate field).1.fields := by
      rw [hEq]
      rfl
    constructor
    · intro hPure _
      refine ⟨hDepth.mp hPure.depth, fun other hOther hReaches hPromotes => ?_⟩
      rw [hField] at hOther
      cases hOther
      have hKept := hPure.fields
      rw [hFields] at hKept
      have hRestored := sameStorages_restoreSnapshots (context.fields.map SimField.snapshot)
        (context.drifted allocations target count candidate field).1.fields
      exact not_sameStorages_drifted candidate count hReaches hPromotes
        (hKept.sameStorages.trans hRestored.symm)
    · intro hSafe
      obtain ⟨hLimit, hPromotes⟩ := hSafe hBegins
      constructor
      case fields =>
        rw [hFields]
        exact fieldsKept_restoreSnapshots (drifted_probed field (hPromotes field hField)).fields
      case depth => exact hDepth.mpr hLimit
      case derivative =>
        intro result hRun _
        rw [hEq] at hRun
        exact driftDerivative_drifted hField hRun
  · have hSame := @contextDrift_not_begins D μ _ context allocations target candidate count hBegins
    constructor
    · intro _ hHere
      exact absurd hHere hBegins
    · intro _
      constructor
      case fields =>
        rw [hSame]
        exact .refl _
      case depth => rw [hSame]
      case derivative =>
        intro result hRun hCount
        exact absurd (driftBegins_of_ok hRun hCount) hBegins

/-- A field marked complex with real storage, the target of the drift
evaluation, and no valid plan. -/
def markedComplex : SimContext ℤ Unit :=
  { SimContext.init ⟨0, 0, 0, 0, 0⟩ () with
    fields :=
      [{ SimField.ofElementSize ⟨[2], [1], true⟩ 8 (.lanes fun _ => 3) with complexMode := true },
        .ofElementSize ⟨[2], [1], true⟩ 8 (.lanes fun _ => 5)]
    bytesFieldsInUse := 32
    bytesTotalInUse := 32 }

def grantedDrift : DriftAllocations := ⟨true, fun _ => true, true, fun _ _ => true⟩

/-- The evaluation succeeds, and leaves the elements `3` and `3` of field 0 as
the complex elements `3 + 3i` and `3`. -/
theorem markedComplex_notPure :
    (markedComplex.contextDrift grantedDrift 1 2 fun _ => 7).2 = .ok [0, 0] ∧
      (markedComplex.contextDrift grantedDrift 1 2 fun _ => 7).1.fields.map SimField.elementSize =
        [16, 8] ∧
      ((markedComplex.contextDrift grantedDrift 1 2 fun _ => 7).1.fields.head?.bind
        SimField.complexData).map (fun data => (List.range 4).map data.lane) =
        some [3, 3, 3, 0] ∧
      ¬markedComplex.DriftPure grantedDrift 1 2 fun _ => 7 := by
  refine ⟨by decide, by decide, by decide, fun hPure => ?_⟩
  have hSizes := hPure.fields.sameStorages.elementSizes
  exact absurd hSizes (by decide)

end SimContext

end Oakfield
