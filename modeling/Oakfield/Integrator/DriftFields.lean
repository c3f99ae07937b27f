import Oakfield.Context.DriftFrame
import Oakfield.Integrator.Drift
import Mathlib.Data.List.Forall2

/-! Snapshots of all fields restore their contents, whatever callbacks write. -/
namespace Oakfield

variable {D μ : Type} {field later : SimField D}

/-! ### Storage and contents -/

namespace SimField

/-- The fields have the same element type and size. -/
structure SameStorage (field later : SimField D) : Prop where
  initialized : later.initialized = field.initialized
  shape : later.shape = field.shape
  elementSize : later.elementSize = field.elementSize
  scalarDomain : later.scalarDomain = field.scalarDomain
  allocated : later.data.isSome = field.data.isSome

/-- The data of a field which has any bytes. -/
def contents (field : SimField D) : Option (FieldData D) :=
  if field.bytes = 0 then none else field.buffer

/-- The fields have the same element type and contents. -/
structure SameContents (field later : SimField D) : Prop where
  storage : SameStorage field later
  contents : later.contents = field.contents

theorem SameStorage.refl (field : SimField D) : SameStorage field field := ⟨rfl, rfl, rfl, rfl, rfl⟩

theorem SameStorage.trans {middle : SimField D} (hFirst : SameStorage field middle)
    (hSecond : SameStorage middle later) : SameStorage field later := by
  constructor
  case initialized => exact hSecond.initialized.trans hFirst.initialized
  case shape => exact hSecond.shape.trans hFirst.shape
  case elementSize => exact hSecond.elementSize.trans hFirst.elementSize
  case scalarDomain => exact hSecond.scalarDomain.trans hFirst.scalarDomain
  case allocated => exact hSecond.allocated.trans hFirst.allocated

theorem SameStorage.symm (hSame : SameStorage field later) : SameStorage later field :=
  ⟨hSame.initialized.symm, hSame.shape.symm, hSame.elementSize.symm, hSame.scalarDomain.symm,
    hSame.allocated.symm⟩

theorem SameStorage.bytes (hSame : SameStorage field later) : later.bytes = field.bytes := by
  rw [SimField.bytes, hSame.initialized, hSame.shape, hSame.elementSize, SimField.bytes]

theorem SameContents.refl (field : SimField D) : SameContents field field := ⟨.refl field, rfl⟩

theorem SameContents.trans {middle : SimField D} (hFirst : SameContents field middle)
    (hSecond : SameContents middle later) : SameContents field later :=
  ⟨hFirst.storage.trans hSecond.storage, hSecond.contents.trans hFirst.contents⟩

theorem sameStorage_write (write : FieldWrite D) (field : SimField D) :
    SameStorage field (field.write write) := by
  constructor
  case allocated =>
    rw [SimField.write]
    exact Option.isSome_map
  all_goals rfl

variable [CDouble D]

theorem sameStorage_store (size : ℕ) (source : FieldData D) (field : SimField D) :
    SameStorage field (field.store size source) := by
  constructor
  case allocated =>
    rw [store]
    exact Option.isSome_map
  all_goals rfl

theorem sameStorage_restore (snapshot : DriftSnapshot D) (field : SimField D) :
    SameStorage field (field.restore snapshot) := by
  cases snapshot with
  | none => exact .refl field
  | some saved =>
      rw [restore]
      split
      · exact sameStorage_store _ _ field
      · exact .refl field

/-- A snapshot of the whole field restores its contents. -/
theorem sameContents_restore (hSame : SameStorage field later) :
    SameContents field (later.restore field.snapshot) := by
  have hBytes := hSame.bytes
  rw [snapshot, buffer]
  cases hInit : field.initialized with
  | false =>
      constructor
      · exact hSame
      · have hZero : field.bytes = 0 := by simp [SimField.bytes, hInit]
        show later.contents = field.contents
        rw [contents, contents, hBytes, if_pos hZero, if_pos hZero]
  | true =>
      cases hData : field.data with
      | none =>
          have hLater : later.data = none := by
            have hNone := hSame.allocated
            rwa [hData, Option.isSome_none, Option.isSome_eq_false_iff,
              Option.isNone_iff_eq_none] at hNone
          constructor
          · exact hSame
          · show later.contents = field.contents
            simp [contents, hBytes, buffer, hData, hLater]
      | some data =>
          by_cases hSize : 0 < field.bytes
          · obtain ⟨now, hNow⟩ : ∃ now, later.data = some now := by
              have hSome := hSame.allocated
              rw [hData, Option.isSome_some] at hSome
              exact Option.isSome_iff_exists.mp hSome
            have hRestored : later.restore (some (field.bytes, data)) =
                later.store field.bytes data := by
              simp [restore, hSame.initialized, hInit]
            have hStored := sameStorage_store field.bytes data later
            simp only [Bool.not_true, Bool.false_eq_true, if_false, if_pos hSize]
            rw [hRestored]
            constructor
            · exact hSame.trans hStored
            · rw [contents, contents, hStored.bytes, hBytes, buffer, buffer, hStored.initialized,
                hSame.initialized, hInit, hData]
              simp [store, hNow, hBytes]
          · have hZero : field.bytes = 0 := by omega
            simp only [Bool.not_true, Bool.false_eq_true, if_false, if_neg hSize]
            constructor
            · exact hSame
            · show later.contents = field.contents
              rw [contents, contents, hBytes, if_pos hZero, if_pos hZero]

end SimField

open SimField

/-- The fields of two lists have the same storage. -/
abbrev SameStorages (fields later : List (SimField D)) : Prop := List.Forall₂ SameStorage fields later

/-- The fields of two lists have the same element type and contents. -/
abbrev FieldsKept (fields later : List (SimField D)) : Prop := List.Forall₂ SameContents fields later

theorem sameStorages_of_getElem? {fields later : List (SimField D)}
    (hLength : later.length = fields.length) (hEach : ∀ (i : ℕ) field after,
      fields[i]? = some field → later[i]? = some after → SameStorage field after) :
    SameStorages fields later := by
  rw [SameStorages, List.forall₂_iff_get]
  refine ⟨hLength.symm, fun i hI hLater => ?_⟩
  exact hEach i _ _ (List.getElem?_eq_getElem hI) (List.getElem?_eq_getElem hLater)

theorem SameStorages.refl (fields : List (SimField D)) : SameStorages fields fields :=
  List.forall₂_same.mpr fun field _ => .refl field

theorem SameStorages.trans {fields middle later : List (SimField D)}
    (hFirst : SameStorages fields middle) (hSecond : SameStorages middle later) :
    SameStorages fields later := by
  induction hFirst generalizing later with
  | nil => exact hSecond
  | cons hHead hTail ih =>
      cases hSecond with
      | cons hNext hRest => exact .cons (hHead.trans hNext) (ih hRest)

theorem SameStorages.symm {fields later : List (SimField D)} (hSame : SameStorages fields later) :
    SameStorages later fields := by
  induction hSame with
  | nil => exact .nil
  | cons hHead hTail ih => exact .cons hHead.symm ih

theorem SameStorages.elementSizes {fields later : List (SimField D)}
    (hSame : SameStorages fields later) :
    later.map SimField.elementSize = fields.map SimField.elementSize := by
  induction hSame with
  | nil => rfl
  | cons hHead hTail ih => rw [List.map_cons, List.map_cons, ih, hHead.elementSize]

theorem FieldsKept.sameStorages {fields later : List (SimField D)} (hKept : FieldsKept fields later) :
    SameStorages fields later := by
  induction hKept with
  | nil => exact .nil
  | cons hHead hTail ih => exact .cons hHead.storage ih

theorem FieldsKept.contents {fields later : List (SimField D)} (hKept : FieldsKept fields later) :
    later.map SimField.contents = fields.map SimField.contents := by
  induction hKept with
  | nil => rfl
  | cons hHead hTail ih => rw [List.map_cons, List.map_cons, ih, hHead.contents]

theorem FieldsKept.refl (fields : List (SimField D)) : FieldsKept fields fields :=
  List.forall₂_same.mpr fun field _ => .refl field

theorem FieldsKept.trans {fields middle later : List (SimField D)}
    (hFirst : FieldsKept fields middle) (hSecond : FieldsKept middle later) :
    FieldsKept fields later := by
  induction hFirst generalizing later with
  | nil => exact hSecond
  | cons hHead hTail ih =>
      cases hSecond with
      | cons hNext hRest => exact .cons (hHead.trans hNext) (ih hRest)

theorem sameStorages_writeFields (writes : ℕ → Option (FieldWrite D)) (fields : List (SimField D)) :
    SameStorages fields (writeFields writes fields) := by
  apply sameStorages_of_getElem?
  · simp [writeFields]
  · intro i field after hField hAfter
    rw [writeFields, List.getElem?_mapIdx, hField] at hAfter
    cases hAfter
    cases writes i with
    | none => exact .refl field
    | some write => exact sameStorage_write write field

variable [CDouble D]

/-- Restoring the snapshots of all fields restores their contents. -/
theorem fieldsKept_restoreSnapshots {fields later : List (SimField D)}
    (hSame : SameStorages fields later) :
    FieldsKept fields (restoreSnapshots (fields.map SimField.snapshot) later) := by
  induction hSame with
  | nil => exact .nil
  | cons hHead hTail ih => exact .cons (sameContents_restore hHead) ih

theorem sameStorages_restoreSnapshots (snapshots : List (DriftSnapshot D))
    (fields : List (SimField D)) : SameStorages fields (restoreSnapshots snapshots fields) := by
  induction fields generalizing snapshots with
  | nil => cases snapshots <;> exact .nil
  | cons field fields ih =>
      cases snapshots with
      | nil => exact .refl _
      | cons snapshot snapshots =>
          exact .cons (sameStorage_restore snapshot field) (ih snapshots)

/-! ### Contexts -/

namespace SimContext

variable {context reached start : SimContext D μ}

omit [CDouble D] in
/-- Fields keep their storage, and the runtime keeps timestep, time and drift
mode. -/
structure Probed (context reached : SimContext D μ) : Prop where
  fields : SameStorages context.fields reached.fields
  dt : reached.runtime.dt = context.runtime.dt
  timeAccumulated : reached.runtime.timeAccumulated = context.runtime.timeAccumulated
  driftModeDepth : reached.runtime.driftModeDepth = context.runtime.driftModeDepth
  driftTimeOverride : reached.runtime.driftTimeOverride = context.runtime.driftTimeOverride
  driftTimeOverrideActive :
    reached.runtime.driftTimeOverrideActive = context.runtime.driftTimeOverrideActive

omit [CDouble D] in
theorem Probed.refl (context : SimContext D μ) : Probed context context :=
  ⟨.refl _, rfl, rfl, rfl, rfl, rfl⟩

omit [CDouble D] in
theorem Probed.trans {middle : SimContext D μ} (hFirst : Probed context middle)
    (hSecond : Probed middle reached) : Probed context reached := by
  constructor
  case fields => exact hFirst.fields.trans hSecond.fields
  case dt => exact hSecond.dt.trans hFirst.dt
  case timeAccumulated => exact hSecond.timeAccumulated.trans hFirst.timeAccumulated
  case driftModeDepth => exact hSecond.driftModeDepth.trans hFirst.driftModeDepth
  case driftTimeOverride => exact hSecond.driftTimeOverride.trans hFirst.driftTimeOverride
  case driftTimeOverrideActive =>
    exact hSecond.driftTimeOverrideActive.trans hFirst.driftTimeOverrideActive

omit [CDouble D] in
theorem Probed.inDrift (hProbed : Probed context reached) : reached.inDrift = context.inDrift := by
  rw [SimContext.inDrift, hProbed.driftModeDepth, SimContext.inDrift]

omit [CDouble D] in
theorem Wrote.probed (hWrote : Wrote context reached) : Probed context reached := by
  obtain ⟨writes, memory, rfl⟩ := hWrote
  exact ⟨sameStorages_writeFields writes context.fields, rfl, rfl, rfl, rfl, rfl⟩

theorem probed_storeTarget (target size : ℕ) (lanes : ℕ → D) (context : SimContext D μ) :
    Probed context (context.storeTarget target size lanes) := by
  constructor
  case fields =>
    apply sameStorages_of_getElem?
    · simp [storeTarget]
    · intro i field after hField hAfter
      rw [storeTarget, List.getElem?_modify, hField] at hAfter
      cases hAfter
      split
      · exact sameStorage_store size (.lanes lanes) field
      · exact .refl field
  all_goals rfl

theorem probed_executePrepared (hDrift : context.inDrift = true) :
    Probed context context.executePrepared.context := by
  cases hValid : context.planValid with
  | false =>
      rw [executePrepared, hValid]
      exact .refl context
  | true =>
      rw [executePrepared_valid hValid]
      have hReset : context.resetContinuityCounters.inDrift = true := hDrift
      have hRun := (runPlan_wrote hReset context.plan).probed
      exact ⟨hRun.fields, hRun.dt, hRun.timeAccumulated, hRun.driftModeDepth,
        hRun.driftTimeOverride, hRun.driftTimeOverrideActive⟩

end SimContext

end Oakfield
