import Oakfield.Context.FieldArrays
import Oakfield.KernelIR.ExactDouble

/-! Growth of the arrays of a context, over runs in which fields are added. -/
namespace Oakfield

open KernelIR ContinuityArray

/-! ### The doubling loop -/

theorem doubledCapacity_some {required : ℕ} (hRequired : required ≤ 2 ^ 63) :
    ∀ fuel capacity, 0 < capacity → required ≤ capacity * 2 ^ fuel →
      ∃ grown, doubledCapacity (fuel + 1) capacity required = some grown ∧ required ≤ grown ∧
        capacity ≤ grown := by
  intro fuel
  induction fuel with
  | zero =>
      intro capacity _ hEnough
      rw [doubledCapacity, if_neg (by omega)]
      exact ⟨capacity, rfl, by omega, Nat.le_refl _⟩
  | succ fuel ih =>
      intro capacity hPos hEnough
      rw [doubledCapacity]
      by_cases hLess : capacity < required
      · rw [if_pos hLess, Nat.mod_eq_of_lt (by omega)]
        obtain ⟨grown, hGrown, hLarge, hLe⟩ := ih (capacity * 2) (by omega)
          (by rwa [Nat.mul_assoc, ← Nat.pow_succ'])
        exact ⟨grown, hGrown, hLarge, by omega⟩
      · rw [if_neg hLess]
        exact ⟨capacity, rfl, by omega, Nat.le_refl _⟩

theorem grownCapacity_some {required : ℕ} (hRequired : required ≤ 2 ^ 63) (capacity : ℕ) :
    ∃ grown, grownCapacity capacity required = some grown ∧ required ≤ grown ∧
      capacity ≤ grown := by
  have hPos : 0 < (if capacity = 0 then 4 else capacity) := by split <;> omega
  have hEnough : required ≤ (if capacity = 0 then 4 else capacity) * 2 ^ 64 := by
    calc
      required ≤ 1 * 2 ^ 64 := by omega
      _ ≤ _ := Nat.mul_le_mul_right _ hPos
  obtain ⟨grown, hGrown, hLarge, hLe⟩ := doubledCapacity_some hRequired 64 _ hPos hEnough
  refine ⟨grown, hGrown, hLarge, ?_⟩
  split at hLe <;> omega

namespace ContinuityState

variable {R : RuntimeRecords} {D : Type} [CDouble D] {grants : ContinuityArray → Bool}
  {required : ℕ} {state : ContinuityState R D}

theorem mem_allArrays (a : ContinuityArray) : a ∈ allArrays := by
  cases a <;> decide

/-- Every array is there and as long as the capacity says. -/
def Usable (state : ContinuityState R D) : Prop :=
  0 < state.continuityCapacity →
    ∀ a, ∃ array, state.arrays a = some array ∧ array.slots = state.continuityCapacity

/-- Where all arrays are granted they have the new capacity, and its bytes can be counted. -/
theorem allocate_some {capacity : ℕ}
    (hGranted : ¬allArrays.any fun a => (allocate R grants capacity a).isNone) :
    capacity * 8 < 2 ^ 64 ∧ ∀ a, allocate R grants capacity a = some capacity := by
  have hSome : ∀ a, (allocate R grants capacity a).isNone = false := by
    intro a
    by_contra hNone
    refine hGranted (List.any_eq_true.mpr ⟨a, mem_allArrays a, ?_⟩)
    simpa using hNone
  have hBytes : capacity * 8 < 2 ^ 64 := by
    by_contra hLarge
    have hFirst := hSome .fieldDirtyCounts
    rw [allocate, if_neg (by decide), if_neg fun hBoth => hLarge hBoth.1] at hFirst
    exact absurd hFirst (by decide)
  refine ⟨hBytes, fun a => ?_⟩
  have hHere := hSome a
  unfold allocate at hHere ⊢
  by_cases hStep : a.isStepIndex = true
  · rw [if_pos hStep] at hHere ⊢
    by_cases hGrant : grants a = true
    · rw [if_pos hGrant, Nat.mod_eq_of_lt hBytes, Nat.mul_div_cancel _ (by decide)]
    · rw [if_neg hGrant] at hHere
      exact absurd hHere (by decide)
  · rw [if_neg hStep] at hHere ⊢
    by_cases hGrant : capacity * a.elemSize R < 2 ^ 64 ∧ grants a = true
    · rw [if_pos hGrant]
    · rw [if_neg hGrant] at hHere
      exact absurd hHere (by decide)

/-- The arrays after they have grown: as long as the capacity, with the old entries, apart from the
flags of the drift statistics, and with fresh ones behind them. -/
structure Grown (before after : ContinuityState R D) : Prop where
  usable : after.Usable
  capacity : before.continuityCapacity ≤ after.continuityCapacity
  small : after.continuityCapacity * 8 < 2 ^ 64
  kept : ∀ a ≠ .driftFieldStatsValid, ∀ i < before.continuityCapacity,
    ∀ old new, before.arrays a = some old → after.arrays a = some new → new.entry i = old.entry i
  fresh : ∀ a i, before.continuityCapacity ≤ i → i < after.continuityCapacity →
    ∀ new, after.arrays a = some new → new.entry i = a.fresh R D
  invalid : ∀ i < after.continuityCapacity, ∀ new,
    after.arrays .driftFieldStatsValid = some new → new.entry i = (false : Bool)

theorem copied_old {a : ContinuityArray} {i : ℕ} (hOld : i < state.continuityCapacity)
    {old : FieldArray (a.Elem R D)} (hArray : state.arrays a = some old) :
    state.copied a i = old.entry i := by
  unfold copied
  rw [hArray]
  exact if_pos hOld

theorem copied_new {a : ContinuityArray} {i : ℕ} (hNew : state.continuityCapacity ≤ i) :
    state.copied a i = a.fresh R D := by
  unfold copied
  split
  · rfl
  · exact if_neg (Nat.not_lt.mpr hNew)

omit [CDouble D] in
theorem cleared_other {a : ContinuityArray} (hOther : a ≠ .driftFieldStatsValid) (capacity : ℕ)
    (entry : ℕ → a.Elem R D) : cleared capacity a entry = entry := by
  cases a <;> first | rfl | exact absurd rfl hOther

theorem cleared_fresh (a : ContinuityArray) (capacity : ℕ) {entry : ℕ → a.Elem R D} {i : ℕ}
    (hFresh : entry i = a.fresh R D) : cleared capacity a entry i = a.fresh R D := by
  by_cases hFlags : a = .driftFieldStatsValid
  · subst hFlags
    by_cases hInside : i < capacity
    · exact if_pos hInside
    · exact (if_neg hInside).trans hFresh
  · rw [cleared_other hFlags]
    exact hFresh

/-- A call with a capacity that a doubling can reach returns: the arrays are large enough and
unchanged or grown, or the heap refused one of the arrays and nothing has changed. -/
theorem ensure_spec (grants : ContinuityArray → Bool) {required : ℕ} (hRequired : required ≤ 2 ^ 63)
    (state : ContinuityState R D) :
    ∃ after result, state.ensureContinuityCapacity grants required = some (after, result) ∧
      (result = .ok () ∧ required ≤ after.continuityCapacity ∧
          (after = state ∨ state.continuityCapacity < required ∧ Grown state after) ∨
        result = .error .outOfMemory ∧ after = state) ∧
      (state.continuityCapacity < required → (∃ a, grants a = false) →
        result = .error .outOfMemory) := by
  unfold ensureContinuityCapacity
  by_cases hEnough : required = 0 ∨ required ≤ state.continuityCapacity
  · rw [if_pos hEnough]
    exact ⟨state, .ok (), rfl, .inl ⟨rfl, by omega, .inl rfl⟩, fun hLess _ => by omega⟩
  rw [if_neg hEnough]
  obtain ⟨capacity, hGrown, hLarge, hLe⟩ := grownCapacity_some hRequired state.continuityCapacity
  rw [hGrown]
  dsimp only
  by_cases hRefused : (allArrays.any fun a => (allocate R grants capacity a).isNone) = true
  · rw [if_pos hRefused]
    exact ⟨state, .error .outOfMemory, rfl, .inr ⟨rfl, rfl⟩, fun _ _ => rfl⟩
  rw [if_neg hRefused]
  obtain ⟨hBytes, hSome⟩ := allocate_some hRefused
  have hArrays : ∀ a, (allocate R grants capacity a).map (fun slots =>
      (⟨slots, cleared capacity a (state.copied a)⟩ : FieldArray (a.Elem R D))) =
      some ⟨capacity, cleared capacity a (state.copied a)⟩ := by
    intro a
    rw [hSome]
    rfl
  refine ⟨_, .ok (), rfl, .inl ⟨rfl, hLarge, .inr ⟨by omega, ?_⟩⟩, fun _ hSomeRefused => ?_⟩
  · exact {
      usable := fun _ a => ⟨_, hArrays a, rfl⟩
      capacity := hLe
      small := hBytes
      kept := fun a hOther i hOld old new hBefore hAfter => by
        obtain rfl := Option.some.inj ((hArrays a).symm.trans hAfter)
        dsimp only
        rw [cleared_other hOther, copied_old hOld hBefore]
      fresh := fun a i hNew _ new hAfter => by
        obtain rfl := Option.some.inj ((hArrays a).symm.trans hAfter)
        exact cleared_fresh a capacity (copied_new hNew)
      invalid := fun i hi new hAfter => by
        obtain rfl := Option.some.inj ((hArrays .driftFieldStatsValid).symm.trans hAfter)
        exact if_pos hi }
  · obtain ⟨a, hNo⟩ := hSomeRefused
    have hGranted := hSome a
    unfold allocate at hGranted
    simp [hNo] at hGranted

end ContinuityState

/-! ### The fields of the world -/

/-- The fields fit into their arrays, and the bytes of these can be counted. -/
structure FieldStore.Sound (R : RuntimeRecords) (world : FieldStore) : Prop where
  count : world.fieldCount ≤ world.fieldCapacity
  fields : world.fieldCapacity ≤ world.fieldSlots
  overrides : world.fieldCapacity ≤ world.overrideSlots
  fieldBytes : world.fieldCapacity * R.fieldSize < 2 ^ 63
  overrideBytes : world.fieldCapacity * R.overrideSize < 2 ^ 63

theorem reallocLength_some {granted : Bool} {count size slots : ℕ} (hSize : 0 < size)
    (hBytes : count * size < 2 ^ 64) (hSlots : reallocLength granted count size = some slots) :
    slots = count ∧ count * size < 2 ^ 63 := by
  unfold reallocLength at hSlots
  dsimp only at hSlots
  rw [Nat.mod_eq_of_lt hBytes] at hSlots
  by_cases hGranted : count * size < 2 ^ 63 ∧ granted = true
  · rw [if_pos hGranted, Nat.mul_div_cancel _ hSize] at hSlots
    exact ⟨(Option.some.inj hSlots).symm, hGranted.1⟩
  · rw [if_neg hGranted] at hSlots
    exact nomatch hSlots

/-- One more field than there is room for doubles the capacity once, or sets it to four. -/
theorem grownCapacity_next {capacity : ℕ} (hSmall : capacity < 2 ^ 63) :
    grownCapacity capacity (capacity + 1) = some (if capacity = 0 then 4 else capacity * 2) := by
  unfold grownCapacity
  by_cases hNone : capacity = 0
  · rw [if_pos hNone, if_pos hNone, hNone, doubledCapacity, if_neg (by decide)]
  · rw [if_neg hNone, if_neg hNone, doubledCapacity, if_pos (Nat.lt_succ_self _),
      Nat.mod_eq_of_lt (by omega), doubledCapacity, if_neg (by omega)]

theorem reserveFields_spec {R : RuntimeRecords} {world : FieldStore} (hSound : world.Sound R)
    (granted : Bool × Bool) :
    ∃ after result, world.reserveFields R granted 1 = some (after, result) ∧ after.Sound R ∧
      after.fieldCount = world.fieldCount ∧
      (result = .ok () → after.fieldCount < after.fieldCapacity) := by
  have hFieldSize := R.fieldSize_pos
  have hOverrideSize := R.overrideSize_pos
  have hCapacity : world.fieldCapacity < 2 ^ 63 :=
    (Nat.le_mul_of_pos_right _ hFieldSize).trans_lt hSound.fieldBytes
  have hCount := hSound.count
  unfold FieldStore.reserveFields
  dsimp only
  rw [if_neg (by decide), Nat.mod_eq_of_lt (by omega)]
  by_cases hRoom : world.fieldCount + 1 ≤ world.fieldCapacity
  · rw [if_pos hRoom]
    exact ⟨world, .ok (), rfl, hSound, rfl, fun _ => hRoom⟩
  have hFull : world.fieldCount + 1 = world.fieldCapacity + 1 := by omega
  rw [if_neg hRoom, hFull, grownCapacity_next hCapacity]
  dsimp only
  generalize hGrown : (if world.fieldCapacity = 0 then 4 else world.fieldCapacity * 2) = capacity
  have hLess : world.fieldCapacity < capacity := by split at hGrown <;> omega
  have hBytes : ∀ size, size < 2 ^ 32 → world.fieldCapacity * size < 2 ^ 63 →
      capacity * size < 2 ^ 64 := by
    intro size hSize hBefore
    rw [← hGrown]
    split
    · omega
    · rw [Nat.mul_right_comm]
      omega
  split
  case h_1 => exact ⟨world, .error .outOfMemory, rfl, hSound, rfl, fun hOk => nomatch hOk⟩
  case h_2 fieldSlots hFields =>
    obtain ⟨rfl, hFieldBytes⟩ :=
      reallocLength_some hFieldSize (hBytes _ R.fieldSize_lt hSound.fieldBytes) hFields
    split
    case h_1 =>
      refine ⟨_, .error .outOfMemory, rfl, ?_, rfl, fun hOk => nomatch hOk⟩
      exact ⟨hCount, hLess.le, hSound.overrides, hSound.fieldBytes, hSound.overrideBytes⟩
    case h_2 overrideSlots hOverrides =>
      obtain ⟨rfl, hOverrideBytes⟩ :=
        reallocLength_some hOverrideSize (hBytes _ R.overrideSize_lt hSound.overrideBytes) hOverrides
      refine ⟨_, .ok (), rfl, ?_, rfl, fun _ => ?_⟩
      · exact ⟨hCount.trans hLess.le, Nat.le_refl _, Nat.le_refl _, hFieldBytes, hOverrideBytes⟩
      · exact hCount.trans_lt hLess

/-! ### Runs -/

namespace FieldContext

variable {R : RuntimeRecords} {D : Type}

/-- The fields fit into the arrays of the world and of the runtime. -/
structure Sound (context : FieldContext R D) : Prop where
  world : context.world.Sound R
  usable : context.runtime.Usable
  count : context.world.fieldCount ≤ context.runtime.continuityCapacity
  small : context.runtime.continuityCapacity * 8 < 2 ^ 64

theorem sound_init : (init : FieldContext R D).Sound where
  world := ⟨Nat.le_refl _, Nat.le_refl _, Nat.le_refl _, by simp [init], by simp [init]⟩
  usable hPos := absurd hPos (Nat.lt_irrefl 0)
  count := Nat.le_refl _
  small := by simp [init]

variable [CDouble D]

theorem resetEntry_usable {runtime : ContinuityState R D} (hUsable : runtime.Usable) (index : ℕ)
    (time : D) : (resetEntry index time runtime).Usable := by
  intro hPos a
  obtain ⟨array, hArray, hSlots⟩ := hUsable hPos a
  refine ⟨_, congrArg (Option.map _) hArray, ?_⟩
  split <;> exact hSlots

/-- Growing the arrays for one more field leaves them usable. -/
theorem ensure_sound {runtime : ContinuityState R D} (hUsable : runtime.Usable)
    (hSmall : runtime.continuityCapacity * 8 < 2 ^ 64) (grants : ContinuityArray → Bool)
    {required : ℕ} (hRequired : required ≤ 2 ^ 63) :
    ∃ after result, runtime.ensureContinuityCapacity grants required = some (after, result) ∧
      after.Usable ∧ after.continuityCapacity * 8 < 2 ^ 64 ∧
      runtime.continuityCapacity ≤ after.continuityCapacity ∧
      (result = .ok () → required ≤ after.continuityCapacity) := by
  obtain ⟨after, result, hRun, hOutcome, -⟩ := ContinuityState.ensure_spec grants hRequired runtime
  refine ⟨after, result, hRun, ?_⟩
  rcases hOutcome with ⟨-, hLarge, rfl | ⟨-, hGrown⟩⟩ | ⟨rfl, rfl⟩
  · exact ⟨hUsable, hSmall, Nat.le_refl _, fun _ => hLarge⟩
  · exact ⟨hGrown.usable, hGrown.small, hGrown.capacity, fun _ => hLarge⟩
  · exact ⟨hUsable, hSmall, Nat.le_refl _, fun hOk => nomatch hOk⟩

theorem addField_sound {context : FieldContext R D} (hSound : context.Sound)
    (admitted : Except SimError Unit) (granted : Bool × Bool) (grants : ContinuityArray → Bool)
    (time : D) :
    ∃ after result, context.addField admitted granted grants time = some (after, result) ∧
      after.Sound := by
  unfold addField
  cases admitted with
  | error failure => exact ⟨context, .error failure, rfl, hSound⟩
  | ok _ =>
      obtain ⟨world, reserved, hReserve, hWorld, hCount, hRoom⟩ :=
        reserveFields_spec hSound.world granted
      have hFields := hSound.count
      have hSmall := hSound.small
      rw [hReserve]
      cases reserved with
      | error failure =>
          exact ⟨_, .error failure, rfl, hWorld, hSound.usable, by rwa [hCount], hSmall⟩
      | ok _ =>
          have hNext : (world.fieldCount + 1) % 2 ^ 64 = world.fieldCount + 1 :=
            Nat.mod_eq_of_lt (by omega)
          obtain ⟨runtime, ensured, hEnsure, hUsable, hBytes, hLe, hLarge⟩ :=
            ensure_sound hSound.usable hSmall grants
              (by omega : world.fieldCount + 1 ≤ 2 ^ 63)
          dsimp only
          rw [hNext, hEnsure]
          cases ensured with
          | error failure =>
              exact ⟨_, .error failure, rfl, hWorld, hUsable, by dsimp only; omega, hBytes⟩
          | ok _ =>
              refine ⟨_, .ok (), rfl, ?_, resetEntry_usable hUsable _ _, hLarge rfl, hBytes⟩
              exact ⟨hRoom rfl, hWorld.fields, hWorld.overrides, hWorld.fieldBytes,
                hWorld.overrideBytes⟩

theorem captureDriftFieldStats_sound {context : FieldContext R D} (hSound : context.Sound)
    (grants : ContinuityArray → Bool) :
    ∃ after, context.captureDriftFieldStats grants = some after ∧ after.Sound := by
  have hCount := hSound.count
  have hSmall := hSound.small
  unfold captureDriftFieldStats
  dsimp only
  split
  · exact ⟨context, rfl, hSound⟩
  split
  · exact ⟨context, rfl, hSound⟩
  split
  · obtain ⟨runtime, ensured, hEnsure, hUsable, hBytes, hLe, -⟩ :=
      ensure_sound hSound.usable hSmall grants (by omega : context.world.fieldCount ≤ 2 ^ 63)
    rw [hEnsure]
    exact ⟨_, rfl, hSound.world, hUsable, hCount.trans hLe, hBytes⟩
  · exact ⟨context, rfl, hSound⟩

theorem call_sound {context : FieldContext R D} (hSound : context.Sound) (next : Call D) :
    ∃ after, context.call next = some after ∧ after.Sound := by
  cases next with
  | addField admitted granted grants time =>
      obtain ⟨after, result, hRun, hAfter⟩ := addField_sound hSound admitted granted grants time
      exact ⟨after, by rw [call, hRun]; rfl, hAfter⟩
  | captureDriftFieldStats grants => exact captureDriftFieldStats_sound hSound grants
  | destroy => exact ⟨init, rfl, sound_init⟩

theorem run_sound {context : FieldContext R D} (hSound : context.Sound) (calls : List (Call D)) :
    ∃ after, context.run calls = some after ∧ after.Sound := by
  induction calls generalizing context with
  | nil => exact ⟨context, rfl, hSound⟩
  | cons next calls ih =>
      obtain ⟨middle, hCall, hMiddle⟩ := call_sound hSound next
      obtain ⟨after, hRun, hAfter⟩ := ih hMiddle
      exact ⟨after, by rw [run, hCall]; exact hRun, hAfter⟩

/-- Growing the arrays of the fields keeps every entry but the flags of the drift statistics, which
it clears, or it fails and changes nothing; and in every context the fields fit into the arrays,
which are all there and as long as the capacity. -/
theorem fieldArrays_grow (R : RuntimeRecords) (D : Type) [CDouble D] :
    (∀ (grants : ContinuityArray → Bool) (required : ℕ) (state : ContinuityState R D),
      required ≤ 2 ^ 63 → state.Usable →
      ∃ after result, state.ensureContinuityCapacity grants required = some (after, result) ∧
        (result = .ok () ∧ required ≤ after.continuityCapacity ∧ after.Usable ∧
            (∀ a ≠ .driftFieldStatsValid, ∀ i < state.continuityCapacity, ∀ old new,
              state.arrays a = some old → after.arrays a = some new →
              new.entry i = old.entry i) ∧
            (∀ a i, state.continuityCapacity ≤ i → i < after.continuityCapacity → ∀ new,
              after.arrays a = some new → new.entry i = a.fresh R D) ∧
            (state.continuityCapacity < required → ∀ i < after.continuityCapacity, ∀ new,
              after.arrays .driftFieldStatsValid = some new → new.entry i = (false : Bool)) ∨
          result = .error .outOfMemory ∧ after = state) ∧
        (state.continuityCapacity < required → (∃ a, grants a = false) →
          result = .error .outOfMemory)) ∧
    ∀ calls, ∃ after, (init : FieldContext R D).run calls = some after ∧
      after.world.fieldCount ≤ after.runtime.continuityCapacity ∧ after.runtime.Usable := by
  refine ⟨fun grants required state hRequired hUsable => ?_, fun calls => ?_⟩
  · obtain ⟨after, result, hRun, hOutcome, hRefused⟩ :=
      ContinuityState.ensure_spec grants hRequired state
    refine ⟨after, result, hRun, ?_, hRefused⟩
    rcases hOutcome with ⟨hOk, hLarge, rfl | ⟨-, hGrown⟩⟩ | hFailed
    · refine .inl ⟨hOk, hLarge, hUsable, ?_, ?_, ?_⟩
      · intro a _ i _ old new hOld hNew
        obtain rfl := Option.some.inj (hOld.symm.trans hNew)
        rfl
      · exact fun a i hLow hHigh => absurd hLow (Nat.not_le.mpr hHigh)
      · exact fun hLess => absurd hLarge (Nat.not_le.mpr hLess)
    · exact .inl ⟨hOk, hLarge, hGrown.usable, hGrown.kept, hGrown.fresh, fun _ => hGrown.invalid⟩
    · exact .inr hFailed
  · obtain ⟨after, hRun, hSound⟩ := run_sound (sound_init : (init : FieldContext R D).Sound) calls
    exact ⟨after, hRun, hSound.count, hSound.usable⟩

/-- The size of a word. -/
theorem word_pos : 0 < 8 := by decide

/-- Records of one word each. -/
def wordRecords : RuntimeRecords where
  Stats := BitVec 64
  Topology := BitVec 64
  Metrics := BitVec 64
  Waveform := BitVec 64
  zeroStats := 0
  initTopology := 1
  zeroMetrics := 0
  zeroWaveform := 0
  statsSize := 8
  topologySize := 8
  metricsSize := 8
  waveformSize := 8
  fieldSize := 8
  overrideSize := 8
  fieldSize_pos := word_pos
  overrideSize_pos := word_pos
  fieldSize_lt := by decide
  overrideSize_lt := by decide

/-- Entries for four fields, with valid drift statistics. -/
def fourEntries : ContinuityState wordRecords ℚ where
  arrays
    | .driftFieldStatsValid => some ⟨4, fun _ => true⟩
    | a => some ⟨4, fun _ => a.fresh wordRecords ℚ⟩
  continuityCapacity := 4
  driftFieldStatsStepIndex := 0

theorem fourEntries_usable : fourEntries.Usable := by
  intro _ a
  cases a <;> exact ⟨_, rfl, rfl⟩

theorem fieldArrays_grow_four :
    ∃ after result, fourEntries.ensureContinuityCapacity (fun _ => true) 5 =
      some (after, result) ∧ (result = .ok () → 5 ≤ after.continuityCapacity) := by
  obtain ⟨after, result, hRun, hOutcome, -⟩ := (fieldArrays_grow wordRecords ℚ).1
    (fun _ => true) 5 fourEntries (by decide) fourEntries_usable
  refine ⟨after, result, hRun, fun hOk => ?_⟩
  rcases hOutcome with hGrown | ⟨hFailed, -⟩
  · exact hGrown.2.1
  · exact nomatch hOk.symm.trans hFailed

/-- A fifth field clears the flag of the first. -/
theorem fieldArrays_flag_cleared :
    fourEntries.Usable ∧ ∃ after old new,
      fourEntries.ensureContinuityCapacity (fun _ => true) 5 = some (after, .ok ()) ∧
        fourEntries.arrays .driftFieldStatsValid = some old ∧
        after.arrays .driftFieldStatsValid = some new ∧
        new.entry 0 = (false : Bool) ∧ old.entry 0 = (true : Bool) :=
  ⟨fourEntries_usable, _, _, _, rfl, rfl, rfl, rfl, rfl⟩

end FieldContext

end Oakfield
