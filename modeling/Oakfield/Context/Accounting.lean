import Oakfield.Context.PreparePlan
import Oakfield.Field.RepresentationInvariant
import Mathlib.Algebra.BigOperators.Group.List.Basic
import Mathlib.Algebra.GroupWithZero.Nat

/-! Memory accounting of a context: what adding a field, scratch and promotions to
complex storage keep. -/
namespace Oakfield

variable {D μ : Type} {context later : SimContext D μ}

namespace SimContext

/-! ### The invariant -/

/-- Total bytes are the sum of both parts, which fits in a `size_t`. -/
structure Balanced (context : SimContext D μ) : Prop where
  total : context.bytesTotalInUse = context.bytesFieldsInUse + context.bytesScratchInUse
  fits : context.bytesFieldsInUse + context.bytesScratchInUse ≤ sizeLimit

/-- The sum of `sim_field_bytes` over fields. -/
def bytesOf (fields : List (SimField D)) : ℕ := (fields.map SimField.bytes).sum

/-- Every configured limit holds of the fields. -/
structure WithinLimits (limits : SimContextMemoryLimits) (fields : List (SimField D)) : Prop where
  maxFields : 0 < limits.maxFields → fields.length ≤ limits.maxFields
  maxFieldElements : 0 < limits.maxFieldElements → ∀ field ∈ fields,
    SimField.elementCount field.shape ≤ limits.maxFieldElements
  maxFieldBytes : 0 < limits.maxFieldBytes → ∀ field ∈ fields, field.bytes ≤ limits.maxFieldBytes
  maxTotalFieldBytes : 0 < limits.maxTotalFieldBytes →
    bytesOf fields ≤ limits.maxTotalFieldBytes

/-- The accounting of a context under the limits it was given. -/
structure Accounted (limits : SimContextMemoryLimits) (context : SimContext D μ) : Prop where
  memoryLimits : context.memoryLimits = limits
  fields : context.bytesFieldsInUse = bytesOf context.fields
  balanced : context.Balanced
  withinLimits : WithinLimits limits context.fields

/-- Fields and counters are the same. -/
structure KeepsMemory (context later : SimContext D μ) : Prop where
  fields : later.fields = context.fields
  bytesFieldsInUse : later.bytesFieldsInUse = context.bytesFieldsInUse
  bytesScratchInUse : later.bytesScratchInUse = context.bytesScratchInUse
  bytesTotalInUse : later.bytesTotalInUse = context.bytesTotalInUse

theorem KeepsMemory.refl (context : SimContext D μ) : KeepsMemory context context :=
  ⟨rfl, rfl, rfl, rfl⟩

variable {limits : SimContextMemoryLimits}

/-- Scratch may change under an accounted context as long as the total fits. -/
theorem Accounted.scratch (hAccounted : Accounted limits context)
    (hFields : later.fields = context.fields)
    (hBytes : later.bytesFieldsInUse = context.bytesFieldsInUse)
    (hLimits : later.memoryLimits = context.memoryLimits) (hBalanced : later.Balanced) :
    Accounted limits later := by
  constructor
  case memoryLimits => rw [hLimits, hAccounted.memoryLimits]
  case fields => rw [hBytes, hFields, hAccounted.fields]
  case balanced => exact hBalanced
  case withinLimits =>
    rw [hFields]
    exact hAccounted.withinLimits

/-! ### Scratch -/

theorem Balanced.reserveScratch (hBalanced : context.Balanced) {bytes : ℕ} {code : Unit}
    (hRun : context.reserveScratch bytes = (later, .ok code)) : later.Balanced := by
  rw [SimContext.reserveScratch] at hRun
  split at hRun
  case isTrue =>
    cases hRun
    exact hBalanced
  case isFalse =>
    split at hRun
    case h_1 => cases hRun
    case h_2 newScratch hScratch =>
      split at hRun
      case h_1 => cases hRun
      case h_2 newTotal hTotal =>
        rw [simContextAddSize_some] at hScratch hTotal
        obtain ⟨rfl, -⟩ := hScratch
        obtain ⟨rfl, hFits⟩ := hTotal
        cases hRun
        exact ⟨rfl, hFits⟩

theorem reserveScratch_error {bytes : ℕ} {failure : SimError}
    (hRun : context.reserveScratch bytes = (later, .error failure)) : later = context := by
  rw [reserveScratch] at hRun
  repeat' split at hRun
  all_goals cases hRun
  all_goals rfl

theorem releaseScratch_frame (bytes : ℕ) (context : SimContext D μ) :
    (context.releaseScratch bytes).fields = context.fields ∧
      (context.releaseScratch bytes).bytesFieldsInUse = context.bytesFieldsInUse ∧
      (context.releaseScratch bytes).memoryLimits = context.memoryLimits := by
  rw [releaseScratch]
  split <;> exact ⟨rfl, rfl, rfl⟩

theorem Balanced.releaseScratch (hBalanced : context.Balanced) (bytes : ℕ) :
    (context.releaseScratch bytes).Balanced := by
  have hFits := hBalanced.fits
  rw [SimContext.releaseScratch]
  split
  case isTrue => exact hBalanced
  case isFalse =>
    dsimp only
    have hLess : context.bytesFieldsInUse + (if context.bytesScratchInUse ≤ bytes then 0
        else context.bytesScratchInUse - bytes) ≤ sizeLimit := by
      split <;> omega
    rw [simContextAddSize, if_pos hLess]
    exact ⟨rfl, hLess⟩

/-! ### Fields -/

theorem checkFieldLimits_ok {elementCount fieldBytes : ℕ}
    (hRun : context.checkFieldLimits elementCount fieldBytes = .ok ()) :
    (0 < context.memoryLimits.maxFields →
      context.fields.length < context.memoryLimits.maxFields) ∧
    (0 < context.memoryLimits.maxFieldElements →
      elementCount ≤ context.memoryLimits.maxFieldElements) ∧
    (0 < context.memoryLimits.maxFieldBytes → fieldBytes ≤ context.memoryLimits.maxFieldBytes) ∧
    (0 < context.memoryLimits.maxTotalFieldBytes →
      context.bytesFieldsInUse + fieldBytes ≤ context.memoryLimits.maxTotalFieldBytes) := by
  rw [checkFieldLimits] at hRun
  split_ifs at hRun <;> omega

theorem bytesOf_append (fields : List (SimField D)) (field : SimField D) :
    bytesOf (fields ++ [field]) = bytesOf fields + field.bytes := by
  simp [bytesOf]

/-- A field that passes the checks joins the others and the counters. -/
theorem Accounted.addField (hAccounted : Accounted limits context)
    {allocations : AddFieldAllocations} {field : SimField D} {code : Unit}
    (hRun : context.addField allocations field = (later, .ok code)) : Accounted limits later := by
  rw [SimContext.addField] at hRun
  dsimp only at hRun
  split at hRun
  case isTrue => cases hRun
  case isFalse =>
    split at hRun
    case isTrue => cases hRun
    case isFalse =>
      split at hRun
      case h_1 => cases hRun
      case h_2 hLimits =>
        split at hRun
        case h_1 => cases hRun
        case h_2 nextFields hFields =>
          split at hRun
          case h_1 => cases hRun
          case h_2 nextTotal hTotal =>
            split at hRun
            case isTrue => cases hRun
            case isFalse =>
              cases hRun
              have hBytes := hAccounted.fields
              have hWithin := hAccounted.withinLimits
              have hLimits := checkFieldLimits_ok hLimits
              rw [simContextAddSize_some] at hFields hTotal
              obtain ⟨rfl, hFieldsFit⟩ := hFields
              obtain ⟨rfl, hTotalFits⟩ := hTotal
              rw [hAccounted.memoryLimits] at hLimits
              constructor
              case memoryLimits => exact hAccounted.memoryLimits
              case fields =>
                dsimp only
                rw [bytesOf_append, hBytes]
              case balanced => exact ⟨rfl, hTotalFits⟩
              case withinLimits =>
                constructor
                case maxFields =>
                  intro hLimit
                  rw [List.length_append]
                  exact hLimits.1 hLimit
                case maxFieldElements =>
                  intro hLimit
                  rw [List.forall_mem_append]
                  exact ⟨hWithin.maxFieldElements hLimit, by simpa using hLimits.2.1 hLimit⟩
                case maxFieldBytes =>
                  intro hLimit
                  rw [List.forall_mem_append]
                  exact ⟨hWithin.maxFieldBytes hLimit, by simpa using hLimits.2.2.1 hLimit⟩
                case maxTotalFieldBytes =>
                  intro hLimit
                  rw [bytesOf_append, ← hBytes]
                  exact hLimits.2.2.2 hLimit

theorem bytesOf_set {fields : List (SimField D)} {i : ℕ} {field : SimField D}
    (hField : fields[i]? = some field) (promoted : SimField D) :
    bytesOf (fields.set i promoted) + field.bytes = bytesOf fields + promoted.bytes := by
  induction fields generalizing i with
  | nil => cases hField
  | cons head fields ih =>
      cases i with
      | zero =>
          cases hField
          simp only [bytesOf, List.set_cons_zero, List.map_cons, List.sum_cons]
          omega
      | succ i =>
          have hRest := ih hField
          simp only [bytesOf, List.set_cons_succ, List.map_cons, List.sum_cons] at hRest ⊢
          omega

variable [CDouble D]

omit [CDouble D] in
theorem promotedBytes_ok {oldBytes newBytes nextFields nextTotal : ℕ}
    (hRun : context.promotedBytes oldBytes newBytes = .ok (nextFields, nextTotal)) :
    nextFields + oldBytes = context.bytesFieldsInUse + newBytes ∧
      nextTotal = nextFields + context.bytesScratchInUse ∧ nextTotal ≤ sizeLimit ∧
      (0 < context.memoryLimits.maxTotalFieldBytes →
        nextFields ≤ context.memoryLimits.maxTotalFieldBytes) := by
  rw [promotedBytes] at hRun
  split_ifs at hRun with hOld hLimit
  split at hRun
  case h_1 => cases hRun
  case h_2 fields hFields =>
    split at hRun
    case h_1 => cases hRun
    case h_2 total hTotal =>
      rw [simContextAddSize_some] at hFields hTotal
      cases hRun
      omega

/-- The field is marked complex while its storage is real. -/
def NeedsComplex (field : SimField D) : Prop :=
  field.complexModeSet = true ∧ field.storageIsComplex = false

/-- Completed promotion of one field to complex storage. -/
structure Promoted (field promoted : SimField D) : Prop where
  converted : ∃ allocate, field.requireComplex allocate = (promoted, .ok ())
  needed : NeedsComplex field
  storage : promoted.storageIsComplex = true
  shape : promoted.shape = field.shape
  bytes : promoted.bytes = SimField.elementCount field.shape * 16

theorem promoted_of_requireComplex {field promoted : SimField D} {allocate : ℕ → Bool} {code : Unit}
    (hMode : field.complexModeSet = true) (hStorage : field.storageIsComplex = false)
    (hCount : SimField.elementCount field.shape ≠ 0)
    (hFits : SimField.elementCount field.shape ≤ sizeLimit / 16)
    (hRun : field.requireComplex allocate = (promoted, .ok code)) : Promoted field promoted := by
  have hInit : field.initialized = true := by
    rw [SimField.complexModeSet] at hMode
    cases hInit : field.initialized with
    | true => rfl
    | false => simp [hInit] at hMode
  have hSize : field.elementSize ≠ 16 := by
    rw [SimField.storageIsComplex, hInit] at hStorage
    simpa using hStorage
  obtain ⟨failure, hCase⟩ | ⟨hNothing, hCase⟩ | ⟨-, stored, hStored, hShape, -, hComplex, hCase⟩ :=
    SimField.requireComplex_cases allocate field
  · rw [hCase] at hRun
    cases hRun
  · exact absurd hNothing (by simp [hSize, hCount])
  · rw [hCase] at hRun
    cases hRun
    constructor
    case converted => exact ⟨allocate, hCase⟩
    case needed => exact ⟨hMode, hStorage⟩
    case storage =>
      show (stored.initialized && decide (stored.elementSize = 16)) = true
      rw [hStored, hInit, hComplex]
      rfl
    case shape => exact hShape
    case bytes =>
      show (if !stored.initialized then 0
        else SimField.elementCount stored.shape * stored.elementSize % 2 ^ 64) = _
      rw [hStored, hInit, hShape, hComplex]
      rw [sizeLimit] at hFits
      exact Nat.mod_eq_of_lt (by omega)

/-- What one iteration of the promotion loop does: it skips the field, fails, or
promotes the field within the limits and accounts it. -/
theorem prepareComplexField_cases (allocate : ℕ → Bool) (i : ℕ) (context : SimContext D μ) :
    (context.prepareComplexField allocate i = (context, .ok ()) ∧
      ∀ field, context.fields[i]? = some field → ¬NeedsComplex field) ∨
    (∃ failure, context.prepareComplexField allocate i = (context, .error failure)) ∨
    ∃ field promoted nextFields nextTotal, context.fields[i]? = some field ∧
      Promoted field promoted ∧
      (0 < context.memoryLimits.maxFieldBytes →
        promoted.bytes ≤ context.memoryLimits.maxFieldBytes) ∧
      context.promotedBytes field.bytes promoted.bytes = .ok (nextFields, nextTotal) ∧
      context.prepareComplexField allocate i =
        ({ context with
            fields := context.fields.set i promoted
            bytesFieldsInUse := nextFields
            bytesTotalInUse := nextTotal }, .ok ()) := by
  rw [prepareComplexField]
  cases hField : context.fields[i]? with
  | none => exact .inl ⟨rfl, fun _ hSome => by cases hSome⟩
  | some field =>
      dsimp only
      split_ifs with hSkip hCount hOverflow hElements hBytes
      · left
        refine ⟨rfl, fun other hOther hNeeds => ?_⟩
        cases hOther
        rw [hNeeds.1, hNeeds.2] at hSkip
        cases hSkip
      · exact .inr (.inl ⟨_, rfl⟩)
      · exact .inr (.inl ⟨_, rfl⟩)
      · exact .inr (.inl ⟨_, rfl⟩)
      · exact .inr (.inl ⟨_, rfl⟩)
      · rw [Bool.or_eq_true, not_or, Bool.not_eq_true', Bool.not_eq_false,
          Bool.not_eq_true] at hSkip
        right
        cases hPromoted : context.promotedBytes field.bytes
            (SimField.elementCount field.shape * 16) with
        | error failure => exact .inl ⟨failure, rfl⟩
        | ok next =>
            obtain ⟨nextFields, nextTotal⟩ := next
            dsimp only
            cases hRequire : field.requireComplex allocate with
            | mk promoted result =>
                cases result with
                | error failure =>
                    have hSame : promoted = field := by
                      have hError := SimField.requireComplex_error
                        (show (field.requireComplex allocate).2 = .error failure by rw [hRequire])
                      rwa [hRequire] at hError
                    have hSet : context.fields.set i promoted = context.fields := by
                      obtain ⟨hI, hAt⟩ := List.getElem?_eq_some_iff.mp hField
                      rw [hSame, ← hAt, List.set_getElem_self]
                    left
                    refine ⟨failure, ?_⟩
                    dsimp only
                    rw [hSet]
                | ok code =>
                    have hDone := promoted_of_requireComplex hSkip.1 hSkip.2 hCount
                      (by omega) hRequire
                    right
                    refine ⟨field, promoted, nextFields, nextTotal, rfl, hDone, ?_, ?_, rfl⟩
                    · rw [hDone.bytes]
                      omega
                    · rw [hDone.bytes, hPromoted]

/-- Fields of which some have been promoted since. -/
def PromotedFrom (fields later : List (SimField D)) : Prop :=
  ∀ i : ℕ, later[i]? = fields[i]? ∨ ∃ field promoted,
    fields[i]? = some field ∧ later[i]? = some promoted ∧ Promoted field promoted

omit [CDouble D] in
theorem PromotedFrom.refl [CDouble D] (fields : List (SimField D)) : PromotedFrom fields fields :=
  fun _ => .inl rfl

/-- A field is promoted at most once. -/
theorem PromotedFrom.set {fields later : List (SimField D)} (hFrom : PromotedFrom fields later)
    {i : ℕ} {field promoted : SimField D} (hField : later[i]? = some field)
    (hPromoted : Promoted field promoted) : PromotedFrom fields (later.set i promoted) := by
  intro j
  by_cases hEq : i = j
  · subst hEq
    obtain ⟨hI, -⟩ := List.getElem?_eq_some_iff.mp hField
    rcases hFrom i with hSame | ⟨start, early, hStart, hEarly, hDone⟩
    · exact .inr ⟨field, promoted, hSame ▸ hField, List.getElem?_set_self hI, hPromoted⟩
    · rw [hField] at hEarly
      cases hEarly
      have hStorage := hPromoted.needed.2
      rw [hDone.storage] at hStorage
      cases hStorage
  · rw [List.getElem?_set_ne hEq]
    exact hFrom j

/-- What a call of `sim_context_prepare_plan` leaves, however it ends. -/
structure MemoryPrepared (limits : SimContextMemoryLimits) (context later : SimContext D μ) :
    Prop where
  accounted : Accounted limits later
  promoted : PromotedFrom context.fields later.fields
  scratch : later.bytesScratchInUse = context.bytesScratchInUse

/-- One more promotion keeps the accounting. -/
theorem MemoryPrepared.field {start : SimContext D μ}
    (hPrepared : MemoryPrepared limits start context) (allocate : ℕ → Bool) (i : ℕ) :
    MemoryPrepared limits start (context.prepareComplexField allocate i).1 := by
  have hAccounted := hPrepared.accounted
  rcases prepareComplexField_cases allocate i context with ⟨hSame, -⟩ | ⟨failure, hSame⟩ |
    ⟨field, promoted, nextFields, nextTotal, hField, hDone, hBytes, hNext, hRun⟩
  · rwa [hSame]
  · rwa [hSame]
  · obtain ⟨hFields, hTotal, hFits, hLimit⟩ := promotedBytes_ok hNext
    have hSum := bytesOf_set hField promoted
    have hWithin := hAccounted.withinLimits
    have hMem : field ∈ context.fields := List.mem_of_getElem? hField
    have hNextSum : nextFields = bytesOf (context.fields.set i promoted) := by
      have hStart := hAccounted.fields
      omega
    rw [hAccounted.memoryLimits] at hBytes hLimit
    rw [hRun]
    constructor
    case promoted => exact hPrepared.promoted.set hField hDone
    case scratch => exact hPrepared.scratch
    case accounted =>
      constructor
      case memoryLimits => exact hAccounted.memoryLimits
      case fields => exact hNextSum
      case balanced => exact ⟨hTotal, hTotal ▸ hFits⟩
      case withinLimits =>
        constructor
        case maxFields =>
          intro hConfigured
          rw [List.length_set]
          exact hWithin.maxFields hConfigured
        case maxFieldElements =>
          intro hConfigured other hOther
          rcases List.mem_or_eq_of_mem_set hOther with hOld | rfl
          · exact hWithin.maxFieldElements hConfigured other hOld
          · rw [hDone.shape]
            exact hWithin.maxFieldElements hConfigured field hMem
        case maxFieldBytes =>
          intro hConfigured other hOther
          rcases List.mem_or_eq_of_mem_set hOther with hOld | rfl
          · exact hWithin.maxFieldBytes hConfigured other hOld
          · exact hBytes hConfigured
        case maxTotalFieldBytes =>
          intro hConfigured
          rw [← hNextSum]
          exact hLimit hConfigured

theorem MemoryPrepared.loop {start : SimContext D μ}
    (hPrepared : MemoryPrepared limits start context) (allocate : ℕ → ℕ → Bool) (rest : List ℕ) :
    MemoryPrepared limits start (prepareComplexFieldsFrom allocate rest context).1 := by
  induction rest generalizing context with
  | nil => exact hPrepared
  | cons i rest ih =>
      have hHere := hPrepared.field (allocate i) i
      rw [prepareComplexFieldsFrom]
      cases hRun : context.prepareComplexField (allocate i) i with
      | mk after result =>
          rw [hRun] at hHere
          cases result with
          | error failure => exact hHere
          | ok code => exact ih hHere

end SimContext

end Oakfield
