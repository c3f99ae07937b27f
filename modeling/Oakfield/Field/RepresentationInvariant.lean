import Oakfield.Field.Representation
import Oakfield.Library.Run

/-! The three descriptions of the element type of a field stay in agreement. -/
namespace Oakfield

open KernelIR Library

namespace SimField

variable {D : Type}

/-- Domain, representation and storage describe one element type. -/
structure Agrees (field : SimField D) : Prop where
  representation : field.domain.isComplex = true ↔ field.repr.valueKind.isComplexValued = true
  storage : field.domain.isComplex = true ↔ field.elementSize = 16
  width : field.domain.kind = .integer ∨ field.domain.kind = .modular →
    field.domain.bitWidth = field.elementSize * 8

/-- What every call keeps: the stored domain may be unknown, but when it is
known it fits the storage and the representation. -/
structure Described (field : SimField D) : Prop where
  initialized : field.initialized = true
  data : field.data.isSome = true
  known : field.repr.valueKind ≠ .unknown
  storage : field.repr.valueKind.isComplexValued = true ↔ field.elementSize = 16
  domain : field.scalarDomain.kind ≠ .unknown →
    field.scalarDomain.matchesStorage field.elementSize = true ∧
      field.scalarDomain.isComplex = field.repr.valueKind.isComplexValued

end SimField

theorem SimScalarDomain.matchesStorage_validate {elementSize : ℕ} {domain : SimScalarDomain}
    (hMatch : domain.matchesStorage elementSize = true) : domain.validate = true := by
  rw [SimScalarDomain.matchesStorage] at hMatch
  split at hMatch
  case isTrue => cases hMatch
  case isFalse hValid =>
    simp only [Bool.or_eq_true, Bool.not_eq_true', not_or] at hValid
    simpa using hValid.2

namespace SimField

variable {D : Type} {field : SimField D}

theorem Described.representation_valueKind (hField : field.Described) :
    field.representation.valueKind = field.repr.valueKind := by
  rw [representation, hField.initialized]
  by_cases hReal : field.repr.valueKind = .realScalar
  · have hStorage : field.elementSize ≠ 16 := by
      intro hSize
      have := hField.storage.mpr hSize
      simp [hReal, SimFieldValueKind.isComplexValued] at this
    simp [hReal, hStorage]
  · simp [hReal]

/-- The domain of the representation, which is what an unknown stored domain
falls back to. -/
theorem Described.domainOfRepresentation (hField : field.Described) :
    domainOfRepresentation field.representation =
      if field.repr.valueKind.isComplexValued then simScalarDomainC64 else simScalarDomainF64 := by
  rw [SimField.domainOfRepresentation, hField.representation_valueKind]
  have hKnown := hField.known
  cases hKind : field.repr.valueKind <;> simp_all [SimFieldValueKind.isComplexValued]

theorem Described.domain_eq (hField : field.Described) :
    field.domain =
      if field.scalarDomain.kind ≠ .unknown then field.scalarDomain
      else if field.repr.valueKind.isComplexValued then simScalarDomainC64
      else simScalarDomainF64 := by
  rw [SimField.domain, hField.initialized, hField.domainOfRepresentation]
  by_cases hKnown : field.scalarDomain.kind = .unknown
  · cases field.repr.valueKind.isComplexValued <;>
      simp [hKnown, simScalarDomainC64, simScalarDomainF64]
  · have hValid := SimScalarDomain.matchesStorage_validate (hField.domain hKnown).1
    simp [hKnown, hValid]

theorem Described.isComplex_domain (hField : field.Described) :
    field.domain.isComplex = field.repr.valueKind.isComplexValued := by
  rw [hField.domain_eq]
  by_cases hKnown : field.scalarDomain.kind = .unknown
  · cases field.repr.valueKind.isComplexValued <;> simp [hKnown] <;> rfl
  · rw [if_pos hKnown]
    exact (hField.domain hKnown).2

theorem Described.agrees (hField : field.Described) : field.Agrees := by
  constructor
  case representation => rw [hField.isComplex_domain]
  case storage => rw [hField.isComplex_domain, hField.storage]
  case width =>
    rw [hField.domain_eq]
    by_cases hKnown : field.scalarDomain.kind = .unknown
    · cases field.repr.valueKind.isComplexValued <;>
        simp [hKnown, simScalarDomainC64, simScalarDomainF64]
    · rw [if_pos hKnown]
      intro hWidth
      have hMatch := (hField.domain hKnown).1
      rw [SimScalarDomain.matchesStorage] at hMatch
      split at hMatch
      case isTrue => cases hMatch
      case isFalse =>
        rcases hWidth with hKind | hKind <;> rw [hKind] at hMatch <;> simpa using hMatch

/-! ### Creation -/

theorem described_ofElementSize {layout : SimFieldLayout} {elementSize : ℕ} (data : FieldData D)
    (hSize : elementSize ≠ 0) : (ofElementSize layout elementSize data).Described := by
  constructor
  case initialized => rfl
  case data => rfl
  case known =>
    rw [ofElementSize]
    dsimp only
    split <;> simp
  case storage =>
    rw [ofElementSize]
    dsimp only
    split
    case isTrue hComplex => simp [hComplex, SimFieldValueKind.isComplexValued]
    case isFalse hReal => simp [hReal, SimFieldValueKind.isComplexValued]
  case domain =>
    rw [ofElementSize]
    dsimp only
    rw [simFieldDefaultScalarDomain, SimBufferDataType.fromElementSize]
    by_cases hReal : elementSize = 8
    · subst hReal
      decide
    · by_cases hComplex : elementSize = 16
      · subst hComplex
        decide
      · rw [if_neg hReal, if_neg hComplex]
        exact fun hKnown => absurd rfl hKnown

/-! ### Updates -/

theorem validateRepresentation_ok {repr : SimFieldRepresentation}
    (hRun : field.validateRepresentation repr = .ok ()) :
    repr.valueKind ≠ .unknown ∧ repr.valueKind.isComplexValued = field.storageIsComplex ∧
      (field.scalarDomain.validate = true → field.scalarDomain.kind ≠ .unknown →
        field.scalarDomain.isComplex = repr.valueKind.isComplexValued) := by
  rw [validateRepresentation] at hRun
  split_ifs at hRun with hInit hHybrid hUnknown hKind hConstraint hSpectral hDomain hStorage
  rw [not_not] at hStorage
  refine ⟨hKind, hStorage, ?_⟩
  intro hValid hKnown
  by_contra hDiffer
  exact hDomain ⟨hValid, hKnown, hDiffer⟩

theorem Described.setRepresentation (hField : field.Described) (repr : SimFieldRepresentation) :
    (field.setRepresentation repr).1.Described := by
  rw [SimField.setRepresentation]
  split
  case isTrue => exact hField
  case isFalse =>
    split
    case h_1 => exact hField
    case h_2 hValidate =>
      obtain ⟨hKnown, hStorage, hDomain⟩ := validateRepresentation_ok hValidate
      constructor
      case initialized => exact hField.initialized
      case data => exact hField.data
      case known => exact hKnown
      case storage =>
        rw [hStorage, storageIsComplex, hField.initialized]
        simp
      case domain =>
        intro hDomainKnown
        have hMatch := (hField.domain hDomainKnown).1
        exact ⟨hMatch, hDomain (SimScalarDomain.matchesStorage_validate hMatch) hDomainKnown⟩

theorem setRepresentation_error {repr : SimFieldRepresentation} {failure : SimError}
    (hRun : (field.setRepresentation repr).2 = .error failure) :
    (field.setRepresentation repr).1 = field := by
  rw [SimField.setRepresentation] at hRun ⊢
  split
  case isTrue => rfl
  case isFalse hInit =>
    rw [if_neg hInit] at hRun
    split
    case h_1 => rfl
    case h_2 hValidate =>
      rw [hValidate] at hRun
      cases hRun

theorem Described.setScalarDomain (hField : field.Described) (domain : SimScalarDomain) :
    (field.setScalarDomain domain).1.Described := by
  rw [SimField.setScalarDomain, hField.representation_valueKind]
  split_ifs with hInit hStorage hComplex
  · exact hField
  · exact hField
  · exact hField
  · constructor
    case initialized => exact hField.initialized
    case data => exact hField.data
    case known => exact hField.known
    case storage => exact hField.storage
    case domain =>
      intro hKnown
      constructor
      · by_contra hMatch
        exact hStorage ⟨hKnown, by simpa using hMatch⟩
      · by_contra hDiffer
        exact hComplex ⟨hKnown, hDiffer⟩

theorem setScalarDomain_error {domain : SimScalarDomain} {failure : SimError}
    (hRun : (field.setScalarDomain domain).2 = .error failure) :
    (field.setScalarDomain domain).1 = field := by
  rw [SimField.setScalarDomain] at hRun ⊢
  split_ifs at hRun ⊢ <;> rfl

/-! ### Promotion -/

theorem describeComplex_valueKind (field : SimField D) :
    field.describeComplex.repr.valueKind.isComplexValued = true := by
  rw [describeComplex, complexRepresentation]
  dsimp only
  split
  case isTrue hComplex => exact hComplex
  case isFalse => rfl

theorem described_describeComplex (hInit : field.initialized = true)
    (hData : field.data.isSome = true) (hSize : field.elementSize = 16) :
    field.describeComplex.Described := by
  have hComplex := field.describeComplex_valueKind
  constructor
  case initialized => exact hInit
  case data => exact hData
  case known =>
    intro hUnknown
    rw [hUnknown] at hComplex
    cases hComplex
  case storage => exact ⟨fun _ => hSize, fun _ => hComplex⟩
  case domain =>
    intro _
    constructor
    · show SimScalarDomain.matchesStorage field.elementSize simScalarDomainC64 = true
      rw [hSize]
      decide
    · rw [hComplex]
      rfl

theorem Described.promotable (hField : field.Described) : field.promotable = true := by
  rw [SimField.promotable, promotionSourceDomain, hField.initialized,
    hField.domainOfRepresentation]
  cases field.repr.valueKind.isComplexValued <;> rfl

section Promote

variable [CDouble D] {allocate : ℕ → Bool}

/-- A promotion fails without effect, has nothing to do, or installs a complex buffer. -/
theorem promoteInplaceToComplex_cases (allocate : ℕ → Bool) (field : SimField D) :
    (∃ failure, field.promoteInplaceToComplex allocate = (field, .error failure)) ∨
      field.promoteInplaceToComplex allocate = (field, .ok ()) ∧
        (field.elementSize = 16 ∨ elementCount field.shape = 0) ∨
      elementCount field.shape ≠ 0 ∧ ∃ data, field.promoteInplaceToComplex allocate =
        ({ field with data := some data, elementSize := 16 }.describeComplex, .ok ()) := by
  rw [promoteInplaceToComplex]
  split
  case h_1 => exact Or.inl ⟨_, rfl⟩
  case h_2 => exact Or.inl ⟨_, rfl⟩
  case h_3 data hInit hData =>
    dsimp only
    split_ifs with hSize hCount hContiguous hSource hStorage hGranted
    · exact Or.inr (Or.inl ⟨rfl, Or.inl hSize⟩)
    · exact Or.inr (Or.inl ⟨rfl, Or.inr hCount⟩)
    · exact Or.inl ⟨_, rfl⟩
    · exact Or.inl ⟨_, rfl⟩
    · exact Or.inl ⟨_, rfl⟩
    · exact Or.inl ⟨_, rfl⟩
    · exact Or.inr (Or.inr ⟨hCount, _, rfl⟩)

theorem Described.promoteInplaceToComplex (hField : field.Described) :
    (field.promoteInplaceToComplex allocate).1.Described := by
  obtain ⟨failure, hRun⟩ | ⟨hRun, -⟩ | ⟨-, data, hRun⟩ := promoteInplaceToComplex_cases allocate field
  · rw [hRun]
    exact hField
  · rw [hRun]
    exact hField
  · rw [hRun]
    exact described_describeComplex hField.initialized rfl rfl

theorem promoteInplaceToComplex_error {failure : SimError}
    (hRun : (field.promoteInplaceToComplex allocate).2 = .error failure) :
    (field.promoteInplaceToComplex allocate).1 = field := by
  obtain ⟨failure, hCase⟩ | ⟨hCase, -⟩ | ⟨-, data, hCase⟩ :=
    promoteInplaceToComplex_cases allocate field
  · rw [hCase]
  · rw [hCase]
  · rw [hCase] at hRun
    cases hRun

/-- A successful call describes a complex field, over complex storage unless
the promotion had nothing to convert. -/
theorem requireComplex_cases (allocate : ℕ → Bool) (field : SimField D) :
    (∃ failure, field.requireComplex allocate = (field, .error failure)) ∨
      (field.elementSize = 16 ∨ elementCount field.shape = 0) ∧
        field.requireComplex allocate = (field.describeComplex, .ok ()) ∨
      elementCount field.shape ≠ 0 ∧ ∃ promoted : SimField D, promoted.initialized = field.initialized ∧
        promoted.shape = field.shape ∧ promoted.data.isSome = true ∧ promoted.elementSize = 16 ∧
        field.requireComplex allocate = (promoted.describeComplex, .ok ()) := by
  rw [requireComplex]
  split
  case h_1 => exact Or.inl ⟨_, rfl⟩
  case h_2 => exact Or.inl ⟨_, rfl⟩
  case h_3 data hInit hData =>
    split_ifs with hSource hStorage
    · exact Or.inl ⟨_, rfl⟩
    · rw [storageIsComplex, Bool.and_eq_true, decide_eq_true_eq] at hStorage
      exact Or.inr (Or.inl ⟨Or.inl hStorage.2, rfl⟩)
    · obtain ⟨failure, hRun⟩ | ⟨hRun, hNothing⟩ | ⟨hCount, data, hRun⟩ :=
        promoteInplaceToComplex_cases allocate field
      · rw [hRun]
        exact Or.inl ⟨failure, rfl⟩
      · rw [hRun]
        exact Or.inr (Or.inl ⟨hNothing, rfl⟩)
      · rw [hRun]
        exact Or.inr (Or.inr ⟨hCount,
          SimField.describeComplex { field with data := some data, elementSize := 16 }, rfl, rfl, rfl, rfl,
            rfl⟩)

theorem Described.requireComplex (hField : field.Described)
    (hCount : elementCount field.shape ≠ 0 ∨ field.elementSize = 16) :
    (field.requireComplex allocate).1.Described := by
  obtain ⟨failure, hRun⟩ | ⟨hNothing, hRun⟩ | ⟨-, promoted, hInit, -, hData, hSize, hRun⟩ :=
    requireComplex_cases allocate field
  · rw [hRun]
    exact hField
  · rw [hRun]
    have hSize : field.elementSize = 16 := by
      rcases hCount with hElements | hSize
      · exact hNothing.resolve_right hElements
      · exact hSize
    exact described_describeComplex hField.initialized hField.data hSize
  · rw [hRun]
    exact described_describeComplex (hInit.trans hField.initialized) hData hSize

theorem requireComplex_error {failure : SimError}
    (hRun : (field.requireComplex allocate).2 = .error failure) :
    (field.requireComplex allocate).1 = field := by
  obtain ⟨failure, hCase⟩ | ⟨-, hCase⟩ | ⟨-, promoted, -, -, -, -, hCase⟩ :=
    requireComplex_cases allocate field
  · rw [hCase]
  · rw [hCase] at hRun
    cases hRun
  · rw [hCase] at hRun
    cases hRun

/-- Without elements nothing is converted, but the field is described as complex. -/
theorem Described.requireComplex_empty (hField : field.Described)
    (hCount : elementCount field.shape = 0) (hSize : field.elementSize ≠ 16) :
    field.requireComplex allocate = (field.describeComplex, .ok ()) := by
  obtain ⟨data, hData⟩ := Option.isSome_iff_exists.mp hField.data
  rw [SimField.requireComplex, hField.initialized, hData]
  dsimp only
  rw [hField.promotable, storageIsComplex, SimField.promoteInplaceToComplex, hField.initialized,
    hData]
  simp [hSize, hCount]

theorem Described.not_agrees_requireComplex (hField : field.Described)
    (hCount : elementCount field.shape = 0) (hSize : field.elementSize ≠ 16) :
    ¬(field.requireComplex allocate).1.Agrees := by
  rw [hField.requireComplex_empty hCount hSize]
  intro hAgrees
  apply hSize
  apply hAgrees.storage.mp
  exact hAgrees.representation.mpr field.describeComplex_valueKind

end Promote

end SimField

/-! ### Runs -/

section Runs

variable {D : Type}

/-- A field as a successful constructor leaves it. -/
inductive Created : SimField D → Prop where
  | init {heap : Heap} {shape : List ℕ} {elementSize : ℕ} {allocator : Option SimFieldAllocator}
      {field : SimField D} (hRun : simFieldInit heap shape elementSize allocator = .ok field) :
      Created field
  | initTyped {heap : Heap} {shape : List ℕ} {domain : SimScalarDomain}
      {allocator : Option SimFieldAllocator} {field : SimField D}
      (hRun : simFieldInitTyped heap shape domain allocator = .ok field) : Created field
  | wrap {heap : Heap} {layout : SimFieldLayout} {elementSize : ℕ} {data : FieldData D}
      {field : SimField D} (hRun : simFieldWrap heap layout elementSize data = .ok field) :
      Created field

theorem Created.described {field : SimField D} (hCreated : Created field) : field.Described := by
  cases hCreated with
  | init hRun =>
      obtain ⟨hSize, -, -, -, rfl⟩ := simFieldInit_ok hRun
      exact SimField.described_ofElementSize _ hSize
  | wrap hRun =>
      obtain ⟨hSize, -, rfl⟩ := simFieldWrap_ok hRun
      exact SimField.described_ofElementSize _ hSize
  | @initTyped heap shape domain allocator _ hRun =>
      rw [simFieldInitTyped] at hRun
      split_ifs at hRun with hDomain hSize
      split at hRun
      case h_1 => cases hRun
      case h_2 created hInit =>
        obtain ⟨hNonzero, -, -, -, rfl⟩ := simFieldInit_ok hInit
        have hSet := (show (SimField.ofElementSize (D := D)
          ⟨shape, (layoutStrides shape).1, true⟩ _ _).Described from
            SimField.described_ofElementSize (.words fun _ => 0) hNonzero).setScalarDomain domain
        split at hRun
        case h_1 => cases hRun
        case h_2 result hEq =>
          rw [hEq] at hSet
          cases hRun
          exact hSet

/-- A call which changes the element type of a field. -/
inductive FieldUpdate where
  | setRepresentation (repr : SimFieldRepresentation)
  | setScalarDomain (domain : SimScalarDomain)
  | requireComplex (allocate : ℕ → Bool)
  | promoteInplaceToComplex (allocate : ℕ → Bool)

variable [CDouble D]

def SimField.update (field : SimField D) : FieldUpdate → FieldCall D
  | .setRepresentation repr => field.setRepresentation repr
  | .setScalarDomain domain => field.setScalarDomain domain
  | .requireComplex allocate => field.requireComplex allocate
  | .promoteInplaceToComplex allocate => field.promoteInplaceToComplex allocate

/-- A call leaves the descriptions in agreement, and the field alone if it fails. -/
def SimField.UpdateSound (field : SimField D) (update : FieldUpdate) : Prop :=
  (field.update update).1.Agrees ∧
    ∀ failure, (field.update update).2 = .error failure → (field.update update).1 = field

/-- A field without elements is not required to be complex unless it already is. -/
def SimField.HasElementsToPromote (field : SimField D) : FieldUpdate → Prop
  | .requireComplex _ => SimField.elementCount field.shape ≠ 0 ∨ field.elementSize = 16
  | _ => True

theorem SimField.update_error {field : SimField D} {update : FieldUpdate} {failure : SimError}
    (hRun : (field.update update).2 = .error failure) : (field.update update).1 = field := by
  cases update with
  | setRepresentation repr => exact setRepresentation_error hRun
  | setScalarDomain domain => exact setScalarDomain_error hRun
  | requireComplex allocate => exact requireComplex_error hRun
  | promoteInplaceToComplex allocate => exact promoteInplaceToComplex_error hRun

theorem SimField.Described.update {field : SimField D} (hField : field.Described)
    (update : FieldUpdate) (hElements : field.HasElementsToPromote update) :
    (field.update update).1.Described := by
  cases update with
  | setRepresentation repr => exact hField.setRepresentation repr
  | setScalarDomain domain => exact hField.setScalarDomain domain
  | requireComplex allocate => exact hField.requireComplex hElements
  | promoteInplaceToComplex allocate => exact hField.promoteInplaceToComplex

theorem SimField.Described.updateSound_iff {field : SimField D} (hField : field.Described)
    (update : FieldUpdate) : field.UpdateSound update ↔ field.HasElementsToPromote update := by
  constructor
  · rintro ⟨hAgrees, -⟩
    cases update with
    | requireComplex allocate =>
        by_contra hEmpty
        rw [HasElementsToPromote, not_or, not_not] at hEmpty
        exact hField.not_agrees_requireComplex hEmpty.1 hEmpty.2 hAgrees
    | setRepresentation repr => trivial
    | setScalarDomain domain => trivial
    | promoteInplaceToComplex allocate => trivial
  · intro hElements
    exact ⟨(hField.update update hElements).agrees, fun _ => update_error⟩

/-- From every created field, all calls of a sequence keep the descriptions in
agreement exactly when none requires a field without elements to be complex. -/
theorem Created.updatesSound_iff {field : SimField D} (hCreated : Created field)
    (updates : List FieldUpdate) :
    field.Agrees ∧ (Run.EachCall (fun field update => (SimField.update field update).1)
        SimField.UpdateSound field updates ↔
      Run.EachCall (fun field update => (SimField.update field update).1)
        SimField.HasElementsToPromote field updates) := by
  constructor
  · exact hCreated.described.agrees
  · exact Run.eachCall_iff SimField.Described
      (fun field update hField hElements => hField.update update hElements)
      (fun field update hField => hField.updateSound_iff update) hCreated.described updates

theorem Created.updatesSound_iff_promoted :
    ∃ field : SimField ℤ, simFieldInit ⟨fun _ => true⟩ [2] 8 none = .ok field ∧ field.Agrees ∧
      (Run.EachCall (fun field update => (SimField.update field update).1) SimField.UpdateSound
          field [.setScalarDomain simScalarDomainI64, .requireComplex fun _ => true] ↔
        Run.EachCall (fun field update => (SimField.update field update).1)
          SimField.HasElementsToPromote field
          [.setScalarDomain simScalarDomainI64, .requireComplex fun _ => true]) :=
  ⟨_, rfl, Created.updatesSound_iff
    (.init (show simFieldInit ⟨fun _ => true⟩ [2] 8 none = .ok _ from rfl)) _⟩

/-- A wrapped real layout without elements is described as complex over its
eight byte elements. -/
theorem requireComplex_wrappedEmpty :
    ∃ field : SimField ℤ,
      simFieldWrap ⟨fun _ => true⟩ ⟨[0], [1], true⟩ 8 (.words fun _ => 0) = .ok field ∧
        (field.update (.requireComplex fun _ => true)).2 = .ok () ∧
        (field.update (.requireComplex fun _ => true)).1.elementSize = 8 ∧
        ¬(field.update (.requireComplex fun _ => true)).1.Agrees := by
  refine ⟨_, rfl, rfl, rfl, ?_⟩
  intro hAgrees
  have hStorage := hAgrees.storage
  revert hStorage
  decide

end Runs

end Oakfield
