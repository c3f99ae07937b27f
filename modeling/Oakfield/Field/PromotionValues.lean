import Oakfield.Field.RepresentationInvariant
import Mathlib.Tactic.NormNum

/-! The values of a field's elements under a promotion to complex storage. -/
namespace Oakfield

open KernelIR

namespace SimField

variable {D : Type} [CDouble D]

/-- A word of an integer element as a number, in the width of its domain. -/
def integerValue (domain : SimScalarDomain) (word : BitVec 64) : D :=
  let low := word.setWidth domain.bitWidth
  if domain.isSigned then CDouble.ofI64 (low.signExtend 64) else CDouble.ofU64 (low.setWidth 64)

/-- The number which element `k` holds in the field's own scalar domain. -/
def elementValue (field : SimField D) (k : ℕ) : D × D :=
  match field.data with
  | none => (CDouble.zero, CDouble.zero)
  | some data =>
      match field.domain.kind with
      | .complex => (data.lane (2 * k), data.lane (2 * k + 1))
      | .integer | .modular => (integerValue field.domain (data.word k), CDouble.zero)
      | .real | .unknown => (data.lane k, CDouble.zero)

/-- The two calls which promote a field. -/
inductive Promotion where
  | inplace
  | require
deriving DecidableEq

def promote (promotion : Promotion) (allocate : ℕ → Bool) (field : SimField D) : FieldCall D :=
  match promotion with
  | .inplace => field.promoteInplaceToComplex allocate
  | .require => field.requireComplex allocate

/-- A promotion keeps the number of every element, now complex, inside the buffer which
it allocated, and leaves the field alone if it fails. -/
structure PromotionKeeps (field : SimField D) (call : FieldCall D) : Prop where
  failed : ∀ failure, call.2 = .error failure → call.1 = field
  shape : call.2 = .ok () → call.1.shape = field.shape
  storage : call.2 = .ok () → elementCount field.shape ≠ 0 →
    call.1.storageIsComplex = true ∧ call.1.domain.isComplex = true
  values : call.2 = .ok () → ∀ k < elementCount field.shape,
    call.1.elementValue k = field.elementValue k
  inside : call.2 = .ok () → call.1.elementSize ≠ field.elementSize →
    ∀ k < elementCount field.shape, k * 16 + 16 ≤ elementCount field.shape * 16 % 2 ^ 64

/-- The field is copied to a complex buffer which is granted. -/
def Widened (field : SimField D) (allocate : ℕ → Bool) : Prop :=
  field.elementSize = 8 ∧ elementCount field.shape ≠ 0 ∧ field.contiguous = true ∧
    allocate (elementCount field.shape * 16 % 2 ^ 64) = true

/-- A field which is copied has room for its complex elements, and is not one of
integers, unless each of them is also the number its bits stand for as a double. -/
def PromotionFits (field : SimField D) (allocate : ℕ → Bool) : Prop :=
  field.Widened allocate →
    elementCount field.shape * 16 < 2 ^ 64 ∧
      (field.domain.kind = .integer ∨ field.domain.kind = .modular →
        ∀ data, field.data = some data → ∀ k < elementCount field.shape,
          data.lane k = integerValue field.domain (data.word k))

end SimField

/-- Fields which the constructors made, after any calls and any stores. -/
inductive FieldReached {D : Type} [CDouble D] : SimField D → Prop where
  | created {field : SimField D} (hCreated : Created field) : FieldReached field
  | update {field : SimField D} (hField : FieldReached field) (update : FieldUpdate) :
      FieldReached (field.update update).1
  | store {field : SimField D} (hField : FieldReached field) (data : FieldData D) :
      FieldReached { field with data := some data }

section Reached

variable {D : Type} [CDouble D] {field : SimField D} {allocate : ℕ → Bool}

/-- The descriptions of a field agree as long as it has elements. -/
structure ReachedInvariant (field : SimField D) : Prop where
  initialized : field.initialized = true
  data : field.data.isSome = true
  described : SimField.elementCount field.shape ≠ 0 → field.Described

omit [CDouble D] in
theorem SimField.Described.store (hField : field.Described) (data : FieldData D) :
    SimField.Described { field with data := some data } :=
  ⟨hField.initialized, rfl, hField.known, hField.storage, hField.domain⟩

/-- No call changes the shape of a field, and its buffer stays there. -/
theorem SimField.update_frame (hInit : field.initialized = true) (hData : field.data.isSome = true)
    (update : FieldUpdate) :
    (field.update update).1.initialized = true ∧ (field.update update).1.data.isSome = true ∧
      (field.update update).1.shape = field.shape := by
  cases update with
  | setRepresentation repr =>
      rw [SimField.update, SimField.setRepresentation]
      split
      · exact ⟨hInit, hData, rfl⟩
      · split
        · exact ⟨hInit, hData, rfl⟩
        · exact ⟨hInit, hData, rfl⟩
  | setScalarDomain domain =>
      rw [SimField.update, SimField.setScalarDomain]
      split_ifs
      all_goals exact ⟨hInit, hData, rfl⟩
  | requireComplex allocate =>
      rw [SimField.update]
      obtain ⟨failure, hRun⟩ | ⟨_, hRun⟩ | ⟨_, promoted, hSame, hShape, hSome, _, hRun⟩ :=
        requireComplex_cases allocate field
      · rw [hRun]
        exact ⟨hInit, hData, rfl⟩
      · rw [hRun]
        exact ⟨hInit, hData, rfl⟩
      · rw [hRun]
        exact ⟨hSame.trans hInit, hSome, hShape⟩
  | promoteInplaceToComplex allocate =>
      rw [SimField.update]
      obtain ⟨failure, hRun⟩ | ⟨hRun, _⟩ | ⟨_, data, hRun⟩ :=
        promoteInplaceToComplex_cases allocate field
      · rw [hRun]
        exact ⟨hInit, hData, rfl⟩
      · rw [hRun]
        exact ⟨hInit, hData, rfl⟩
      · rw [hRun]
        exact ⟨hInit, rfl, rfl⟩

theorem FieldReached.invariant (hField : FieldReached field) : ReachedInvariant field := by
  induction hField with
  | created hCreated =>
      have hDescribed := hCreated.described
      exact ⟨hDescribed.initialized, hDescribed.data, fun _ => hDescribed⟩
  | @update field hField update ih =>
      obtain ⟨hInit, hData, hShape⟩ := SimField.update_frame ih.initialized ih.data update
      refine ⟨hInit, hData, ?_⟩
      intro hCount
      rw [hShape] at hCount
      apply (ih.described hCount).update update
      cases update with
      | requireComplex allocate => exact .inl hCount
      | setRepresentation repr => trivial
      | setScalarDomain domain => trivial
      | promoteInplaceToComplex allocate => trivial
  | store hField data ih =>
      exact ⟨ih.initialized, rfl, fun hCount => (ih.described hCount).store data⟩

/-! ### What the calls do to the elements -/

omit [CDouble D] in
/-- A stored complex domain is the domain of the field. -/
theorem domain_of_complex (hInit : field.initialized = true)
    (hDomain : field.scalarDomain = simScalarDomainC64) : field.domain = simScalarDomainC64 := by
  rw [SimField.domain, hInit, hDomain]
  rfl

theorem elementValue_of_complex {data : FieldData D} (hData : field.data = some data)
    (hDomain : field.domain.kind = .complex) (k : ℕ) :
    field.elementValue k = (data.lane (2 * k), data.lane (2 * k + 1)) := by
  rw [SimField.elementValue, hData]
  dsimp only
  rw [hDomain]

theorem lane_interleave (data : FieldData D) (k : ℕ) :
    (SimField.interleave data).lane (2 * k) = data.lane k ∧
      (SimField.interleave data).lane (2 * k + 1) = CDouble.zero := by
  constructor
  · show (if 2 * k % 2 = 0 then data.lane (2 * k / 2) else CDouble.zero) = data.lane k
    rw [if_pos (by omega), Nat.mul_div_cancel_left k (by norm_num)]
  · show (if (2 * k + 1) % 2 = 0 then data.lane ((2 * k + 1) / 2) else CDouble.zero) = CDouble.zero
    rw [if_neg (by omega)]

/-- The field which a copy to complex storage leaves. -/
structure WidenedTo (field widened : SimField D) (data : FieldData D) : Prop where
  initialized : widened.initialized = true
  shape : widened.shape = field.shape
  elementSize : widened.elementSize = 16
  scalarDomain : widened.scalarDomain = simScalarDomainC64
  source : field.data = some data
  data : widened.data = some (SimField.interleave data)

/-- Complex fields keep their data, others are copied or the call fails. -/
theorem promote_cases (hField : field.Described) (hCount : SimField.elementCount field.shape ≠ 0)
    (promotion : SimField.Promotion) :
    (field.elementSize = 16 ∧ ∃ same, field.promote promotion allocate = (same, .ok ()) ∧
      (same = field ∨ same = field.describeComplex)) ∨
    (field.elementSize ≠ 16 ∧ ¬field.Widened allocate ∧
      ∃ failure, field.promote promotion allocate = (field, .error failure)) ∨
    field.Widened allocate ∧ ∃ widened data, WidenedTo field widened data ∧
      field.promote promotion allocate = (widened, .ok ()) := by
  obtain ⟨data, hData⟩ := Option.isSome_iff_exists.mp hField.data
  have hStorage : field.storageIsComplex = decide (field.elementSize = 16) := by
    rw [SimField.storageIsComplex, hField.initialized, Bool.true_and]
  -- the call without the description afterwards
  have hInplace : field.promoteInplaceToComplex allocate =
      if field.elementSize = 16 then (field, .ok ())
      else if !field.contiguous then (field, .error .invalidState)
      else if field.elementSize ≠ 8 then (field, .error .dependencyError)
      else if !allocate (SimField.elementCount field.shape * 16 % 2 ^ 64) then
        (field, .error .outOfMemory)
      else
        (SimField.describeComplex { field with
          data := some (SimField.interleave data), elementSize := 16 }, .ok ()) := by
    rw [SimField.promoteInplaceToComplex, hField.initialized, hData]
    dsimp only
    rw [if_neg hCount, hField.promotable]
    rfl
  have hRequire : field.requireComplex allocate =
      if field.elementSize = 16 then (field.describeComplex, .ok ())
      else (field.promoteInplaceToComplex allocate).2.casesOn
        (fun failure => ((field.promoteInplaceToComplex allocate).1, .error failure))
        fun _ => ((field.promoteInplaceToComplex allocate).1.describeComplex, .ok ()) := by
    rw [SimField.requireComplex, hField.initialized, hData]
    dsimp only
    rw [hField.promotable, hStorage]
    simp only [Bool.not_true, Bool.false_eq_true, if_false, decide_eq_true_eq]
    split_ifs
    · rfl
    rcases field.promoteInplaceToComplex allocate with ⟨widened, failure | done⟩
    · rfl
    · rfl
  by_cases hComplex : field.elementSize = 16
  · left
    refine ⟨hComplex, ?_⟩
    cases promotion with
    | inplace => exact ⟨field, by rw [SimField.promote, hInplace, if_pos hComplex], .inl rfl⟩
    | require => exact ⟨_, by rw [SimField.promote, hRequire, if_pos hComplex], .inr rfl⟩
  · right
    by_cases hWidened : field.Widened allocate
    · right
      refine ⟨hWidened, ?_⟩
      obtain ⟨hSize, _, hContiguous, hGranted⟩ := hWidened
      rw [if_neg hComplex, hContiguous, hGranted] at hInplace
      rw [if_neg hComplex, hInplace] at hRequire
      simp only [Bool.not_true, Bool.false_eq_true, if_false, hSize, ne_eq, not_true_eq_false]
        at hInplace hRequire
      cases promotion with
      | inplace =>
          refine ⟨_, data, ?_, hInplace⟩
          exact ⟨hField.initialized, rfl, rfl, rfl, hData, rfl⟩
      | require =>
          refine ⟨_, data, ?_, hRequire⟩
          exact ⟨hField.initialized, rfl, rfl, rfl, hData, rfl⟩
    · left
      have hFails : ∃ failure, field.promoteInplaceToComplex allocate = (field, .error failure) := by
        rw [hInplace, if_neg hComplex]
        split_ifs with hContiguous hSize hGranted
        · exact ⟨_, rfl⟩
        · exact ⟨_, rfl⟩
        · exact ⟨_, rfl⟩
        · rw [Bool.not_eq_true', Bool.not_eq_false] at hContiguous hGranted
          exact absurd ⟨not_not.mp hSize, hCount, hContiguous, hGranted⟩ hWidened
      obtain ⟨failure, hFails⟩ := hFails
      refine ⟨hComplex, hWidened, failure, ?_⟩
      cases promotion with
      | inplace => exact hFails
      | require => rw [SimField.promote, hRequire, if_neg hComplex, hFails]

/-- The copied elements have the numbers they had, unless integers were read as doubles. -/
theorem WidenedTo.elementValue {widened : SimField D} {data : FieldData D}
    (hWidened : WidenedTo field widened data) (hReal : field.domain.kind ≠ .complex) (k : ℕ) :
    widened.elementValue k = field.elementValue k ↔
      (field.domain.kind = .integer ∨ field.domain.kind = .modular →
        data.lane k = SimField.integerValue field.domain (data.word k)) := by
  have hDomain := domain_of_complex hWidened.initialized hWidened.scalarDomain
  rw [elementValue_of_complex hWidened.data (by rw [hDomain]; rfl), (lane_interleave data k).1,
    (lane_interleave data k).2, SimField.elementValue, hWidened.source]
  cases hKind : field.domain.kind with
  | complex => exact absurd hKind hReal
  | real => simp
  | unknown => simp
  | integer => simp
  | modular => simp

theorem promote_error (promotion : SimField.Promotion) {failure : SimError}
    (hRun : (field.promote promotion allocate).2 = .error failure) :
    (field.promote promotion allocate).1 = field := by
  cases promotion with
  | inplace => exact SimField.promoteInplaceToComplex_error hRun
  | require => exact SimField.requireComplex_error hRun

/-- Either promotion keeps the numbers of all elements exactly when a field which is
copied has room and is not one of integers. -/
theorem promotionKeeps_iff (field : SimField D) (hField : FieldReached field)
    (promotion : SimField.Promotion) (allocate : ℕ → Bool) :
    field.PromotionKeeps (field.promote promotion allocate) ↔ field.PromotionFits allocate := by
  have hInvariant := hField.invariant
  by_cases hCount : SimField.elementCount field.shape = 0
  · -- without elements there is nothing to copy
    apply iff_of_true
    · have hFrame : (field.promote promotion allocate).1.shape = field.shape := by
        cases promotion with
        | inplace => exact (SimField.update_frame hInvariant.initialized hInvariant.data
            (.promoteInplaceToComplex allocate)).2.2
        | require => exact (SimField.update_frame hInvariant.initialized hInvariant.data
            (.requireComplex allocate)).2.2
      refine ⟨fun _ => promote_error promotion, fun _ => hFrame, ?_, ?_, ?_⟩
      · intro _ hSome
        exact absurd hCount hSome
      · intro _ k hK
        omega
      · intro _ _ k hK
        omega
    · intro hWidened
      exact absurd hCount hWidened.2.1
  · have hDescribed := hInvariant.described hCount
    obtain ⟨data, hData⟩ := Option.isSome_iff_exists.mp hDescribed.data
    rcases promote_cases hDescribed hCount promotion with
      ⟨hSize, same, hRun, hSame⟩ | ⟨hSize, hNot, failure, hRun⟩ | ⟨hWidened, widened, data, hTo, hRun⟩
    · apply iff_of_true
      · have hDomain : field.domain.isComplex = true := hDescribed.agrees.storage.mpr hSize
        have hKind : field.domain.kind = .complex := by
          simpa [SimScalarDomain.isComplex] using hDomain
        rw [hRun]
        rcases hSame with rfl | rfl
        · refine ⟨fun _ hFails => rfl, fun _ => rfl, ?_, fun _ _ _ => rfl, ?_⟩
          · intro _ _
            exact ⟨by simp [SimField.storageIsComplex, hDescribed.initialized, hSize], hDomain⟩
          · intro _ hChanged
            exact absurd rfl hChanged
        · have hComplex : field.describeComplex.domain = simScalarDomainC64 :=
            domain_of_complex hDescribed.initialized rfl
          refine ⟨?_, fun _ => rfl, ?_, ?_, ?_⟩
          · intro failure hFails
            cases hFails
          · intro _ _
            refine ⟨?_, by rw [hComplex]; rfl⟩
            simp [SimField.storageIsComplex, SimField.describeComplex, hDescribed.initialized, hSize]
          · intro _ k _
            rw [elementValue_of_complex hData hKind,
              @elementValue_of_complex _ _ field.describeComplex _ hData (by rw [hComplex]; rfl)]
          · intro _ hChanged
            exact absurd rfl hChanged
      · intro hWidened
        rw [hWidened.1] at hSize
        cases hSize
    · apply iff_of_true
      · rw [hRun]
        refine ⟨fun _ _ => rfl, ?_, ?_, ?_, ?_⟩
        all_goals
          intro hOk
          cases hOk
      · intro hWidened
        exact absurd hWidened hNot
    · have hReal : field.domain.kind ≠ .complex := by
        intro hKind
        have hSize := hDescribed.agrees.storage.mp (by rw [SimScalarDomain.isComplex, hKind]; rfl)
        rw [hWidened.1] at hSize
        cases hSize
      have hSource : ∀ other, field.data = some other → other = data := by
        intro other hOther
        exact Option.some.inj (hOther.symm.trans hTo.source)
      rw [hRun]
      constructor
      · intro hKeeps _
        constructor
        · have hLast := hKeeps.inside rfl (by rw [hTo.elementSize, hWidened.1]; norm_num)
            (SimField.elementCount field.shape - 1) (by omega)
          have hLess := Nat.mod_lt (SimField.elementCount field.shape * 16)
            (by norm_num : 0 < 2 ^ 64)
          omega
        · intro hInteger other hOther k hK
          rw [hSource other hOther]
          exact (hTo.elementValue hReal k).mp (hKeeps.values rfl k hK) hInteger
      · intro hFits
        obtain ⟨hRoom, hValues⟩ := hFits hWidened
        refine ⟨?_, fun _ => hTo.shape, ?_, ?_, ?_⟩
        · intro failure hFails
          cases hFails
        · intro _ _
          rw [domain_of_complex hTo.initialized hTo.scalarDomain]
          exact ⟨by simp [SimField.storageIsComplex, hTo.initialized, hTo.elementSize], rfl⟩
        · intro _ k hK
          exact (hTo.elementValue hReal k).mpr fun hInteger => hValues hInteger data hTo.source k hK
        · intro _ _ k hK
          rw [Nat.mod_eq_of_lt hRoom]
          omega

end Reached

/-- A single unsigned integer of eight bytes, all of whose bits are set. -/
def unsignedField : SimField ℤ :=
  ((SimField.ofElementSize ⟨[1], [1], true⟩ 8 (.words fun _ => BitVec.allOnes 64)).update
    (.setScalarDomain simScalarDomainU64)).1

theorem unsignedField_reached : FieldReached unsignedField :=
  .update (.created (.wrap (show simFieldWrap ⟨fun _ => true⟩ ⟨[1], [1], true⟩ 8 _ = .ok _ from rfl)))
    _

theorem promotionKeeps_iff_unsigned :
    unsignedField.PromotionKeeps (unsignedField.promote .inplace fun _ => false) ↔
      unsignedField.PromotionFits fun _ => false :=
  promotionKeeps_iff unsignedField unsignedField_reached .inplace fun _ => false

/-- The promotion succeeds, and the integer `2 ^ 64 - 1` becomes what its bits are as a
double. -/
theorem unsignedField_reinterpreted :
    FieldReached unsignedField ∧ unsignedField.domain = simScalarDomainU64 ∧
      (unsignedField.promote .require fun _ => true).2 = .ok () ∧
      ¬unsignedField.PromotionKeeps (unsignedField.promote .require fun _ => true) := by
  refine ⟨unsignedField_reached, by decide, rfl, ?_⟩
  intro hKeeps
  exact absurd (hKeeps.values rfl 0 (by decide)) (by decide)

end Oakfield
