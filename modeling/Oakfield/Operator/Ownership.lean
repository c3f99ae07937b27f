import Oakfield.Operator.Registration

/-! Who owns the payload of a descriptor whose registration failed. -/
namespace Oakfield.Operator

variable {D F P : Type}

namespace SimOperatorDescriptor

/-- The first checks of `sim_operator_assign` refuse the descriptor. -/
def Refused (descriptor : SimOperatorDescriptor D F P) : Prop :=
  descriptor.name = none ∨ (descriptor.evaluate = none ∧ descriptor.kernel = none)

/-- There is something to copy after the slot has taken the payload. -/
def Copies (descriptor : SimOperatorDescriptor D F P) : Prop :=
  descriptor.readIndices ≠ [] ∨ descriptor.writeIndices ≠ [] ∨ descriptor.kernel ≠ none ∨
    descriptor.dependencies ≠ []

/-- No failure comes after the slot has taken a payload which it would destroy. -/
def NeverUndone (descriptor : SimOperatorDescriptor D F P) : Prop :=
  descriptor.destroy = none ∨ descriptor.Refused ∨ ¬ descriptor.Copies

/-- The call of `destroy` on the payload. -/
def destroyCalls (descriptor : SimOperatorDescriptor D F P) : List (F × P) :=
  match descriptor.destroy with
  | none => []
  | some destroy => [(destroy, descriptor.userdata)]

end SimOperatorDescriptor

/-- The payloads which are released when the caller frees its payload after an
error, as `sim_split_register` does. -/
def Registration.releases (descriptor : SimOperatorDescriptor D F P)
    (registration : Registration D F P) : List P :=
  registration.destroyed.map Prod.snd ++
    match registration.result with
    | .error _ => [descriptor.userdata]
    | .ok _ => []

variable [CDouble D]

/-- A registration fails under the given allocations. -/
def Fails (registry : RegistrySlots D F P) (descriptor : SimOperatorDescriptor D F P)
    (granted : RegistrationAllocations) : Prop :=
  ∃ failure, (registry.register granted descriptor).result = .error failure

/-- The payload is destroyed on every failing path, or on none. -/
def DestroyedUniformly (registry : RegistrySlots D F P)
    (descriptor : SimOperatorDescriptor D F P) : Prop :=
  (∀ granted, Fails registry descriptor granted →
      descriptor.userdata ∈ (registry.register granted descriptor).destroyed.map Prod.snd) ∨
    ∀ granted, Fails registry descriptor granted →
      descriptor.userdata ∉ (registry.register granted descriptor).destroyed.map Prod.snd

/-- A failed registration leaves the registry alone, the payload is destroyed on
every failing path or on none, and a caller which frees it releases it once. -/
structure OwnershipKept (registry : RegistrySlots D F P)
    (descriptor : SimOperatorDescriptor D F P) : Prop where
  count : ∀ granted, Fails registry descriptor granted →
    (registry.register granted descriptor).registry.count = registry.count
  records : ∀ granted, Fails registry descriptor granted → ∀ i < registry.count,
    (registry.register granted descriptor).registry.records i = registry.records i
  uniform : DestroyedUniformly registry descriptor
  released : ∀ granted, Fails registry descriptor granted →
    ((registry.register granted descriptor).releases descriptor).length ≤ 1

/-! ### What an assignment does -/

section Assignment

variable {granted : RegistrationAllocations} {descriptor : SimOperatorDescriptor D F P}
  {op : OperatorSlot D F P}

/-- The three ways in which an assignment ends. -/
inductive AssignmentEnds (descriptor : SimOperatorDescriptor D F P)
    (assignment : Assignment D F P) : Prop where
  | refused (hRefused : descriptor.Refused) (hDestroyed : assignment.destroyed = [])
  | undone (hAdmitted : ¬ descriptor.Refused) (hCopies : descriptor.Copies)
      (hDestroyed : assignment.destroyed = descriptor.destroyCalls)
      (hFailed : ∃ failure, assignment.result = .error failure)
  | assigned (hDestroyed : assignment.destroyed = []) (hResult : assignment.result = .ok ())

omit [CDouble D] in
theorem reset_destroyed {op : OperatorSlot D F P} {failure : SimError}
    (hDestroy : op.destroy = descriptor.destroy)
    (hUserdata : op.userdata = some descriptor.userdata) :
    (op.reset failure).destroyed = descriptor.destroyCalls := by
  simp only [OperatorSlot.reset, OperatorSlot.destroyCalls, hDestroy, hUserdata,
    SimOperatorDescriptor.destroyCalls]
  cases descriptor.destroy <;> rfl

omit [CDouble D] in
/-- A reset of the slot which has taken the payload. -/
theorem AssignmentEnds.reset {failure : SimError} (hAdmitted : ¬ descriptor.Refused)
    (hCopies : descriptor.Copies) (hDestroy : op.destroy = descriptor.destroy)
    (hUserdata : op.userdata = some descriptor.userdata) :
    AssignmentEnds descriptor (op.reset failure) :=
  .undone hAdmitted hCopies (reset_destroyed hDestroy hUserdata) ⟨failure, rfl⟩

theorem assign_ends (granted : RegistrationAllocations)
    (descriptor : SimOperatorDescriptor D F P) (op : OperatorSlot D F P) :
    AssignmentEnds descriptor (op.assign granted descriptor) := by
  unfold OperatorSlot.assign
  cases hName : descriptor.name with
  | none => exact .refused (.inl hName) rfl
  | some name =>
      dsimp only
      split
      case isTrue hNone =>
        simp only [Bool.and_eq_true, Option.isNone_iff_eq_none] at hNone
        exact .refused (.inr hNone) rfl
      case isFalse hSome =>
        have hAdmitted : ¬ descriptor.Refused := by
          simpa [SimOperatorDescriptor.Refused, hName] using hSome
        split
        case isTrue hRead => exact .reset hAdmitted (.inl hRead.1) rfl rfl
        case isFalse =>
          split
          case isTrue hWrite => exact .reset hAdmitted (.inr (.inl hWrite.1)) rfl rfl
          case isFalse =>
            cases hKernel : kernelInit granted.kernel descriptor.kernel with
            | error failure =>
                apply AssignmentEnds.reset hAdmitted (.inr (.inr (.inl _))) rfl rfl
                intro hNone
                rw [hNone] at hKernel
                cases hKernel
            | ok kernel =>
                dsimp only
                split
                case isTrue hDep => exact .reset hAdmitted (.inr (.inr (.inr hDep.1))) rfl rfl
                case isFalse => exact .assigned rfl rfl

/-- The registry may grow, and nothing else is granted. -/
def RegistrationAllocations.starved : RegistrationAllocations where
  records := true
  readIndices := false
  writeIndices := false
  kernel := ⟨false, false, false, false, false, false, false, false, false, false, false⟩
  dependencies := false

theorem kernelInit_starved (hKernel : descriptor.kernel ≠ none) :
    ∃ failure, kernelInit RegistrationAllocations.starved.kernel descriptor.kernel =
      .error failure := by
  obtain ⟨kernel, hSome⟩ := Option.ne_none_iff_exists'.mp hKernel
  rw [hSome, kernelInit]
  cases kernel.builder with
  | none => exact ⟨_, rfl⟩
  | some builder =>
      dsimp only
      split
      case isTrue => exact ⟨_, rfl⟩
      case isFalse => exact ⟨_, rfl⟩

/-- A starved assignment which has something to copy fails. -/
theorem assign_starved_fails (op : OperatorSlot D F P) (hCopies : descriptor.Copies) :
    (op.assign .starved descriptor).result ≠ .ok () := by
  unfold OperatorSlot.assign
  split
  case h_1 => simp
  case h_2 name hName =>
    split
    case isTrue => simp
    case isFalse =>
      by_cases hRead : descriptor.readIndices = []
      case neg => simp [hRead, RegistrationAllocations.starved, OperatorSlot.reset]
      case pos =>
        by_cases hWrite : descriptor.writeIndices = []
        case neg => simp [hRead, hWrite, RegistrationAllocations.starved, OperatorSlot.reset]
        case pos =>
          by_cases hKernel : descriptor.kernel = none
          case neg =>
            obtain ⟨failure, hInit⟩ := kernelInit_starved hKernel
            simp [hRead, hWrite, hInit, OperatorSlot.reset]
          case pos =>
            have hDep : descriptor.dependencies ≠ [] := by
              simpa [SimOperatorDescriptor.Copies, hRead, hWrite, hKernel] using hCopies
            simp [hRead, hWrite, hKernel, kernelInit, hDep, RegistrationAllocations.starved,
              OperatorSlot.reset]

end Assignment

/-! ### What a registration does -/

section Registration

variable {granted : RegistrationAllocations} {descriptor : SimOperatorDescriptor D F P}
  {registry : RegistrySlots D F P}

omit [CDouble D] in
theorem grow_ok {grown : RegistrySlots D F P} {allowed : Bool}
    (hGrow : registry.grow allowed = .ok grown) :
    grown.records = registry.records ∧ grown.count = registry.count := by
  unfold RegistrySlots.grow at hGrow
  split_ifs at hGrow <;> cases hGrow <;> exact ⟨rfl, rfl⟩

omit [CDouble D] in
theorem grow_granted (registry : RegistrySlots D F P) : ∃ grown, registry.grow true = .ok grown := by
  unfold RegistrySlots.grow
  by_cases hRoom : registry.count < registry.capacity
  case pos => exact ⟨registry, by simp [hRoom]⟩
  case neg => simp [hRoom]

/-- A failed registration leaves the count and the operators below it alone. -/
theorem register_failed (hFails : Fails registry descriptor granted) :
    (registry.register granted descriptor).registry.count = registry.count ∧
      ∀ i < registry.count,
        (registry.register granted descriptor).registry.records i = registry.records i := by
  obtain ⟨failure, hFailure⟩ := hFails
  unfold RegistrySlots.register at hFailure ⊢
  cases hGrow : registry.grow granted.records with
  | error => exact ⟨rfl, fun i _ => rfl⟩
  | ok grown =>
      obtain ⟨hRecords, hCount⟩ := grow_ok hGrow
      rw [hGrow] at hFailure
      dsimp only at hFailure ⊢
      split at hFailure
      case h_2 => cases hFailure
      case h_1 =>
        refine ⟨hCount, fun i hLt => ?_⟩
        rw [← hRecords]
        exact Function.update_of_ne (by omega) _ _

/-- A failed registration destroys nothing, or has undone an assignment. -/
theorem register_destroyed (hFails : Fails registry descriptor granted) :
    (registry.register granted descriptor).destroyed = [] ∨
      (¬ descriptor.Refused ∧ descriptor.Copies ∧
        (registry.register granted descriptor).destroyed = descriptor.destroyCalls) := by
  obtain ⟨failure, hFailure⟩ := hFails
  unfold RegistrySlots.register at hFailure ⊢
  cases hGrow : registry.grow granted.records with
  | error => exact .inl rfl
  | ok grown =>
      rw [hGrow] at hFailure
      dsimp only at hFailure ⊢
      split at hFailure
      case h_2 => cases hFailure
      case h_1 hResult =>
        cases assign_ends granted descriptor (grown.records grown.count) with
        | refused _ hDestroyed => exact .inl hDestroyed
        | undone hAdmitted hCopies hDestroyed _ => exact .inr ⟨hAdmitted, hCopies, hDestroyed⟩
        | assigned _ hOk => rw [hOk] at hResult; cases hResult

/-- With something to copy, an admitted descriptor is undone for want of memory. -/
theorem register_starved (registry : RegistrySlots D F P) (hAdmitted : ¬ descriptor.Refused) (hCopies : descriptor.Copies) :
    Fails registry descriptor .starved ∧
      (registry.register .starved descriptor).destroyed = descriptor.destroyCalls := by
  obtain ⟨grown, hGrow⟩ := grow_granted registry
  have hFailed := assign_starved_fails (grown.records grown.count) hCopies
  have hEnds := assign_ends .starved descriptor (grown.records grown.count)
  unfold Fails RegistrySlots.register
  rw [show RegistrationAllocations.starved.records = true from rfl, hGrow]
  dsimp only
  cases hEnds with
  | refused hRefused _ => exact absurd hRefused hAdmitted
  | assigned _ hOk => exact absurd hOk hFailed
  | undone _ _ hDestroyed hResult =>
      obtain ⟨failure, hResult⟩ := hResult
      rw [hResult]
      exact ⟨⟨failure, rfl⟩, hDestroyed⟩

omit [CDouble D] in
theorem destroyCalls_eq_nil_iff : descriptor.destroyCalls = [] ↔ descriptor.destroy = none := by
  unfold SimOperatorDescriptor.destroyCalls
  cases descriptor.destroy <;> simp

theorem NeverUndone.destroyed (hNever : descriptor.NeverUndone)
    (hFails : Fails registry descriptor granted) :
    (registry.register granted descriptor).destroyed = [] := by
  cases register_destroyed hFails with
  | inl hNone => exact hNone
  | inr hUndone =>
      obtain ⟨hAdmitted, hCopies, hDestroyed⟩ := hUndone
      obtain hNull | hRefused | hNothing := hNever
      case inl => rw [hDestroyed, destroyCalls_eq_nil_iff.mpr hNull]
      case inr.inl => exact absurd hRefused hAdmitted
      case inr.inr => exact absurd hCopies hNothing

omit [CDouble D] in
theorem not_neverUndone (hUndone : ¬ descriptor.NeverUndone) :
    (∃ destroy, descriptor.destroy = some destroy) ∧ ¬ descriptor.Refused ∧ descriptor.Copies := by
  unfold SimOperatorDescriptor.NeverUndone at hUndone
  push Not at hUndone
  exact ⟨Option.ne_none_iff_exists'.mp hUndone.1, hUndone.2⟩

/-- A descriptor which may be undone has its payload destroyed on some failing path. -/
theorem starved_destroys (registry : RegistrySlots D F P) (hUndone : ¬ descriptor.NeverUndone) :
    Fails registry descriptor .starved ∧ ∃ destroy,
      (registry.register .starved descriptor).destroyed = [(destroy, descriptor.userdata)] := by
  obtain ⟨⟨destroy, hDestroy⟩, hAdmitted, hCopies⟩ := not_neverUndone hUndone
  obtain ⟨hFails, hDestroyed⟩ := register_starved registry hAdmitted hCopies
  refine ⟨hFails, destroy, ?_⟩
  rw [hDestroyed, SimOperatorDescriptor.destroyCalls, hDestroy]

/-- The operator which `sim_split_register` makes of a substep that reads one field. -/
def splitDescriptor : SimOperatorDescriptor ℤ ℕ ℕ where
  dependencies := []
  readMask := 1
  writeMask := 0
  readIndices := [0]
  writeIndices := []
  name := some [104, 35, 48]
  evaluate := some 0
  destroy := some 1
  userdata := 7
  kernel := none
  saveState := none
  restoreState := none

/-- A registry after `sim_operator_registry_init`, which has no slots. -/
def emptyRegistry : RegistrySlots ℤ ℕ ℕ where
  records := fun _ => (OperatorSlot.describe splitDescriptor []).cleared
  count := 0
  capacity := 0

/-- Who owns the payload is known after every failure, and a caller which frees it
does so once, exactly for the descriptors of which no failure destroys it. -/
theorem registerOwnership_iff (registry : RegistrySlots D F P)
    (descriptor : SimOperatorDescriptor D F P) :
    OwnershipKept registry descriptor ↔ descriptor.NeverUndone := by
  constructor
  case mp =>
    intro hKept
    by_contra hUndone
    obtain ⟨hFails, destroy, hDestroyed⟩ := starved_destroys registry hUndone
    have hReleased := hKept.released .starved hFails
    obtain ⟨failure, hFailure⟩ := hFails
    rw [Registration.releases, hDestroyed, hFailure] at hReleased
    simp at hReleased
  case mpr =>
    intro hNever
    exact
      { count := fun _ hFails => (register_failed hFails).1
        records := fun _ hFails => (register_failed hFails).2
        uniform := .inr fun _ hFails => by simp [NeverUndone.destroyed hNever hFails]
        released := by
          intro granted hFails
          have hDestroyed := NeverUndone.destroyed hNever hFails
          obtain ⟨failure, hFailure⟩ := hFails
          simp [Registration.releases, hDestroyed, hFailure] }

/-- The first substep of an empty context: its payload is released twice if there is no
memory for the read indices, and kept if there is none for the records. -/
theorem splitDescriptor_ownership_lost :
    (emptyRegistry.register .starved splitDescriptor).releases splitDescriptor = [7, 7] ∧
      (emptyRegistry.register { RegistrationAllocations.all with records := false }
        splitDescriptor).releases splitDescriptor = [7] ∧
      ¬ OwnershipKept emptyRegistry splitDescriptor := by
  refine ⟨rfl, rfl, fun hKept => ?_⟩
  cases hKept.uniform with
  | inl hAlways =>
      have hMem := hAlways { RegistrationAllocations.all with records := false } ⟨_, rfl⟩
      exact absurd hMem List.not_mem_nil
  | inr hNone => exact hNone .starved ⟨_, rfl⟩ List.mem_cons_self

/-- With room in the registry, every failure of an admitted descriptor is undone. -/
theorem register_roomy_destroyed (hRoom : registry.count < registry.capacity)
    (hAdmitted : ¬ descriptor.Refused) (hFails : Fails registry descriptor granted) :
    (registry.register granted descriptor).destroyed = descriptor.destroyCalls := by
  obtain ⟨failure, hFailure⟩ := hFails
  have hEnds := assign_ends granted descriptor (registry.records registry.count)
  unfold RegistrySlots.register RegistrySlots.grow at hFailure ⊢
  rw [if_pos hRoom] at hFailure ⊢
  dsimp only at hFailure ⊢
  split at hFailure
  case h_2 => cases hFailure
  case h_1 hResult =>
    cases hEnds with
    | refused hRefused _ => exact absurd hRefused hAdmitted
    | undone _ _ hDestroyed _ => exact hDestroyed
    | assigned _ hOk => rw [hOk] at hResult; cases hResult

/-- A full registry which may not grow destroys nothing. -/
theorem register_full (descriptor : SimOperatorDescriptor D F P) (hFull : ¬ registry.count < registry.capacity)
    (hRefused : granted.records = false) :
    Fails registry descriptor granted ∧ (registry.register granted descriptor).destroyed = [] := by
  have hGrow : registry.grow granted.records = .error .outOfMemory := by
    simp [RegistrySlots.grow, hFull, hRefused]
  unfold Fails RegistrySlots.register
  rw [hGrow]
  exact ⟨⟨_, rfl⟩, rfl⟩

/-- The failing paths agree on whether they destroy the payload if none does, or if the
registry has room, where all of an admitted descriptor do. -/
theorem destroyedUniformly_iff (registry : RegistrySlots D F P)
    (descriptor : SimOperatorDescriptor D F P) :
    DestroyedUniformly registry descriptor ↔
      descriptor.NeverUndone ∨ registry.count < registry.capacity := by
  constructor
  case mp =>
    intro hUniform
    by_contra hNeither
    obtain ⟨hUndone, hFull⟩ := not_or.mp hNeither
    obtain ⟨hStarved, destroy, hDestroyed⟩ := starved_destroys registry hUndone
    obtain ⟨hFails, hNothing⟩ := @register_full _ _ _ _
      { RegistrationAllocations.all with records := false } registry descriptor hFull rfl
    cases hUniform with
    | inl hAlways => simpa [hNothing] using hAlways _ hFails
    | inr hNone => exact hNone .starved hStarved (by simp [hDestroyed])
  case mpr =>
    intro hEither
    by_cases hNever : descriptor.NeverUndone
    case pos => exact .inr fun _ hFails => by simp [NeverUndone.destroyed hNever hFails]
    case neg =>
      obtain ⟨⟨destroy, hDestroy⟩, hAdmitted, -⟩ := not_neverUndone hNever
      apply Or.inl
      intro granted hFails
      rw [register_roomy_destroyed (hEither.resolve_left hNever) hAdmitted hFails,
        SimOperatorDescriptor.destroyCalls, hDestroy]
      simp

end Registration

end Oakfield.Operator
