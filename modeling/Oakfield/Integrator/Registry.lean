import Oakfield.Result
import Mathlib.Data.List.Induction
import Mathlib.Data.List.Nodup
import Mathlib.Logic.Function.Basic

/-! The registry of integrator factories: a table searched by name, whose names are cut to
the size of their storage. -/
namespace Oakfield.Integrator

variable {F : Type}

/-- A C string, by the bytes before its terminator. -/
abbrev CString := List UInt8

/-- `strncmp(left, right, n) == 0`. -/
def strncmpEqual : ℕ → CString → CString → Bool
  | 0, _, _ => true
  | _ + 1, [], [] => true
  | n + 1, a :: left, b :: right => a == b && strncmpEqual n left right
  | _ + 1, _, _ => false

/-- An entry, by the part of its storage up to the terminator. -/
structure IntegratorRegistryEntry (F : Type) where
  name : CString
  create : F
deriving DecidableEq, Repr

structure IntegratorRegistry (F : Type) where
  entries : List (IntegratorRegistryEntry F)
  capacity : ℕ
deriving DecidableEq, Repr

/-- `sizeof(IntegratorRegistryEntry.name)`. -/
def nameSize : ℕ := 32

/-- `integrator_registry_grow`; `granted` is the outcome of `realloc`. -/
def integratorRegistryGrow (registry : IntegratorRegistry F) (granted : Bool) :
    Except SimError Unit × IntegratorRegistry F :=
  if registry.entries.length < registry.capacity then (.ok (), registry)
  else if granted then
    (.ok (), { registry with capacity := if registry.capacity =
      0 then 4 else registry.capacity * 2 })
  else (.error .outOfMemory, registry)

/-- The bytes which `memcpy` and the terminator leave in an entry. -/
def storedName (name : CString) : CString :=
  let length := name.length
  name.take (if length ≥ nameSize then nameSize - 1 else length)

/-- The entry which the search finds for a name. -/
def IntegratorRegistry.find? (registry : IntegratorRegistry F) (name : CString) : Option ℕ :=
  registry.entries.findIdx? fun entry => strncmpEqual nameSize entry.name name

/-- `integrator_registry_register`; `none` stands for a null pointer. -/
def integratorRegistryRegister (registry : IntegratorRegistry F) (name : Option CString)
    (create : Option F) (granted : Bool) : Except SimError Unit × IntegratorRegistry F :=
  match name, create with
  | some name, some create =>
      match registry.find? name with
      | some i =>
          (.ok (), { registry with
            entries := registry.entries.modify i fun entry => { entry with create := create } })
      | none =>
          match integratorRegistryGrow registry granted with
          | (.error e, registry) => (.error e, registry)
          | (.ok (), registry) =>
              (.ok (), { registry with entries := registry.entries ++ [⟨storedName name, create⟩] })
  | _, _ => (.error .invalidArgument, registry)

/-- `integrator_registry_lookup`. -/
def integratorRegistryLookup (registry : IntegratorRegistry F) (name : Option CString) : Option F :=
  match name with
  | none => none
  | some name =>
      (registry.entries.find? fun entry => strncmpEqual nameSize entry.name name).map (·.create)

/-- `integrator_registry_create`; `invoke` is the call of a factory on its configuration and
the integrator to be set up. -/
def integratorRegistryCreate {C O : Type} (invoke : F → C → O → Except SimError Unit × O)
    (registry : IntegratorRegistry F) (name : Option CString) (config : C) (out : Option O) :
    Except SimError Unit × Option O :=
  match name, out with
  | some name, some out =>
      match integratorRegistryLookup registry (some name) with
      | none => (.error .notFound, some out)
      | some factory => (invoke factory config out).map id some
  | _, out => (.error .invalidArgument, out)

/-! ### The map from names to factories -/

/-- One call of `integrator_registry_register`. -/
structure RegisterCall (F : Type) where
  name : Option CString
  create : Option F
  granted : Bool

def RegisterCall.run (registry : IntegratorRegistry F) (call : RegisterCall F) :
    Except SimError Unit × IntegratorRegistry F :=
  integratorRegistryRegister registry call.name call.create call.granted

/-- What a registration is for: a success gives the name its factory. -/
def RegisterCall.effect (call : RegisterCall F) (result : Except SimError Unit)
    (factories : CString → Option F) : CString → Option F :=
  match result, call.name, call.create with
  | .ok (), some name, some create => Function.update factories name (some create)
  | _, _, _ => factories

/-- The registry after the calls, with the map which the successful ones of them stand for. -/
def runRegistrations (calls : List (RegisterCall F)) :
    IntegratorRegistry F × (CString → Option F) :=
  calls.foldl
    (fun state call => ((call.run state.1).2, call.effect (call.run state.1).1 state.2))
    (⟨[], 0⟩, fun _ => none)

/-! ### Names within their storage -/

theorem strncmpEqual_iff {n : ℕ} {left right : CString} (hLeft : left.length < n) :
    strncmpEqual n left right = true ↔ left = right := by
  induction n generalizing left right with
  | zero => exact absurd hLeft (Nat.not_lt_zero _)
  | succ n ih =>
      cases left with
      | nil =>
          cases right with
          | nil => simp [strncmpEqual]
          | cons b right => simp [strncmpEqual]
      | cons a left =>
          cases right with
          | nil => simp [strncmpEqual]
          | cons b right =>
              rw [strncmpEqual, Bool.and_eq_true, beq_iff_eq, ih (Nat.lt_of_succ_lt_succ hLeft),
                List.cons.injEq]

theorem storedName_length (name : CString) : (storedName name).length < nameSize := by
  rw [storedName, List.length_take]
  unfold nameSize
  split_ifs <;> omega

theorem storedName_of_short {name : CString} (hShort : name.length < nameSize) :
    storedName name = name := by
  rw [storedName, if_neg (Nat.not_le.mpr hShort), List.take_length]

/-- Stored names fit their storage, and no two entries have the same one. -/
structure IntegratorRegistry.Tidy (registry : IntegratorRegistry F) : Prop where
  short : ∀ entry ∈ registry.entries, entry.name.length < nameSize
  nodup : (registry.entries.map (·.name)).Nodup

theorem IntegratorRegistry.Tidy.equal_iff {registry : IntegratorRegistry F} (hTidy : registry.Tidy)
    {entry : IntegratorRegistryEntry F} (hMem : entry ∈ registry.entries) (name : CString) :
    strncmpEqual nameSize entry.name name = true ↔ entry.name = name :=
  strncmpEqual_iff (hTidy.short entry hMem)

/-- A lookup gives the factory of the entry with the name. -/
theorem IntegratorRegistry.Tidy.lookup_iff {registry : IntegratorRegistry F}
    (hTidy : registry.Tidy) (name : CString) (create : F) :
    integratorRegistryLookup registry (some name) = some create ↔
      ⟨name, create⟩ ∈ registry.entries := by
  rw [integratorRegistryLookup, Option.map_eq_some_iff]
  constructor
  · rintro ⟨entry, hFound, rfl⟩
    have hMem := List.mem_of_find?_eq_some hFound
    have hName := (hTidy.equal_iff hMem name).mp
      (List.find?_some (p := fun entry : IntegratorRegistryEntry F =>
        strncmpEqual nameSize entry.name name) hFound)
    exact hName ▸ hMem
  · intro hMem
    have hEqual : strncmpEqual nameSize name name = true := (hTidy.equal_iff hMem name).mpr rfl
    obtain ⟨entry, hFound⟩ := Option.isSome_iff_exists.mp
      (List.find?_isSome.mpr ⟨_, hMem, hEqual⟩ : (registry.entries.find? fun entry =>
        strncmpEqual nameSize entry.name name).isSome)
    have hMem' := List.mem_of_find?_eq_some hFound
    have hName := (hTidy.equal_iff hMem' name).mp
      (List.find?_some (p := fun entry : IntegratorRegistryEntry F =>
        strncmpEqual nameSize entry.name name) hFound)
    have hSame : entry = ⟨name, create⟩ := List.inj_on_of_nodup_map hTidy.nodup hMem' hMem hName
    exact ⟨entry, hFound, congrArg _ hSame⟩

theorem IntegratorRegistry.Tidy.find?_eq_none_iff {registry : IntegratorRegistry F}
    (hTidy : registry.Tidy) (name : CString) :
    registry.find? name = none ↔ ∀ entry ∈ registry.entries, entry.name ≠ name := by
  rw [IntegratorRegistry.find?, List.findIdx?_eq_none_iff]
  refine forall₂_congr fun entry hMem => ?_
  rw [← Bool.not_eq_true, hTidy.equal_iff hMem]

/-- Replacing a factory through the index which the search gives is replacing it in the
entry with the name. -/
theorem IntegratorRegistry.Tidy.modify_eq {registry : IntegratorRegistry F}
    (hTidy : registry.Tidy) {name : CString} {i : ℕ} (hFound : registry.find? name = some i)
    (create : F) :
    registry.entries.modify i (fun entry => { entry with create := create }) =
      registry.entries.map fun entry =>
        if entry.name = name then { entry with create := create } else entry := by
  obtain ⟨hLt, hName, -⟩ := List.findIdx?_eq_some_iff_getElem.mp hFound
  rw [hTidy.equal_iff (List.getElem_mem hLt)] at hName
  apply List.ext_getElem?
  intro j
  rw [List.getElem?_modify, List.getElem?_map]
  cases hEntry : registry.entries[j]? with
  | none => rfl
  | some entry =>
      obtain ⟨hLt', hEq⟩ := List.getElem?_eq_some_iff.mp hEntry
      have hSame : i = j ↔ entry.name = name := by
        constructor
        · rintro rfl
          rw [← hEq, hName]
        · intro hOther
          have hNames : (registry.entries.map (·.name))[i]? =
              (registry.entries.map (·.name))[j]? := by
            rw [List.getElem?_map, List.getElem?_map, List.getElem?_eq_getElem hLt, hEntry,
              Option.map_some, Option.map_some, hName, hOther]
          exact (List.getElem?_inj (by rwa [List.length_map]) hTidy.nodup).mp hNames
      rw [Option.map_some, Option.map_eq_map, Option.map_some]
      exact congrArg some (if_congr hSame rfl rfl)

theorem RegisterCall.effect_ok (name : CString) (create : F) (granted : Bool)
    (factories : CString → Option F) :
    RegisterCall.effect ⟨some name, some create, granted⟩ (.ok ()) factories =
      Function.update factories name (some create) := rfl

theorem ite_name_name (name : CString) (create : F) (entry : IntegratorRegistryEntry F) :
    (if entry.name = name then { entry with create := create } else entry).name = entry.name := by
  split_ifs <;> rfl

theorem grow_spec (registry : IntegratorRegistry F) (granted : Bool) :
    (integratorRegistryGrow registry granted).2.entries = registry.entries ∧
      ((integratorRegistryGrow registry granted).1 ≠ .ok () →
        (integratorRegistryGrow registry granted).2 = registry) := by
  unfold integratorRegistryGrow
  split_ifs
  · exact ⟨rfl, fun _ => rfl⟩
  · exact ⟨rfl, fun hError => absurd rfl hError⟩
  · exact ⟨rfl, fun hError => absurd rfl hError⟩
  · exact ⟨rfl, fun _ => rfl⟩

/-- One registration of a name which fits: the registry stays tidy, an error changes
nothing, and a success changes the factory of the one name. -/
theorem IntegratorRegistry.Tidy.register {registry : IntegratorRegistry F} (hTidy : registry.Tidy)
    (call : RegisterCall F) (hShort : ∀ name, call.name = some name → name.length < nameSize) :
    (call.run registry).2.Tidy ∧
      ((call.run registry).1 ≠ .ok () → (call.run registry).2 = registry) ∧
      ∀ other, integratorRegistryLookup (call.run registry).2 (some other) =
        call.effect (call.run registry).1
          (fun name => integratorRegistryLookup registry (some name))
          other := by
  obtain ⟨callName, callCreate, granted⟩ := call
  unfold RegisterCall.run integratorRegistryRegister
  cases callName with
  | none => exact ⟨hTidy, fun _ => rfl, fun _ => rfl⟩
  | some name =>
  cases callCreate with
  | none => exact ⟨hTidy, fun _ => rfl, fun _ => rfl⟩
  | some create =>
  have hFits : name.length < nameSize := hShort name rfl
  dsimp only
  cases hFound : registry.find? name with
  | some i =>
      dsimp only
      rw [hTidy.modify_eq hFound]
      have hAfter : IntegratorRegistry.Tidy ⟨registry.entries.map fun entry =>
          if entry.name = name then { entry with create := create } else entry,
          registry.capacity⟩ := by
        constructor
        · intro entry hMem
          obtain ⟨old, hOld, rfl⟩ := List.mem_map.mp hMem
          rw [ite_name_name]
          exact hTidy.short old hOld
        · rw [List.map_map]
          have hNames : (·.name) ∘ (fun entry : IntegratorRegistryEntry F =>
              if entry.name = name then { entry with create := create } else entry) = (·.name) :=
            funext fun entry => ite_name_name name create entry
          rw [hNames]
          exact hTidy.nodup
      refine ⟨hAfter, fun hError => absurd rfl hError, fun other => Option.ext fun found => ?_⟩
      rw [hAfter.lookup_iff, RegisterCall.effect_ok, List.mem_map]
      by_cases hOther : other = name
      · subst hOther
        rw [Function.update_self, Option.some.injEq]
        constructor
        · rintro ⟨old, -, hOld⟩
          have hName : old.name = other :=
            (ite_name_name other create old).symm.trans (congrArg (·.name) hOld)
          rw [if_pos hName] at hOld
          exact congrArg (·.create) hOld
        · rintro rfl
          obtain ⟨hLt, hName, -⟩ := List.findIdx?_eq_some_iff_getElem.mp hFound
          rw [hTidy.equal_iff (List.getElem_mem hLt)] at hName
          refine ⟨_, List.getElem_mem hLt, ?_⟩
          rw [if_pos hName, hName]
      · rw [Function.update_of_ne hOther, hTidy.lookup_iff]
        constructor
        · rintro ⟨old, hOld, hEq⟩
          have hName : old.name = other :=
            (ite_name_name name create old).symm.trans (congrArg (·.name) hEq)
          rw [if_neg (hName ▸ hOther)] at hEq
          exact hEq ▸ hOld
        · intro hMem
          exact ⟨_, hMem, if_neg hOther⟩
  | none =>
      have hAbsent := (hTidy.find?_eq_none_iff name).mp hFound
      obtain ⟨hEntries, hError⟩ := grow_spec registry granted
      dsimp only
      cases hGrow : integratorRegistryGrow registry granted with
      | mk result grown =>
      rw [hGrow] at hEntries hError
      cases result with
      | error e =>
          have hSame : grown = registry := hError fun hOk => (nomatch hOk)
          exact ⟨hSame ▸ hTidy, fun _ => hSame, fun _ => by rw [hSame]; rfl⟩
      | ok u =>
          dsimp only at hEntries ⊢
          rw [hEntries, storedName_of_short hFits]
          have hAfter : IntegratorRegistry.Tidy
              ⟨registry.entries ++ [⟨name, create⟩], grown.capacity⟩ := by
            constructor
            · intro entry hMem
              rcases List.mem_append.mp hMem with hOld | hNew
              · exact hTidy.short entry hOld
              · rw [List.mem_singleton.mp hNew]
                exact hFits
            · rw [List.map_append, List.map_singleton, ← List.concat_eq_append]
              refine List.Nodup.concat (fun hMem => ?_) hTidy.nodup
              obtain ⟨old, hOld, hName⟩ := List.mem_map.mp hMem
              exact hAbsent old hOld hName
          refine ⟨hAfter, fun hResult => absurd rfl hResult, fun other =>
            Option.ext fun found => ?_⟩
          rw [hAfter.lookup_iff, RegisterCall.effect_ok, List.mem_append, List.mem_singleton,
            IntegratorRegistryEntry.mk.injEq]
          by_cases hOther : other = name
          · subst hOther
            rw [Function.update_self, Option.some.injEq,
              or_iff_right fun hMem => hAbsent _ hMem rfl, and_iff_right rfl, eq_comm]
          · rw [Function.update_of_ne hOther, hTidy.lookup_iff,
              or_iff_left fun hNew => hOther hNew.1]

/-- After registrations of names which fit, the lookups are the map which the successful
registrations stand for. -/
theorem runRegistrations_spec (calls : List (RegisterCall F))
    (hShort : ∀ call ∈ calls, ∀ name, call.name = some name → name.length < nameSize) :
    (runRegistrations calls).1.Tidy ∧
      ∀ name, integratorRegistryLookup (runRegistrations calls).1 (some name) =
        (runRegistrations calls).2 name := by
  induction calls using List.reverseRecOn with
  | nil => exact ⟨⟨fun _ hMem => (nomatch hMem), List.nodup_nil⟩, fun _ => rfl⟩
  | append_singleton calls call ih =>
      obtain ⟨hTidy, hMap⟩ := ih fun call hMem => hShort call (List.mem_append_left _ hMem)
      obtain ⟨hAfter, -, hLookup⟩ := hTidy.register call
        (hShort call (List.mem_append_right _ List.mem_cons_self))
      rw [runRegistrations, List.foldl_append, List.foldl_cons, List.foldl_nil, ← runRegistrations]
      refine ⟨hAfter, fun name => ?_⟩
      rw [hLookup, funext hMap]

/-! ### Names beyond their storage -/

/-- A registration which fails changes nothing, whatever the name. -/
theorem run_of_error (registry : IntegratorRegistry F) (call : RegisterCall F)
    (hError : (call.run registry).1 ≠ .ok ()) : (call.run registry).2 = registry := by
  obtain ⟨name, create, granted⟩ := call
  unfold RegisterCall.run integratorRegistryRegister at hError ⊢
  cases name with
  | none => rfl
  | some name =>
  cases create with
  | none => rfl
  | some create =>
  dsimp only at hError ⊢
  cases hFound : registry.find? name with
  | some i =>
      rw [hFound] at hError
      exact absurd rfl hError
  | none =>
      rw [hFound] at hError
      dsimp only at hError ⊢
      obtain ⟨-, hSame⟩ := grow_spec registry granted
      cases hGrow : integratorRegistryGrow registry granted with
      | mk result grown =>
      rw [hGrow] at hError hSame
      cases result with
      | error e => exact hSame fun hOk => (nomatch hOk)
      | ok u => exact absurd rfl hError

/-- A name which does not fit is not found among stored ones. -/
theorem lookup_of_long {registry : IntegratorRegistry F}
    (hStored : ∀ entry ∈ registry.entries, entry.name.length < nameSize) {name : CString}
    (hLong : nameSize ≤ name.length) : integratorRegistryLookup registry (some name) = none := by
  rw [integratorRegistryLookup, Option.map_eq_none_iff, List.find?_eq_none]
  intro entry hMem
  rw [strncmpEqual_iff (hStored entry hMem)]
  rintro rfl
  exact absurd (hStored entry hMem) (Nat.not_lt.mpr hLong)

/-- Registering a name which does not fit adds an entry under the part which does. -/
theorem run_of_long {registry : IntegratorRegistry F}
    (hStored : ∀ entry ∈ registry.entries, entry.name.length < nameSize) {name : CString}
    (hLong : nameSize ≤ name.length) (create : F) (granted : Bool)
    (hOk : ((⟨some name, some create, granted⟩ : RegisterCall F).run registry).1 = .ok ()) :
    ((⟨some name, some create, granted⟩ : RegisterCall F).run registry).2.entries =
      registry.entries ++ [⟨name.take (nameSize - 1), create⟩] := by
  have hAbsent : registry.find? name = none := by
    rw [IntegratorRegistry.find?, List.findIdx?_eq_none_iff]
    intro entry hMem
    rw [← Bool.not_eq_true, strncmpEqual_iff (hStored entry hMem)]
    rintro rfl
    exact absurd (hStored entry hMem) (Nat.not_lt.mpr hLong)
  unfold RegisterCall.run integratorRegistryRegister at hOk ⊢
  dsimp only at hOk ⊢
  rw [hAbsent] at hOk ⊢
  obtain ⟨hEntries, -⟩ := grow_spec registry granted
  dsimp only at hOk ⊢
  cases hGrow : integratorRegistryGrow registry granted with
  | mk result grown =>
  rw [hGrow] at hOk hEntries
  cases result with
  | error e => cases hOk
  | ok u =>
      dsimp only at hEntries ⊢
      rw [hEntries, storedName, if_pos hLong]

/-- After registrations of names which fit, lookups are the map from each name to the
factory registered last for it, with one entry for a name. From there a failing
registration changes nothing, and a successful one is an update of the map exactly when its
name fits. -/
theorem integratorRegistry_isMap (calls : List (RegisterCall F))
    (hShort : ∀ call ∈ calls, ∀ name, call.name = some name → name.length < nameSize)
    (registry : IntegratorRegistry F) (factories : CString → Option F)
    (hRun : runRegistrations calls = (registry, factories)) {C O : Type}
    (invoke : F → C → O → Except SimError Unit × O) :
    (∀ name, integratorRegistryLookup registry (some name) = factories name) ∧
      (∀ name config out, integratorRegistryCreate invoke registry (some name) config (some out) =
        ((factories name).elim (.error .notFound, some out)
          fun factory => (invoke factory config out).map id some)) ∧
      (registry.entries.map (·.name)).Nodup ∧
      (∀ call : RegisterCall F, (call.run registry).1 ≠ .ok () → (call.run registry).2 = registry) ∧
      ∀ name create granted,
        ((⟨some name, some create, granted⟩ : RegisterCall F).run registry).1 = .ok () →
        ((∀ other, integratorRegistryLookup
            ((⟨some name, some create, granted⟩ : RegisterCall F).run registry).2 (some other) =
              Function.update factories name (some create) other) ↔ name.length < nameSize) := by
  obtain ⟨hTidy, hMap⟩ := runRegistrations_spec calls hShort
  rw [hRun] at hTidy hMap
  dsimp only at hTidy hMap
  have hCreate (name : CString) (config : C) (out : O) :
      integratorRegistryCreate invoke registry (some name) config (some out) =
        ((factories name).elim (.error .notFound, some out)
          fun factory => (invoke factory config out).map id some) := by
    rw [integratorRegistryCreate, hMap]
    cases factories name <;> rfl
  refine ⟨hMap, hCreate, hTidy.nodup, run_of_error registry,
    fun name create granted hOk => ⟨?_, ?_⟩⟩
  · intro hUpdated
    by_contra hLong
    rw [Nat.not_lt] at hLong
    have hStored : ∀ entry ∈
        ((⟨some name, some create, granted⟩ : RegisterCall F).run registry).2.entries,
        entry.name.length < nameSize := by
      rw [run_of_long hTidy.short hLong create granted hOk]
      intro entry hMem
      rcases List.mem_append.mp hMem with hOld | hNew
      · exact hTidy.short entry hOld
      · rw [List.mem_singleton.mp hNew, List.length_take]
        unfold nameSize
        omega
    have hLost := hUpdated name
    rw [lookup_of_long hStored hLong, Function.update_self] at hLost
    cases hLost
  · intro hFits other
    obtain ⟨-, -, hLookup⟩ := hTidy.register ⟨some name, some create, granted⟩
      (fun name' hName => Option.some.inj hName ▸ hFits)
    rw [hLookup, hOk, RegisterCall.effect_ok, funext hMap]

theorem integratorRegistry_isMap_heun :
    (∀ call ∈ [(⟨some [104, 101, 117, 110], some 1, true⟩ : RegisterCall ℕ)],
      ∀ name, call.name = some name → name.length < nameSize) ∧
    ((runRegistrations [⟨some [104, 101, 117, 110], some 1, true⟩]).1.entries.map
    (·.name)).Nodup := by
  have hShort : ∀ call ∈ [(⟨some [104, 101, 117, 110], some 1, true⟩ : RegisterCall ℕ)],
      ∀ name, call.name = some name → name.length < nameSize := by
    intro call hMem name hName
    rw [List.mem_singleton.mp hMem, Option.some.injEq] at hName
    rw [← hName]
    decide
  exact ⟨hShort, (integratorRegistry_isMap _ hShort _ _ rfl
    (fun _ (_ : Unit) (out : Unit) => (.ok (), out))).2.2.1⟩

/-- A name of 32 bytes is registered twice, is not found, and is found under its first 31
bytes instead. -/
theorem longName_lost :
    let name : CString := List.replicate 32 97
    let calls : List (RegisterCall ℕ) := [⟨some name, some 1, true⟩, ⟨some name, some 2, true⟩]
    ((⟨some name, some 1, true⟩ : RegisterCall ℕ).run ⟨[], 0⟩).1 = .ok () ∧
      integratorRegistryLookup (runRegistrations calls).1 (some name) = none ∧
      (runRegistrations calls).2 name = some 2 ∧
      ¬((runRegistrations calls).1.entries.map (·.name)).Nodup ∧
      integratorRegistryLookup (runRegistrations calls).1 (some (name.take 31)) = some 1 ∧
      (runRegistrations calls).2 (name.take 31) = none := by
  refine ⟨rfl, by decide, by decide, by decide, by decide, by decide⟩

end Oakfield.Integrator
