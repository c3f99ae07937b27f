import Oakfield.KernelIR.CDouble
import Mathlib.Data.List.Basic
import Mathlib.Data.Nat.Notation

/-! Scratch arrays of real and of complex elements under one capacity. -/
namespace Oakfield

variable {α D : Type}

/-! ### Reallocation -/

/-- The slots of an array; one that was never written is `none`. -/
abbrev ScratchSlots (α : Type) := List (Option α)

/-- `realloc` to `count * elementSize` bytes, a product in `size_t`: the slots of the new block,
which start with those of the old one. -/
def reallocSlots (elementSize count : ℕ) (granted : Bool) (slots : ScratchSlots α) :
    Option (ScratchSlots α) :=
  let room := count * elementSize % 2 ^ 64 / elementSize
  if granted then some (slots.take room ++ List.replicate (room - slots.length) none) else none

theorem length_of_reallocSlots {elementSize count : ℕ} {granted : Bool}
    {slots resized : ScratchSlots α}
    (hResized : reallocSlots elementSize count granted slots = some resized) :
    resized.length = count * elementSize % 2 ^ 64 / elementSize := by
  unfold reallocSlots at hResized
  cases granted with
  | false => exact (nomatch hResized)
  | true =>
      obtain rfl := Option.some.inj hResized
      rw [List.length_append, List.length_take, List.length_replicate]
      omega

theorem getElem?_of_reallocSlots {elementSize count : ℕ} {granted : Bool}
    {slots resized : ScratchSlots α}
    (hResized : reallocSlots elementSize count granted slots = some resized) {i : ℕ}
    (hOld : i < slots.length) (hNew : i < resized.length) : resized[i]? = slots[i]? := by
  have hLength := length_of_reallocSlots hResized
  unfold reallocSlots at hResized
  cases granted with
  | false => exact (nomatch hResized)
  | true =>
      obtain rfl := Option.some.inj hResized
      rw [hLength] at hNew
      have hTaken : i < (slots.take (count * elementSize % 2 ^ 64 / elementSize)).length := by
        rw [List.length_take]
        omega
      rw [List.getElem?_append_left hTaken, List.getElem?_take_of_lt hNew]

theorem getElem?_of_reallocSlots_new {elementSize count : ℕ} {granted : Bool}
    {slots resized : ScratchSlots α}
    (hResized : reallocSlots elementSize count granted slots = some resized) {i : ℕ}
    (hOld : slots.length ≤ i) (hNew : i < resized.length) : resized[i]? = some none := by
  have hLength := length_of_reallocSlots hResized
  unfold reallocSlots at hResized
  cases granted with
  | false => exact (nomatch hResized)
  | true =>
      obtain rfl := Option.some.inj hResized
      rw [hLength] at hNew
      rw [List.getElem?_append_right (by rw [List.length_take]; omega), List.length_take,
        List.getElem?_replicate, if_pos (by omega)]

/-! ### The noise source -/

/-- The arrays and the capacity which are passed to `sim_noise_source_ensure_capacity`. -/
structure NoiseState (D : Type) where
  realState : Option (ScratchSlots D)
  complexState : Option (ScratchSlots (D × D))
  capacity : ℕ

/-- A request: the count of elements, their kind, and whether an allocation is granted. -/
structure CapacityRequest where
  count : ℕ
  isComplex : Bool
  granted : Bool
deriving DecidableEq, Repr

/-- The branch for one of the arrays. -/
def growState (elementSize : ℕ) (zero : α) (request : CapacityRequest) (capacity : ℕ)
    (state : Option (ScratchSlots α)) : Except SimError (Option (ScratchSlots α)) :=
  if state.isNone ∨ capacity < request.count then
    let start := if state.isSome then capacity else 0
    match reallocSlots elementSize request.count request.granted (state.getD []) with
    | none => .error .outOfMemory
    | some resized =>
        .ok (some (resized.mapIdx fun i slot =>
          if start ≤ i ∧ i < request.count then some zero else slot))
  else .ok state

/-- `sim_noise_source_ensure_capacity`. -/
def simNoiseSourceEnsureCapacity [CDouble D] (state : NoiseState D) (request : CapacityRequest) :
    NoiseState D × Except SimError Unit :=
  if request.count = 0 then (⟨none, none, 0⟩, .ok ())
  else
    let capacity := if state.capacity < request.count then request.count else state.capacity
    if request.isComplex then
      match growState 16 (CDouble.zero, CDouble.zero) request state.capacity state.complexState with
      | .error failure => (state, .error failure)
      | .ok resized => ({ state with complexState := resized, capacity := capacity }, .ok ())
    else
      match growState 8 CDouble.zero request state.capacity state.realState with
      | .error failure => (state, .error failure)
      | .ok resized => ({ state with realState := resized, capacity := capacity }, .ok ())

/-! ### The sieve -/

/-- The scratch arrays of a `SimSieveOperatorState`. -/
structure SieveScratch (D : Type) where
  scratch : Option (ScratchSlots D)
  scratchComplex : Option (ScratchSlots (D × D))
  scratchCapacity : ℕ

/-- `sieve_ensure_scratch`. -/
def sieveEnsureScratch (state : SieveScratch D) (request : CapacityRequest) :
    SieveScratch D × Except SimError Unit :=
  if request.count ≤ state.scratchCapacity then (state, .ok ())
  else if request.isComplex then
    match reallocSlots 16 request.count request.granted (state.scratchComplex.getD []) with
    | none => (state, .error .outOfMemory)
    | some resized =>
        ({ state with scratchComplex := some resized, scratchCapacity := request.count }, .ok ())
  else
    match reallocSlots 8 request.count request.granted (state.scratch.getD []) with
    | none => (state, .error .outOfMemory)
    | some resized =>
        ({ state with scratch := some resized, scratchCapacity := request.count }, .ok ())

/-! ### Honest requests -/

/-- The array has a slot for each of `count` elements: those it had before, and zeros. -/
def Grown (count : ℕ) (zero : α) (before after : Option (ScratchSlots α)) : Prop :=
  ∃ slots, after = some slots ∧ count ≤ slots.length ∧
    (∀ i < (before.getD []).length, slots[i]? = (before.getD [])[i]?) ∧
    ∀ i < slots.length, (before.getD []).length ≤ i → slots[i]? = some (some zero)

/-- What a request for some elements finds in the noise source. A request for none releases
the arrays. -/
def NoiseState.Honest [CDouble D] (before : NoiseState D) (request : CapacityRequest)
    (after : NoiseState D) : Prop :=
  request.count = 0 ∨
    if request.isComplex then
      Grown request.count (CDouble.zero, CDouble.zero) before.complexState after.complexState ∧
        after.realState = before.realState
    else
      Grown request.count CDouble.zero before.realState after.realState ∧
        after.complexState = before.complexState

/-- What a request for some elements finds in the sieve. -/
def SieveScratch.Honest (request : CapacityRequest) (after : SieveScratch D) : Prop :=
  request.count = 0 ∨
    if request.isComplex then ∃ slots, after.scratchComplex = some slots ∧
      request.count ≤ slots.length
    else ∃ slots, after.scratch = some slots ∧ request.count ≤ slots.length

/-- The largest count of each kind that was granted since the arrays were released. -/
structure LargestRequests where
  real : ℕ
  complex : ℕ

namespace LargestRequests

def own (largest : LargestRequests) (request : CapacityRequest) : ℕ :=
  if request.isComplex then largest.complex else largest.real

def other (largest : LargestRequests) (request : CapacityRequest) : ℕ :=
  if request.isComplex then largest.real else largest.complex

def raise (largest : LargestRequests) (request : CapacityRequest) : LargestRequests :=
  if request.isComplex then { largest with complex := max largest.complex request.count }
  else { largest with real := max largest.real request.count }

end LargestRequests

/-- The bytes of a request fit into a `size_t`. -/
def CapacityRequest.Fits (request : CapacityRequest) : Prop :=
  request.count * (if request.isComplex then 16 else 8) < 2 ^ 64

/-- A request of the noise source which exceeds all of its kind is the first of its kind, or
the other kind has asked for no more than its kind. -/
def noiseRequestMeets (largest : LargestRequests) (request : CapacityRequest) : Prop :=
  request.count ≤ largest.own request ∨
    request.Fits ∧ (largest.own request = 0 ∨ largest.other request ≤ largest.own request)

/-- A request of the sieve which exceeds all of its kind exceeds all of the other kind. -/
def sieveRequestMeets (largest : LargestRequests) (request : CapacityRequest) : Prop :=
  request.count ≤ largest.own request ∨ request.Fits ∧ largest.other request < request.count

/-! ### One array -/

/-- An array with this many slots, `NULL` where there are none. -/
structure HasSlots (slots : ℕ) (state : Option (ScratchSlots α)) : Prop where
  length : (state.getD []).length = slots
  isSome_iff : state.isSome = true ↔ slots ≠ 0

/-- The block is as large as requested exactly when its bytes fit. -/
theorem count_le_room_iff {elementSize count : ℕ} (hSize : 0 < elementSize) :
    count ≤ count * elementSize % 2 ^ 64 / elementSize ↔ count * elementSize < 2 ^ 64 := by
  constructor
  · intro hRoom
    have hBytes := Nat.mul_le_of_le_div _ _ _ hRoom
    exact Nat.lt_of_le_of_lt hBytes (Nat.mod_lt _ (Nat.two_pow_pos 64))
  · intro hFits
    rw [Nat.mod_eq_of_lt hFits, Nat.mul_div_cancel _ hSize]

/-- A new block has the requested slots exactly when its bytes fit. -/
theorem reallocSlots_spec {elementSize count : ℕ} (hSize : 0 < elementSize) (hCount : count ≠ 0)
    {granted : Bool} {slots resized : ScratchSlots α}
    (hResized : reallocSlots elementSize count granted slots = some resized) :
    ((∃ present, some resized = some present ∧ count ≤ present.length) ↔
      count * elementSize < 2 ^ 64) ∧
    (count * elementSize < 2 ^ 64 → HasSlots count (some resized)) := by
  have hLength := length_of_reallocSlots hResized
  constructor
  · rw [← count_le_room_iff hSize, ← hLength]
    constructor
    · rintro ⟨present, hPresent, hEnough⟩
      obtain rfl := Option.some.inj hPresent
      exact hEnough
    · exact fun hEnough => ⟨resized, rfl, hEnough⟩
  · intro hFits
    refine ⟨?_, iff_of_true rfl hCount⟩
    rw [Option.getD_some, hLength, Nat.mod_eq_of_lt hFits, Nat.mul_div_cancel _ hSize]

/-- The branch for one array of the noise source: when it is honest, and what it leaves then. -/
theorem growState_spec {elementSize own other : ℕ} (hSize : 0 < elementSize) {zero : α}
    {request : CapacityRequest} (hCount : request.count ≠ 0)
    {state resized : Option (ScratchSlots α)} (hState : HasSlots own state)
    (hGrow : growState elementSize zero request (max own other) state = .ok resized) :
    (Grown request.count zero state resized ↔ request.count ≤ own ∨
      request.count * elementSize < 2 ^ 64 ∧ (own = 0 ∨ other ≤ own)) ∧
    (Grown request.count zero state resized → HasSlots (max own request.count) resized) := by
  have hLength := hState.length
  have hPresent := hState.isSome_iff
  unfold growState at hGrow
  by_cases hGrows : state.isNone ∨ max own other < request.count
  · rw [if_pos hGrows] at hGrow
    have hExceeds : own < request.count := by
      rcases hGrows with hNone | hLess
      · have hEmpty : own = 0 := by
          by_contra hSome
          rw [Option.isNone_iff_eq_none.mp hNone] at hPresent
          exact Bool.false_ne_true (hPresent.mpr hSome)
        omega
      · omega
    cases hRealloc : reallocSlots elementSize request.count request.granted (state.getD []) with
    | none =>
        rw [hRealloc] at hGrow
        exact (nomatch hGrow)
    | some block =>
        rw [hRealloc] at hGrow
        obtain rfl := Except.ok.inj hGrow
        have hRoom := length_of_reallocSlots hRealloc
        have hFits : request.count ≤ block.length ↔ request.count * elementSize < 2 ^ 64 := by
          rw [hRoom]
          exact count_le_room_iff hSize
        constructor
        · constructor
          · rintro ⟨slots, hSlots, hEnough, -, hNew⟩
            obtain rfl := Option.some.inj hSlots
            rw [List.length_mapIdx] at hEnough hNew
            refine .inr ⟨hFits.mp hEnough, ?_⟩
            by_contra hOther
            rw [not_or, Nat.not_le] at hOther
            -- The first new slot is behind the old array, and before the recorded capacity.
            have hFirst := hNew own (by omega) (Nat.le_of_eq hLength)
            have hBlock : block[own]? = some none :=
              getElem?_of_reallocSlots_new hRealloc (Nat.le_of_eq hLength) (by omega)
            rw [List.getElem?_mapIdx, hBlock, hPresent.mpr hOther.1, if_pos rfl, Option.map_some,
              if_neg (by omega)] at hFirst
            exact (nomatch hFirst)
          · rintro (hLess | ⟨hBytes, hHonest⟩)
            · omega
            · have hStart : (if state.isSome then max own other else 0) = own := by
                split_ifs with hSome
                · have hOwn := hPresent.mp hSome
                  omega
                · by_contra hOwn
                  exact hSome (hPresent.mpr fun hZero => hOwn hZero.symm)
              rw [hStart]
              have hEnough := hFits.mpr hBytes
              have hExact : block.length = request.count := by
                rw [hRoom, Nat.mod_eq_of_lt hBytes, Nat.mul_div_cancel _ hSize]
              refine ⟨_, rfl, ?_, fun i hOld => ?_, fun i hSlot hNew => ?_⟩
              · rw [List.length_mapIdx]
                exact hEnough
              · rw [List.getElem?_mapIdx, getElem?_of_reallocSlots hRealloc hOld (by omega),
                  List.getElem?_eq_getElem hOld, Option.map_some, if_neg (by omega)]
              · rw [List.length_mapIdx] at hSlot
                rw [List.getElem?_mapIdx, List.getElem?_eq_getElem hSlot, Option.map_some,
                  if_pos (by omega)]
        · rintro ⟨slots, hSlots, hEnough, -, -⟩
          obtain rfl := Option.some.inj hSlots
          rw [List.length_mapIdx] at hEnough
          have hBytes := hFits.mp hEnough
          constructor
          · rw [Option.getD_some, List.length_mapIdx, hRoom, Nat.mod_eq_of_lt hBytes,
              Nat.mul_div_cancel _ hSize]
            omega
          · exact iff_of_true rfl (by omega)
  · rw [if_neg hGrows] at hGrow
    obtain rfl := Except.ok.inj hGrow
    obtain ⟨slots, rfl⟩ : ∃ slots, state = some slots := by
      cases state with
      | none => exact absurd (.inl rfl) hGrows
      | some slots => exact ⟨slots, rfl⟩
    rw [Option.getD_some] at hLength
    have hIff : Grown request.count zero (some slots) (some slots) ↔ request.count ≤ own := by
      constructor
      · rintro ⟨present, hSlots, hEnough, -, -⟩
        obtain rfl := Option.some.inj hSlots
        omega
      · intro hEnough
        exact ⟨slots, rfl, by omega, fun _ _ => rfl, fun i hSlot hNew =>
          absurd hSlot (Nat.not_lt.mpr hNew)⟩
    refine ⟨hIff.trans ⟨.inl, ?_⟩, fun hGrown => ?_⟩
    · have hOwn := hPresent.mp rfl
      have hLess := Nat.not_lt.mp (not_or.mp hGrows).2
      rintro (hEnough | ⟨-, hHonest⟩)
      · exact hEnough
      · omega
    · rw [Nat.max_eq_left (hIff.mp hGrown)]
      exact hState

/-! ### Sequences of requests -/

section Runs

variable {State : Type} (ensure : State → CapacityRequest → State × Except SimError Unit)

/-- Every request that returns `OK` is honest. -/
def AllHonest (honest : State → CapacityRequest → State → Prop) :
    State → List CapacityRequest → Prop
  | _, [] => True
  | state, request :: requests =>
      ((ensure state request).2 = .ok () → honest state request (ensure state request).1) ∧
        AllHonest honest (ensure state request).1 requests

/-- Every request that returns `OK` meets a condition on the largest requests before it. -/
def AllMeet (meets : LargestRequests → CapacityRequest → Prop)
    (after : LargestRequests → CapacityRequest → LargestRequests) :
    State → LargestRequests → List CapacityRequest → Prop
  | _, _, [] => True
  | state, largest, request :: requests =>
      match (ensure state request).2 with
      | .ok _ => meets largest request ∧
          AllMeet meets after (ensure state request).1 (after largest request) requests
      | .error _ => AllMeet meets after (ensure state request).1 largest requests

variable {ensure} {honest : State → CapacityRequest → State → Prop}
  {meets : LargestRequests → CapacityRequest → Prop}
  {after : LargestRequests → CapacityRequest → LargestRequests}

/-- Where the arrays have the sizes of the largest requests as long as all requests are honest,
these are honest exactly when they meet the condition. -/
theorem allHonest_iff {tracks : State → LargestRequests → Prop}
    (hOk : ∀ state largest request, tracks state largest → (ensure state request).2 = .ok () →
      (honest state request (ensure state request).1 ↔ meets largest request) ∧
      (meets largest request → tracks (ensure state request).1 (after largest request)))
    (hError : ∀ state largest request failure, tracks state largest →
      (ensure state request).2 = .error failure → tracks (ensure state request).1 largest)
    {state : State} {largest : LargestRequests} (hTracks : tracks state largest)
    (requests : List CapacityRequest) :
    AllHonest ensure honest state requests ↔
      AllMeet ensure meets after state largest requests := by
  induction requests generalizing state largest with
  | nil => exact Iff.rfl
  | cons request requests ih =>
      rw [AllHonest, AllMeet]
      cases hResult : (ensure state request).2 with
      | error failure =>
          have hRest := ih (hError state largest request failure hTracks hResult)
          exact ⟨fun hAll => hRest.mp hAll.2, fun hAll => ⟨nofun, hRest.mpr hAll⟩⟩
      | ok _ =>
          obtain ⟨hIff, hNext⟩ := hOk state largest request hTracks hResult
          constructor
          · rintro ⟨hHonest, hAll⟩
            have hMeets := hIff.mp (hHonest rfl)
            exact ⟨hMeets, (ih (hNext hMeets)).mp hAll⟩
          · rintro ⟨hMeets, hAll⟩
            exact ⟨fun _ => hIff.mpr hMeets, (ih (hNext hMeets)).mpr hAll⟩

end Runs

/-- The arrays of the noise source have the sizes of the largest requests. -/
structure NoiseState.Tracks (state : NoiseState D) (largest : LargestRequests) : Prop where
  realState : HasSlots largest.real state.realState
  complexState : HasSlots largest.complex state.complexState
  capacity : state.capacity = max largest.real largest.complex

/-- Also the largest requests start again when the arrays are released. -/
def noiseLargestAfter (largest : LargestRequests) (request : CapacityRequest) : LargestRequests :=
  if request.count = 0 then ⟨0, 0⟩ else largest.raise request

variable [CDouble D]

theorem simNoiseSourceEnsureCapacity_ok {state : NoiseState D} {largest : LargestRequests}
    {request : CapacityRequest} (hTracks : state.Tracks largest)
    (hOk : (simNoiseSourceEnsureCapacity state request).2 = .ok ()) :
    (state.Honest request (simNoiseSourceEnsureCapacity state request).1 ↔
        noiseRequestMeets largest request) ∧
      (noiseRequestMeets largest request →
        (simNoiseSourceEnsureCapacity state request).1.Tracks
          (noiseLargestAfter largest request)) := by
  by_cases hCount : request.count = 0
  · have hReleased : (simNoiseSourceEnsureCapacity state request).1 = ⟨none, none, 0⟩ := by
      rw [simNoiseSourceEnsureCapacity, if_pos hCount]
    refine ⟨iff_of_true (.inl hCount) (.inl (by omega)), fun _ => ?_⟩
    rw [hReleased, noiseLargestAfter, if_pos hCount]
    exact ⟨⟨rfl, by simp⟩, ⟨rfl, by simp⟩, rfl⟩
  have hCapacity := hTracks.capacity
  unfold simNoiseSourceEnsureCapacity at hOk ⊢
  unfold NoiseState.Honest noiseRequestMeets noiseLargestAfter CapacityRequest.Fits
    LargestRequests.own LargestRequests.other LargestRequests.raise
  rw [if_neg hCount] at hOk ⊢
  have hRaised : (if state.capacity < request.count then request.count else state.capacity) =
      max (max largest.real largest.complex) request.count := by
    rw [hCapacity]
    split_ifs <;> omega
  rw [hRaised] at hOk ⊢
  rw [hCapacity] at hOk ⊢
  cases hKind : request.isComplex with
  | true =>
      simp only [hKind, ↓reduceIte] at hOk ⊢
      rw [Nat.max_comm largest.real] at hOk ⊢
      cases hGrow : growState 16 (CDouble.zero, CDouble.zero) request
          (max largest.complex largest.real) state.complexState with
      | error failure =>
          rw [hGrow] at hOk
          exact (nomatch hOk)
      | ok resized =>
          obtain ⟨hIff, hSlots⟩ := growState_spec (by decide) hCount hTracks.complexState hGrow
          refine ⟨(or_iff_right hCount).trans ((and_iff_left rfl).trans hIff), fun hMeets => ?_⟩
          rw [if_neg hCount]
          refine ⟨hTracks.realState, hSlots (hIff.mpr hMeets), ?_⟩
          change max (max largest.complex largest.real) request.count =
            max largest.real (max largest.complex request.count)
          omega
  | false =>
      simp only [hKind, Bool.false_eq_true, ↓reduceIte] at hOk ⊢
      cases hGrow : growState 8 CDouble.zero request (max largest.real largest.complex)
          state.realState with
      | error failure =>
          rw [hGrow] at hOk
          exact (nomatch hOk)
      | ok resized =>
          obtain ⟨hIff, hSlots⟩ := growState_spec (by decide) hCount hTracks.realState hGrow
          refine ⟨(or_iff_right hCount).trans ((and_iff_left rfl).trans hIff), fun hMeets => ?_⟩
          rw [if_neg hCount]
          refine ⟨hSlots (hIff.mpr hMeets), hTracks.complexState, ?_⟩
          change max (max largest.real largest.complex) request.count =
            max (max largest.real request.count) largest.complex
          omega

theorem simNoiseSourceEnsureCapacity_error {state : NoiseState D} {request : CapacityRequest}
    {failure : SimError} (hError : (simNoiseSourceEnsureCapacity state request).2 = .error failure) :
    (simNoiseSourceEnsureCapacity state request).1 = state := by
  unfold simNoiseSourceEnsureCapacity at hError ⊢
  by_cases hCount : request.count = 0
  · rw [if_pos hCount] at hError
    exact (nomatch hError)
  rw [if_neg hCount] at hError ⊢
  cases hKind : request.isComplex with
  | true =>
      simp only [hKind, ↓reduceIte] at hError ⊢
      cases hGrow : growState 16 (CDouble.zero, CDouble.zero) request state.capacity
          state.complexState with
      | error failure => rfl
      | ok resized =>
          rw [hGrow] at hError
          exact (nomatch hError)
  | false =>
      simp only [hKind, Bool.false_eq_true, ↓reduceIte] at hError ⊢
      cases hGrow : growState 8 CDouble.zero request state.capacity state.realState with
      | error failure => rfl
      | ok resized =>
          rw [hGrow] at hError
          exact (nomatch hError)

/-! ### Sequences of requests to the sieve -/

omit [CDouble D]

/-- The arrays of the sieve have the sizes of the largest requests. -/
structure SieveScratch.Tracks (state : SieveScratch D) (largest : LargestRequests) : Prop where
  scratch : HasSlots largest.real state.scratch
  scratchComplex : HasSlots largest.complex state.scratchComplex
  scratchCapacity : state.scratchCapacity = max largest.real largest.complex

theorem exists_slots_iff {slots count : ℕ} (hCount : count ≠ 0) {state : Option (ScratchSlots α)}
    (hState : HasSlots slots state) :
    (∃ present, state = some present ∧ count ≤ present.length) ↔ count ≤ slots := by
  have hLength := hState.length
  constructor
  · rintro ⟨present, rfl, hEnough⟩
    rwa [← hLength]
  · intro hEnough
    obtain ⟨present, rfl⟩ := Option.isSome_iff_exists.mp (hState.isSome_iff.mpr (by omega))
    exact ⟨present, rfl, hLength ▸ hEnough⟩

theorem sieveEnsureScratch_ok {state : SieveScratch D} {largest : LargestRequests}
    {request : CapacityRequest} (hTracks : state.Tracks largest)
    (hOk : (sieveEnsureScratch state request).2 = .ok ()) :
    (SieveScratch.Honest request (sieveEnsureScratch state request).1 ↔
        sieveRequestMeets largest request) ∧
      (sieveRequestMeets largest request →
        (sieveEnsureScratch state request).1.Tracks (largest.raise request)) := by
  have hCapacity := hTracks.scratchCapacity
  unfold sieveEnsureScratch at hOk ⊢
  unfold SieveScratch.Honest sieveRequestMeets CapacityRequest.Fits LargestRequests.own
    LargestRequests.other LargestRequests.raise
  rw [hCapacity] at hOk ⊢
  by_cases hPresent : request.count ≤ max largest.real largest.complex
  · rw [if_pos hPresent]
    by_cases hCount : request.count = 0
    · refine ⟨iff_of_true (.inl hCount) (.inl (by omega)), fun _ => ?_⟩
      rw [hCount, Nat.max_eq_left (Nat.zero_le _), Nat.max_eq_left (Nat.zero_le _), ite_self]
      exact hTracks
    cases hKind : request.isComplex with
    | true =>
        simp only [↓reduceIte]
        rw [or_iff_right hCount, exists_slots_iff hCount hTracks.scratchComplex]
        refine ⟨⟨.inl, fun hMeets => by omega⟩, fun hMeets => ?_⟩
        have hEnough : request.count ≤ largest.complex := by omega
        rw [Nat.max_eq_left hEnough]
        exact hTracks
    | false =>
        simp only [Bool.false_eq_true, ↓reduceIte]
        rw [or_iff_right hCount, exists_slots_iff hCount hTracks.scratch]
        refine ⟨⟨.inl, fun hMeets => by omega⟩, fun hMeets => ?_⟩
        have hEnough : request.count ≤ largest.real := by omega
        rw [Nat.max_eq_left hEnough]
        exact hTracks
  · rw [if_neg hPresent] at hOk ⊢
    have hCount : request.count ≠ 0 := by omega
    have hReal : largest.real < request.count := by omega
    have hComplex : largest.complex < request.count := by omega
    cases hKind : request.isComplex with
    | true =>
        simp only [hKind, ↓reduceIte] at hOk ⊢
        cases hRealloc : reallocSlots 16 request.count request.granted
            (state.scratchComplex.getD []) with
        | none =>
            rw [hRealloc] at hOk
            exact (nomatch hOk)
        | some resized =>
            obtain ⟨hIff, hSlots⟩ := reallocSlots_spec (by decide) hCount hRealloc
            have hMeets : request.count ≤ largest.complex ∨
                request.count * 16 < 2 ^ 64 ∧ largest.real < request.count ↔
                request.count * 16 < 2 ^ 64 :=
              ⟨fun hMeets => hMeets.elim (absurd · (Nat.not_le.mpr hComplex)) And.left,
                fun hFits => .inr ⟨hFits, hReal⟩⟩
            rw [or_iff_right hCount, hMeets]
            refine ⟨hIff, fun hFits => ⟨hTracks.scratch, ?_, ?_⟩⟩
            · change HasSlots (max largest.complex request.count) (some resized)
              rw [Nat.max_eq_right (Nat.le_of_lt hComplex)]
              exact hSlots hFits
            · change request.count = max largest.real (max largest.complex request.count)
              rw [Nat.max_eq_right (Nat.le_of_lt hComplex), Nat.max_eq_right (Nat.le_of_lt hReal)]
    | false =>
        simp only [hKind, Bool.false_eq_true, ↓reduceIte] at hOk ⊢
        cases hRealloc : reallocSlots 8 request.count request.granted (state.scratch.getD []) with
        | none =>
            rw [hRealloc] at hOk
            exact (nomatch hOk)
        | some resized =>
            obtain ⟨hIff, hSlots⟩ := reallocSlots_spec (by decide) hCount hRealloc
            have hMeets : request.count ≤ largest.real ∨
                request.count * 8 < 2 ^ 64 ∧ largest.complex < request.count ↔
                request.count * 8 < 2 ^ 64 :=
              ⟨fun hMeets => hMeets.elim (absurd · (Nat.not_le.mpr hReal)) And.left,
                fun hFits => .inr ⟨hFits, hComplex⟩⟩
            rw [or_iff_right hCount, hMeets]
            refine ⟨hIff, fun hFits => ⟨?_, hTracks.scratchComplex, ?_⟩⟩
            · change HasSlots (max largest.real request.count) (some resized)
              rw [Nat.max_eq_right (Nat.le_of_lt hReal)]
              exact hSlots hFits
            · change request.count = max (max largest.real request.count) largest.complex
              rw [Nat.max_eq_right (Nat.le_of_lt hReal), Nat.max_eq_left (Nat.le_of_lt hComplex)]

theorem sieveEnsureScratch_error {state : SieveScratch D} {request : CapacityRequest}
    {failure : SimError} (hError : (sieveEnsureScratch state request).2 = .error failure) :
    (sieveEnsureScratch state request).1 = state := by
  unfold sieveEnsureScratch at hError ⊢
  by_cases hPresent : request.count ≤ state.scratchCapacity
  · rw [if_pos hPresent]
  rw [if_neg hPresent] at hError ⊢
  cases hKind : request.isComplex with
  | true =>
      simp only [hKind, ↓reduceIte] at hError ⊢
      cases hRealloc : reallocSlots 16 request.count request.granted
          (state.scratchComplex.getD []) with
      | none => rfl
      | some resized =>
          rw [hRealloc] at hError
          exact (nomatch hError)
  | false =>
      simp only [hKind, Bool.false_eq_true, ↓reduceIte] at hError ⊢
      cases hRealloc : reallocSlots 8 request.count request.granted (state.scratch.getD []) with
      | none => rfl
      | some resized =>
          rw [hRealloc] at hError
          exact (nomatch hError)

/-- From empty arrays, all requests are honest exactly when each meets its condition. -/
theorem sharedCapacity_iff (D : Type) [CDouble D] (requests : List CapacityRequest) :
    (AllHonest simNoiseSourceEnsureCapacity NoiseState.Honest (⟨none, none, 0⟩ : NoiseState D)
        requests ↔
      AllMeet simNoiseSourceEnsureCapacity noiseRequestMeets noiseLargestAfter
        (⟨none, none, 0⟩ : NoiseState D) ⟨0, 0⟩ requests) ∧
    (AllHonest sieveEnsureScratch (fun _ => SieveScratch.Honest)
        (⟨none, none, 0⟩ : SieveScratch D) requests ↔
      AllMeet sieveEnsureScratch sieveRequestMeets LargestRequests.raise
        (⟨none, none, 0⟩ : SieveScratch D) ⟨0, 0⟩ requests) := by
  have hEmpty {α : Type} : HasSlots 0 (none : Option (ScratchSlots α)) := ⟨rfl, by simp⟩
  constructor
  · refine allHonest_iff (fun state largest request => simNoiseSourceEnsureCapacity_ok) ?_
      (⟨hEmpty, hEmpty, rfl⟩ : NoiseState.Tracks _ _) requests
    intro state largest request failure hTracks hError
    rw [simNoiseSourceEnsureCapacity_error hError]
    exact hTracks
  · refine allHonest_iff (fun state largest request => sieveEnsureScratch_ok) ?_
      (⟨hEmpty, hEmpty, rfl⟩ : SieveScratch.Tracks _ _) requests
    intro state largest request failure hTracks hError
    rw [sieveEnsureScratch_error hError]
    exact hTracks

/-- Eight real elements, then four and then eight complex ones. -/
def realThenComplex : List CapacityRequest := [⟨8, false, true⟩, ⟨4, true, true⟩, ⟨8, true, true⟩]

/-- The last request is granted although only four complex slots exist, and the sieve has none. -/
theorem realThenComplex_notHonest :
    ¬ AllHonest simNoiseSourceEnsureCapacity NoiseState.Honest (⟨none, none, 0⟩ : NoiseState ℤ)
        realThenComplex ∧
      ¬ AllHonest sieveEnsureScratch (fun _ => SieveScratch.Honest)
        (⟨none, none, 0⟩ : SieveScratch ℤ) realThenComplex := by
  constructor
  · rintro ⟨-, -, hLast, -⟩
    rcases hLast rfl with hNone | ⟨⟨slots, hSlots, hEnough, -⟩, -⟩
    · exact absurd hNone (by decide)
    · obtain rfl := Option.some.inj hSlots
      exact absurd hEnough (by decide)
  · rintro ⟨-, hSecond, -⟩
    rcases hSecond rfl with hNone | ⟨slots, hSlots, -⟩
    · exact absurd hNone (by decide)
    · exact (nomatch hSlots)

end Oakfield
