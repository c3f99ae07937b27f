import Oakfield.Library.Run
import Oakfield.Result
import Mathlib.Algebra.Order.Ring.Nat
import Mathlib.Data.List.Basic

/-! The cache of static stimulus samples, over sequences of requests and invalidations. -/
namespace Oakfield

open Library.Run

variable {D : Type}

structure SimStimulusStaticCacheLayout where
  rank : ℕ
  count : ℕ
  extentX : ℕ
  extentY : ℕ
  strideX : ℕ
  strideY : ℕ
deriving DecidableEq, Repr

/-- An allocated array of doubles. -/
structure SampleArray (D : Type) where
  slots : ℕ
  value : ℕ → D

/-- The samples up to a count are overwritten. -/
def SampleArray.write (array : SampleArray D) (count : ℕ) (samples : ℕ → D) : SampleArray D :=
  { array with value := fun i => if i < count then samples i else array.value i }

/-- `SimStimulusStaticCache`; `recorded` is the layout whose fields it keeps. The last two
fields are not in the C record: whether the last fill that succeeded was asked for imaginary
samples, and whether a fill was given an array with fewer slots than samples. -/
structure SimStimulusStaticCache (D : Type) where
  real : Option (SampleArray D)
  imag : Option (SampleArray D)
  capacity : ℕ
  recorded : SimStimulusStaticCacheLayout
  valid : Bool
  filledImag : Bool
  overran : Bool

namespace SimStimulusStaticCache

/-- A cleared cache. -/
def cleared : SimStimulusStaticCache D := ⟨none, none, 0, ⟨0, 0, 0, 0, 0, 0⟩, false, false, false⟩

/-- What `realloc` answers: `NULL`, the same block, or another one. -/
inductive ReallocAnswer where
  | refused
  | inPlace
  | moved
deriving DecidableEq, Repr

/-- What a call of the fill function ends with. A failing one leaves arbitrary samples. -/
inductive FillAnswer (D : Type) where
  | filled
  | failed (error : SimError) (real imag : ℕ → D)

/-- What the environment of a request does: the allocator and the fill function. -/
structure Answers (D : Type) where
  realloc : ReallocAnswer
  malloc : Bool
  /-- What an array holds which `malloc` returned, and the new part of one from `realloc`. -/
  indeterminate : ℕ → D
  fill : FillAnswer D

/-- The samples the fill function computes for a layout, real and imaginary ones, when it is
asked for imaginary samples or not. -/
abbrev FillSamples (D : Type) := SimStimulusStaticCacheLayout → Bool → (ℕ → D) × (ℕ → D)

/-- `sim_stimulus_static_cache_invalidate`. -/
def invalidate (cache : SimStimulusStaticCache D) : SimStimulusStaticCache D :=
  { cache with valid := false, recorded := ⟨0, 0, 0, 0, 0, 0⟩ }

/-- `sim_stimulus_static_cache_matches`. -/
def matchesLayout (cache : SimStimulusStaticCache D) (layout : SimStimulusStaticCacheLayout)
    (needImag : Bool) : Bool :=
  if !cache.valid then false
  else if cache.recorded ≠ layout then false
  else if needImag && cache.imag.isNone then false
  else cache.real.isSome

/-- Slots of an allocation of `count * sizeof(double)` bytes, a product of `size_t`. -/
def allocatedSlots (count : ℕ) : ℕ := count * 8 % 2 ^ 64 / 8

/-- An array resized to a number of slots; the slots it had before keep their samples. -/
def resized (array : Option (SampleArray D)) (slots : ℕ) (indeterminate : ℕ → D) :
    SampleArray D where
  slots := slots
  value := fun i =>
    match array with
    | some old => if i < old.slots then old.value i else indeterminate i
    | none => indeterminate i

/-- An array has fewer slots than samples. -/
def isShort (array : Option (SampleArray D)) (count : ℕ) : Bool :=
  array.any fun array => decide (array.slots < count)

/-- The call of the fill function and what follows it. -/
def refill (samples : FillSamples D) (layout : SimStimulusStaticCacheLayout) (needImag : Bool)
    (answer : FillAnswer D) (cache : SimStimulusStaticCache D) :
    SimStimulusStaticCache D × Except SimError Unit :=
  let cache := { cache with
    overran := cache.overran || isShort cache.real layout.count || isShort cache.imag layout.count }
  match answer with
  | .failed error real imag =>
      ({ cache with
        real := cache.real.map (·.write layout.count real)
        imag := if needImag then cache.imag.map (·.write layout.count imag) else cache.imag
        valid := false }, .error error)
  | .filled =>
      ({ cache with
        real := cache.real.map (·.write layout.count (samples layout needImag).1)
        imag :=
          if needImag then cache.imag.map (·.write layout.count (samples layout needImag).2)
          else cache.imag
        recorded := layout
        valid := true
        filledImag := needImag }, .ok ())

/-- The part of `sim_stimulus_static_cache_ensure` behind the growth of the real array:
`grown` is the block, `moved` that it is not the block of the cache. -/
def ensureImag (samples : FillSamples D) (layout : SimStimulusStaticCacheLayout) (needImag : Bool)
    (answers : Answers D) (grown : Option (SampleArray D)) (moved : Bool)
    (cache : SimStimulusStaticCache D) : SimStimulusStaticCache D × Except SimError Unit :=
  let accepted (imag : Option (SampleArray D)) :=
    refill samples layout needImag answers.fill { cache with
      real := grown
      imag := imag
      capacity := if cache.capacity < layout.count then layout.count else cache.capacity }
  if needImag && cache.imag.isNone then
    if answers.malloc then
      accepted (some (resized none (allocatedSlots layout.count) answers.indeterminate))
    else
      -- a block grown in place is kept too, under the old capacity
      ({ cache with
        real := grown
        capacity := if moved then layout.count else cache.capacity }, .error .outOfMemory)
  else accepted cache.imag

/-- `sim_stimulus_static_cache_ensure`. -/
def ensure (samples : FillSamples D) (layout : SimStimulusStaticCacheLayout) (needImag : Bool)
    (answers : Answers D) (cache : SimStimulusStaticCache D) :
    SimStimulusStaticCache D × Except SimError Unit :=
  if layout.count = 0 then (cache, .ok ())
  else if cache.matchesLayout layout needImag then (cache, .ok ())
  else if cache.capacity < layout.count then
    let grown := resized cache.real (allocatedSlots layout.count) answers.indeterminate
    match answers.realloc with
    | .refused => (cache, .error .outOfMemory)
    | .inPlace =>
        -- there is no block to grow in place when the array is missing
        cache.ensureImag samples layout needImag answers (some grown) cache.real.isNone
    | .moved => cache.ensureImag samples layout needImag answers (some grown) true
  else cache.ensureImag samples layout needImag answers cache.real false

/-! ### Runs -/

inductive Call (D : Type) where
  | ensure (layout : SimStimulusStaticCacheLayout) (needImag : Bool) (answers : Answers D)
  | invalidate

def step (samples : FillSamples D) (cache : SimStimulusStaticCache D) :
    Call D → SimStimulusStaticCache D
  | .ensure layout needImag answers => (cache.ensure samples layout needImag answers).1
  | .invalidate => cache.invalidate

/-- An array has a slot for every sample and holds them. -/
def Holds (array : Option (SampleArray D)) (count : ℕ) (samples : ℕ → D) : Prop :=
  ∃ block, array = some block ∧ count ≤ block.slots ∧ ∀ i < count, block.value i = samples i

/-- A request which succeeds leaves what the fill function writes for its layout, and no
request gives a short array to the fill function. -/
def Serves (samples : FillSamples D) (cache : SimStimulusStaticCache D) : Call D → Prop
  | .ensure layout needImag answers =>
      let outcome := cache.ensure samples layout needImag answers
      (outcome.2 = .ok () → 0 < layout.count →
        Holds outcome.1.real layout.count (samples layout needImag).1 ∧
        (needImag = true → Holds outcome.1.imag layout.count (samples layout needImag).2)) ∧
      (outcome.1.overran = true → cache.overran = true)
  | .invalidate => True

/-- The requests for which the record of the cache says enough. A recorded layout serves a
request for imaginary samples when its fill computed them, and another request when its real
samples do not depend on that. A fill finds no imaginary array from a smaller request, and no
array is allocated for so many samples that their bytes are no `size_t`. -/
def Servable (samples : FillSamples D) (cache : SimStimulusStaticCache D) : Call D → Prop
  | .ensure layout needImag _ =>
      if cache.matchesLayout layout needImag then
        cache.filledImag = needImag ∨ (needImag = false ∧
          ∀ i < layout.count, (samples layout true).1 i = (samples layout false).1 i)
      else isShort cache.imag layout.count = false ∧ layout.count < 2 ^ 61
  | .invalidate => True

/-! ### The invariant -/

variable {samples : FillSamples D} {cache : SimStimulusStaticCache D}
  {layout : SimStimulusStaticCacheLayout} {needImag : Bool} {count : ℕ}

/-- The capacity is one of the real array, and a valid cache holds what its last fill wrote
for the recorded layout. -/
structure Sound (samples : FillSamples D) (cache : SimStimulusStaticCache D) : Prop where
  capacity_le : ∀ block, cache.real = some block → cache.capacity ≤ block.slots
  capacity_eq : cache.real = none → cache.capacity = 0
  recorded_le : cache.valid = true → cache.recorded.count ≤ cache.capacity
  real : cache.valid = true →
    Holds cache.real cache.recorded.count (samples cache.recorded cache.filledImag).1
  imag : cache.valid = true → cache.filledImag = true →
    Holds cache.imag cache.recorded.count (samples cache.recorded true).2

theorem sound_cleared : Sound samples cleared where
  capacity_le _ hReal := nomatch hReal
  capacity_eq _ := rfl
  recorded_le hValid := nomatch hValid
  real hValid := nomatch hValid
  imag hValid := nomatch hValid

theorem allocatedSlots_eq (hCount : count < 2 ^ 61) : allocatedSlots count = count := by
  rw [allocatedSlots]
  omega

theorem holds_write {block : SampleArray D} (hSlots : count ≤ block.slots) (values : ℕ → D) :
    Holds (some (block.write count values)) count values :=
  ⟨_, rfl, hSlots, fun _ hi => if_pos hi⟩

/-- An array which grows keeps what it holds. -/
theorem Holds.resized {array : Option (SampleArray D)} {values : ℕ → D}
    (hHolds : Holds array count values) {slots : ℕ} (hSlots : count ≤ slots)
    (indeterminate : ℕ → D) : Holds (some (resized array slots indeterminate)) count values := by
  obtain ⟨block, rfl, hBlock, hValue⟩ := hHolds
  refine ⟨_, rfl, hSlots, fun i hi => ?_⟩
  rw [← hValue i hi]
  exact if_pos (Nat.lt_of_lt_of_le hi hBlock)

theorem matchesLayout_iff : cache.matchesLayout layout needImag = true ↔
    cache.valid = true ∧ cache.recorded = layout ∧ (needImag = true → cache.imag.isSome = true) ∧
      cache.real.isSome = true := by
  unfold matchesLayout
  cases cache.valid <;> cases needImag <;> cases cache.imag <;> simp

theorem isShort_some {block : SampleArray D} (hShort : isShort (some block) count = false) :
    count ≤ block.slots := by
  simpa [isShort] using hShort

/-- What a request ends with: a sound cache, no short array given to the fill function, and the
samples when it succeeds. -/
structure Served (samples : FillSamples D) (cache : SimStimulusStaticCache D)
    (layout : SimStimulusStaticCacheLayout) (needImag : Bool)
    (outcome : SimStimulusStaticCache D × Except SimError Unit) : Prop where
  sound : Sound samples outcome.1
  safe : outcome.1.overran = true → cache.overran = true
  held : outcome.2 = .ok () → Holds outcome.1.real layout.count (samples layout needImag).1 ∧
    (needImag = true → Holds outcome.1.imag layout.count (samples layout needImag).2)

theorem refill_served {block : SampleArray D} (answer : FillAnswer D)
    (hReal : cache.real = some block) (hCount : layout.count ≤ cache.capacity)
    (hCapacity : cache.capacity ≤ block.slots) (hImag : isShort cache.imag layout.count = false)
    (hNeed : needImag = true → cache.imag.isSome = true) :
    Served samples cache layout needImag (refill samples layout needImag answer cache) := by
  have hSlots := Nat.le_trans hCount hCapacity
  have hOverran : (cache.overran || isShort cache.real layout.count ||
      isShort cache.imag layout.count) = cache.overran := by
    have hShort : isShort cache.real layout.count = false := by
      rw [hReal]
      simpa [isShort] using hSlots
    rw [hShort, hImag, Bool.or_false, Bool.or_false]
  have hLe : ∀ (values : ℕ → D) other,
      cache.real.map (·.write layout.count values) = some other → cache.capacity ≤ other.slots := by
    intro values other hOther
    rw [hReal] at hOther
    obtain rfl := Option.some.inj hOther
    exact hCapacity
  have hSome : ∀ values : ℕ → D, cache.real.map (·.write layout.count values) = none →
      cache.capacity = 0 := by
    intro values hNone
    rw [hReal] at hNone
    cases hNone
  cases answer with
  | failed error real imag =>
      refine ⟨⟨hLe real, hSome real, ?_, ?_, ?_⟩, fun hNow => hOverran ▸ hNow, ?_⟩
      · exact fun hValid => nomatch hValid
      · exact fun hValid => nomatch hValid
      · exact fun hValid => nomatch hValid
      · exact fun hOk => nomatch hOk
  | filled =>
      have hWritten : Holds (cache.real.map (·.write layout.count (samples layout needImag).1))
          layout.count (samples layout needImag).1 := by
        rw [hReal]
        exact holds_write hSlots _
      have hImagWritten : needImag = true → Holds
          (if needImag then cache.imag.map (·.write layout.count (samples layout needImag).2)
            else cache.imag) layout.count (samples layout needImag).2 := by
        intro hTrue
        obtain ⟨plane, hPlane⟩ := Option.isSome_iff_exists.mp (hNeed hTrue)
        rw [hPlane] at hImag
        rw [if_pos hTrue, hPlane]
        exact holds_write (isShort_some hImag) _
      refine ⟨⟨hLe _, hSome _, fun _ => hCount, fun _ => hWritten, fun _ hFilled => ?_⟩,
        fun hNow => hOverran ▸ hNow, fun _ => ⟨hWritten, hImagWritten⟩⟩
      obtain rfl : needImag = true := hFilled
      exact hImagWritten rfl

/-- The request goes on with a block of enough slots which holds what the real array holds. -/
theorem ensureImag_served {block : SampleArray D} {moved : Bool} (answers : Answers D)
    (hSound : Sound samples cache) (hSlots : layout.count ≤ block.slots)
    (hCapacity : cache.capacity ≤ block.slots)
    (hMoved : moved = true → cache.capacity ≤ layout.count)
    (hKept : cache.valid = true →
      Holds (some block) cache.recorded.count (samples cache.recorded cache.filledImag).1)
    (hBound : layout.count < 2 ^ 61) (hImag : isShort cache.imag layout.count = false) :
    Served samples cache layout needImag
      (cache.ensureImag samples layout needImag answers (some block) moved) := by
  have hGrown : (if cache.capacity < layout.count then layout.count else cache.capacity) =
      max cache.capacity layout.count := by
    split <;> omega
  have hAccepted : ∀ imag, isShort imag layout.count = false →
      (needImag = true → imag.isSome = true) →
      Served samples cache layout needImag (refill samples layout needImag answers.fill
        { cache with
          real := some block
          imag := imag
          capacity := if cache.capacity <
            layout.count then layout.count else cache.capacity }) := by
    intro imag hShort hSome
    have hServed := @refill_served D samples
      { cache with
        real := some block
        imag := imag
        capacity := if cache.capacity < layout.count then layout.count else cache.capacity }
      layout needImag block answers.fill rfl (by dsimp only; omega)
        (by dsimp only; omega) hShort hSome
    exact ⟨hServed.sound, hServed.safe, hServed.held⟩
  unfold ensureImag
  dsimp only
  split
  · split
    · refine hAccepted _ ?_ fun _ => rfl
      simp [isShort, resized, allocatedSlots_eq hBound]
    · refine ⟨⟨?_, ?_, ?_, hKept, hSound.imag⟩, id, fun hOk => nomatch hOk⟩
      · intro other hOther
        obtain rfl := Option.some.inj hOther
        dsimp only
        split
        · exact hSlots
        · exact hCapacity
      · exact fun hNone => nomatch hNone
      · intro hValid
        have hLe := hSound.recorded_le hValid
        dsimp only
        split
        case isTrue hTrue => exact Nat.le_trans hLe (hMoved hTrue)
        case isFalse => exact hLe
  case isFalse hHas =>
    refine hAccepted _ hImag fun hTrue => ?_
    rw [hTrue, Bool.true_and, Bool.not_eq_true, Option.isNone_eq_false_iff] at hHas
    exact hHas

theorem ensure_served (answers : Answers D) (hSound : Sound samples cache)
    (hServable : Servable samples cache (.ensure layout needImag answers)) :
    Sound samples (cache.ensure samples layout needImag answers).1 ∧
      Serves samples cache (.ensure layout needImag answers) := by
  have hOf : ∀ outcome, cache.ensure samples layout needImag answers = outcome →
      Served samples cache layout needImag outcome →
      Sound samples (cache.ensure samples layout needImag answers).1 ∧
        Serves samples cache (.ensure layout needImag answers) := by
    rintro _ rfl hServed
    exact ⟨hServed.sound, fun hOk _ => hServed.held hOk, hServed.safe⟩
  by_cases hEmpty : layout.count = 0
  · have hEnsure : cache.ensure samples layout needImag answers = (cache, .ok ()) := if_pos hEmpty
    refine ⟨?_, ?_, ?_⟩
    · rwa [hEnsure]
    · exact fun _ hPos => absurd hEmpty (Nat.ne_of_gt hPos)
    · rw [hEnsure]
      exact id
  by_cases hMatches : cache.matchesLayout layout needImag = true
  · have hEnsure : cache.ensure samples layout needImag answers = (cache, .ok ()) := by
      rw [ensure, if_neg hEmpty, if_pos hMatches]
    refine hOf _ hEnsure ⟨hSound, id, fun _ => ?_⟩
    obtain ⟨hValid, rfl, -, -⟩ := matchesLayout_iff.mp hMatches
    rw [Servable, if_pos hMatches] at hServable
    have hReal := hSound.real hValid
    rcases hServable with hSame | ⟨rfl, hAgree⟩
    · rw [hSame] at hReal
      refine ⟨hReal, fun hTrue => ?_⟩
      rw [hTrue]
      exact hSound.imag hValid (hSame.trans hTrue)
    · refine ⟨?_, fun hTrue => nomatch hTrue⟩
      cases hFilled : cache.filledImag with
      | false => rwa [hFilled] at hReal
      | true =>
          rw [hFilled] at hReal
          obtain ⟨block, hBlock, hSlots, hValue⟩ := hReal
          exact ⟨block, hBlock, hSlots, fun i hi => (hValue i hi).trans (hAgree i hi)⟩
  · rw [Servable, if_neg hMatches] at hServable
    obtain ⟨hImag, hBound⟩ := hServable
    by_cases hGrow : cache.capacity < layout.count
    · have hSlots : layout.count ≤
          (resized cache.real (allocatedSlots layout.count) answers.indeterminate).slots :=
        Nat.le_of_eq (allocatedSlots_eq hBound).symm
      have hKept : cache.valid = true → Holds
          (some (resized cache.real (allocatedSlots layout.count) answers.indeterminate))
          cache.recorded.count (samples cache.recorded cache.filledImag).1 := by
        intro hValid
        have hLe := hSound.recorded_le hValid
        exact (hSound.real hValid).resized (by rw [allocatedSlots_eq hBound]; omega) _
      have hLess : cache.capacity ≤ layout.count := Nat.le_of_lt hGrow
      have hAll : ∀ moved, Served samples cache layout needImag (cache.ensureImag samples layout
          needImag answers
          (some (resized cache.real (allocatedSlots layout.count) answers.indeterminate)) moved) :=
        fun moved => ensureImag_served answers hSound hSlots (Nat.le_trans hLess hSlots)
          (fun _ => hLess) hKept hBound hImag
      cases hAnswer : answers.realloc with
      | refused =>
          refine hOf (cache, .error .outOfMemory) ?_ ⟨hSound, id, fun hOk => nomatch hOk⟩
          rw [ensure, if_neg hEmpty, if_neg hMatches, if_pos hGrow, hAnswer]
      | inPlace =>
          refine hOf _ ?_ (hAll cache.real.isNone)
          rw [ensure, if_neg hEmpty, if_neg hMatches, if_pos hGrow, hAnswer]
      | moved =>
          refine hOf _ ?_ (hAll true)
          rw [ensure, if_neg hEmpty, if_neg hMatches, if_pos hGrow, hAnswer]
    · have hEnsure : cache.ensure samples layout needImag answers =
          cache.ensureImag samples layout needImag answers cache.real false := by
        rw [ensure, if_neg hEmpty, if_neg hMatches, if_neg hGrow]
      cases hReal : cache.real with
      | none => exact absurd (hSound.capacity_eq hReal) (by omega)
      | some block =>
          have hCapacity := hSound.capacity_le block hReal
          rw [hReal] at hEnsure
          refine hOf _ hEnsure (ensureImag_served answers hSound (by omega) hCapacity
            (fun hMoved => nomatch hMoved) (fun hValid => ?_) hBound hImag)
          rw [← hReal]
          exact hSound.real hValid

/-- The cache is transparent in every run of requests which its record serves. -/
theorem staticCache_transparent (samples : FillSamples D) (calls : List (Call D))
    (hCalls : EachCall (step samples) (Servable samples) cleared calls) :
    EachCall (step samples) (Serves samples) cleared calls := by
  refine hCalls.imp_of_invariant (Sound samples) (fun cache call hSound hServable => ?_)
    (fun cache call hSound hServable => ?_) sound_cleared
  · cases call with
    | ensure layout needImag answers => exact (ensure_served answers hSound hServable).2
    | invalidate => trivial
  · cases call with
    | ensure layout needImag answers => exact (ensure_served answers hSound hServable).1
    | invalidate =>
        refine ⟨hSound.capacity_le, hSound.capacity_eq, ?_, ?_, ?_⟩
        · exact fun hValid => nomatch hValid
        · exact fun hValid => nomatch hValid
        · exact fun hValid => nomatch hValid

/-- A row of samples. -/
def rowLayout (count strideX : ℕ) : SimStimulusStaticCacheLayout := ⟨1, count, count, 1, strideX, 1⟩

/-- Everything is granted. -/
def granted : Answers ℕ := ⟨.moved, true, fun _ => 0, .filled⟩

/-- The samples count the elements and tell the stride. -/
def strideSamples : FillSamples ℕ := fun layout _ => (fun i => i, fun _ => layout.strideX)

theorem staticCache_transparent_rows :
    EachCall (step strideSamples) (Serves strideSamples) cleared
      [.ensure (rowLayout 2 1) true granted, .ensure (rowLayout 1 3) true granted,
        .ensure (rowLayout 1 3) false granted] := by
  refine staticCache_transparent strideSamples _ ⟨?_, ?_, ?_, trivial⟩
  · exact ⟨rfl, by decide⟩
  · exact ⟨rfl, by decide⟩
  · exact .inr ⟨rfl, fun _ _ => rfl⟩

/-- A second row with more samples than the first one gets the old imaginary array; and a row
which was filled without imaginary samples is served with those of another layout. -/
theorem staticCache_not_transparent :
    ¬ EachCall (step strideSamples) (Serves strideSamples) cleared
      [.ensure (rowLayout 1 1) true granted, .ensure (rowLayout 2 1) true granted] ∧
    ¬ EachCall (step strideSamples) (Serves strideSamples) cleared
      [.ensure (rowLayout 1 1) true granted, .ensure (rowLayout 1 2) false granted,
        .ensure (rowLayout 1 2) true granted] := by
  constructor
  · rintro ⟨-, ⟨-, hSafe⟩, -⟩
    exact absurd (hSafe rfl) (by decide)
  · rintro ⟨-, -, ⟨hHeld, -⟩, -⟩
    obtain ⟨block, hBlock, -, hValue⟩ := (hHeld rfl (by decide)).2 rfl
    obtain rfl := Option.some.inj hBlock
    exact absurd (hValue 0 (by decide)) (by decide)

end SimStimulusStaticCache

end Oakfield
