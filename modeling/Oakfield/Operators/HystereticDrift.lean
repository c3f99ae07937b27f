import Oakfield.Operators.FractionalMemoryDrift
import Oakfield.Operators.Hysteretic

/-! What an application in drift leaves of the memory of `hysteretic`: the operator
over its live cells, which the state refines. -/
namespace Oakfield

open KernelIR CDouble Library

variable {D : Type} [CDouble D] {heap : Heap}

/-! ### The operator over its live cells -/

/-- The initialised state of so many scalars. -/
structure HystereticLive (D : Type) where
  capacity : ℕ
  cells : ℕ → HystereticCell D

namespace HystereticLive

def blank : HystereticCell D := ⟨zero, zero, zero⟩

/-- Only the Bouc-Wen mode has more than an output. -/
def observed (config : SimHystereticOperatorConfig D) (cell : HystereticCell D) :
    HystereticCell D :=
  if config.mode = .boucWen then cell else { cell with z := zero, xPrev := zero }

/-- The first cells, with nothing behind them. -/
def bounded (count : ℕ) (cells : ℕ → HystereticCell D) : HystereticLive D :=
  ⟨count, fun k => if k < count then cells k else blank⟩

/-- The cells to go on from: those at hand if they are as many as needed. -/
def resume (config : SimHystereticOperatorConfig D) (source : ℕ → D) (count : ℕ)
    (live : Option (HystereticLive D)) : HystereticLive D :=
  (live.filter (·.capacity = count)).getD
    (bounded count fun k => observed config (config.initialCell (source k)))

/-- An application, over the live cells. -/
def apply (heap : Heap) (dt : D) (config : SimHystereticOperatorConfig D) :
    Callback D (Option (HystereticLive D)) := fun fields _ live =>
  let input := fields[config.inputField]?
  let output := fields[config.outputField]?
  match hystereticDescribeFields input output with
  | .error failure => ⟨fun _ => none, live, .error failure⟩
  | .ok (_, count) =>
      if count = 0 then ⟨fun _ => none, live, .ok ()⟩
      else if !heap.calloc count 8 then ⟨fun _ => none, none, .error .outOfMemory⟩
      else
        match input.bind SimField.buffer, output, output.bind SimField.buffer with
        | some source, some field, some target =>
            let cells := fun k =>
              config.advance dt (source.lane k) ((resume config source.lane count live).cells k)
            let lanes := .lanes fun k =>
              if k < count then config.response dt (target.lane k) (cells k) else target.lane k
            ⟨fun i => if i = config.outputField then
                some ⟨lanes, field.repr, field.complexMode⟩ else none,
              some (bounded count cells), .ok ()⟩
        | _, _, _ => ⟨fun _ => none, live.filter (·.capacity = count), .error .invalidArgument⟩

end HystereticLive

open HystereticLive

namespace HystereticState

variable {state : HystereticState D} {count : ℕ} {dt : D}

/-- The live cells of a state. -/
def live (state : HystereticState D) : Option (HystereticLive D) :=
  if state.initialized = true ∧ state.capacity ≠ 0 then
    some (bounded state.capacity state.cell)
  else none

/-- Buffers have the sizes on record, and an initialised state has the arrays of
its mode. -/
structure Coherent (heap : Heap) (state : HystereticState D) : Prop where
  empty : state.capacity = 0 → state.outputState = none ∧ state.boucWen = none
  output : state.capacity ≠ 0 → ∃ output, state.outputState = some output ∧
    output.bytes = state.capacity * 8 ∧ heap.calloc state.capacity 8 = true
  boucWen : ∀ z xPrev, state.boucWen = some (z, xPrev) →
    z.bytes = state.capacity * 8 ∧ xPrev.bytes = state.capacity * 8
  mode : state.initialized = true → state.capacity ≠ 0 →
    state.boucWen.isSome = decide (state.config.mode = .boucWen)
  snapshot : ∀ snapshot, state.snapshotOutput = some snapshot →
    snapshot.bytes = state.snapshotCapacity * 8
  noSnapshot : state.snapshotOutput = none → state.snapshotCapacity = 0
  inBounds : state.overran = false

theorem coherent_added (heap : Heap) (config : SimHystereticOperatorConfig D) :
    (added config).Coherent heap := by
  constructor
  case empty => exact fun _ => ⟨rfl, rfl⟩
  case output => exact fun hCapacity => absurd rfl hCapacity
  case boucWen => rintro _ _ ⟨⟩
  case mode => rintro ⟨⟩
  case snapshot => rintro _ ⟨⟩
  case noSnapshot => exact fun _ => rfl
  case inBounds => rfl

/-! ### Preparing -/

theorem calloc_eq (hGranted : heap.calloc count 8 = true) :
    (DoubleBuffer.calloc heap count : Option (DoubleBuffer D)) =
      some ⟨count * 8, fun _ => zero⟩ := if_pos hGranted

theorem allocBoucWen_eq (hGranted : heap.calloc count 8 = true) :
    (allocBoucWen heap count : Option (DoubleBuffer D × DoubleBuffer D)) =
      some (⟨count * 8, fun _ => zero⟩, ⟨count * 8, fun _ => zero⟩) := by
  rw [allocBoucWen, calloc_eq hGranted]

/-- The state is ready for so many scalars in its mode. -/
structure Prepared (count : ℕ) (state : HystereticState D) : Prop where
  capacity : state.capacity = count
  boucWen : state.boucWen.isSome = decide (state.config.mode = .boucWen)

/-- What applying to a prepared state keeps. -/
def aside (state : HystereticState D) :=
  (state.config, state.capacity, state.snapshotOutput, state.snapshotZ, state.snapshotXPrev,
    state.snapshotCapacity, state.snapshotInitialized, state.snapshotHasBoucWen, state.overran)

/-- Behind a successful preparation, the live cells are those of before, or none. -/
structure PreparedFrom (heap : Heap) (count : ℕ) (before after : HystereticState D) : Prop where
  coherent : after.Coherent heap
  prepared : after.Prepared count
  config : after.config = before.config
  live : after.live = before.live.filter (·.capacity = count)
  aside : before.capacity = count → after.aside = before.aside

theorem prepareBoucWen_cases (heap : Heap) (count : ℕ) (hGranted : heap.calloc count 8 = true)
    (state : HystereticState D) :
    (state.boucWen.isSome = decide (state.config.mode = .boucWen) ∧
      state.prepareBoucWen heap count = (state, .ok ())) ∨
    ∃ arrays : Option (DoubleBuffer D × DoubleBuffer D),
      state.boucWen.isSome ≠ decide (state.config.mode = .boucWen) ∧
      arrays.isSome = decide (state.config.mode = .boucWen) ∧
      (∀ z xPrev, arrays = some (z, xPrev) → z.bytes = count * 8 ∧ xPrev.bytes = count * 8) ∧
      state.prepareBoucWen heap count =
        ({ state with boucWen := arrays, initialized := false }, .ok ()) := by
  rw [prepareBoucWen]
  cases hMode : state.config.mode with
  | boucWen =>
      cases hArrays : state.boucWen with
      | some arrays => exact .inl ⟨rfl, rfl⟩
      | none =>
          right
          dsimp only
          rw [allocBoucWen_eq hGranted]
          refine ⟨_, Bool.false_ne_true, rfl, ?_, rfl⟩
          rintro _ _ ⟨⟩
          exact ⟨rfl, rfl⟩
  | schmitt | play =>
      cases hArrays : state.boucWen with
      | none => exact .inl ⟨rfl, rfl⟩
      | some arrays =>
          right
          refine ⟨none, Bool.false_ne_true.symm, rfl, ?_, rfl⟩
          rintro _ _ ⟨⟩

/-- The live cells are as many as the capacity. -/
theorem live_filter (hCapacity : state.capacity = count) :
    state.live.filter (·.capacity = count) = state.live := by
  rw [live]
  split
  · rw [Option.filter_some, if_pos]
    exact decide_eq_true hCapacity
  · rfl

theorem live_filter_ne (hCapacity : state.capacity ≠ count) :
    state.live.filter (·.capacity = count) = none := by
  rw [live]
  split
  · rw [Option.filter_some, if_neg]
    exact fun hSame => hCapacity (of_decide_eq_true hSame)
  · rfl

theorem prepareBoucWen_spec (hCoherent : state.Coherent heap) (hCapacity : state.capacity = count)
    (hCount : count ≠ 0) :
    ∃ after, state.prepareBoucWen heap count = (after, .ok ()) ∧
      PreparedFrom heap count state after := by
  have hPositive : state.capacity ≠ 0 := hCapacity ▸ hCount
  obtain ⟨output, hOutput, hBytes, hGranted⟩ := hCoherent.output hPositive
  rw [hCapacity] at hGranted
  rcases prepareBoucWen_cases heap count hGranted state with
    ⟨hArrays, hRun⟩ | ⟨arrays, hDiffer, hArrays, hSizes, hRun⟩
  · refine ⟨state, hRun, ?_⟩
    constructor
    case coherent => exact hCoherent
    case prepared => exact ⟨hCapacity, hArrays⟩
    case config => rfl
    case live => exact (live_filter hCapacity).symm
    case aside => exact fun _ => rfl
  · refine ⟨_, hRun, ?_⟩
    have hInitialized : state.initialized = false := by
      cases hInitialized : state.initialized with
      | false => rfl
      | true => exact absurd (hCoherent.mode hInitialized hPositive) hDiffer
    constructor
    case prepared => exact ⟨hCapacity, hArrays⟩
    case config => rfl
    case live =>
      rw [live_filter hCapacity, live, live, hInitialized]
      rfl
    case aside => exact fun _ => rfl
    case coherent =>
      constructor
      case empty => exact fun hZero => absurd hZero hPositive
      case output => exact hCoherent.output
      case boucWen =>
        rw [hCapacity]
        exact hSizes
      case mode => rintro ⟨⟩
      case snapshot => exact hCoherent.snapshot
      case noSnapshot => exact hCoherent.noSnapshot
      case inBounds => exact hCoherent.inBounds

theorem prepare_spec (hCoherent : state.Coherent heap) (hCount : count ≠ 0)
    (hGranted : heap.calloc count 8 = true) :
    ∃ after, state.prepare heap count = (after, .ok ()) ∧ PreparedFrom heap count state after := by
  rw [prepare]
  by_cases hCapacity : state.capacity = count
  · rw [if_pos hCapacity]
    exact prepareBoucWen_spec hCoherent hCapacity hCount
  · rw [if_neg hCapacity, calloc_eq hGranted]
    dsimp only
    generalize hFresh : ({ state with
      outputState := some ⟨count * 8, fun _ => zero⟩
      boucWen := none
      capacity := count
      initialized := false } : HystereticState D) = fresh
    have hFreshCoherent : fresh.Coherent heap := by
      subst hFresh
      constructor
      case empty => exact fun hZero => absurd hZero hCount
      case output => exact fun _ => ⟨_, rfl, rfl, hGranted⟩
      case boucWen => rintro _ _ ⟨⟩
      case mode => rintro ⟨⟩
      case snapshot => exact hCoherent.snapshot
      case noSnapshot => exact hCoherent.noSnapshot
      case inBounds => exact hCoherent.inBounds
    obtain ⟨after, hRun, hAfter⟩ := prepareBoucWen_spec hFreshCoherent (hFresh ▸ rfl) hCount
    refine ⟨after, hRun, ?_⟩
    constructor
    case coherent => exact hAfter.coherent
    case prepared => exact hAfter.prepared
    case config =>
      rw [hAfter.config, ← hFresh]
    case live =>
      rw [hAfter.live, live_filter_ne hCapacity, ← hFresh]
      rfl
    case aside => exact fun hSame => absurd hSame hCapacity

theorem prepare_refused (hCoherent : state.Coherent heap) (hCount : count ≠ 0)
    (hRefused : heap.calloc count 8 = false) :
    state.prepare heap count =
      ({ state with outputState := none, boucWen := none, capacity := 0 }, .error .outOfMemory) := by
  have hCapacity : state.capacity ≠ count := by
    rintro rfl
    obtain ⟨_, -, -, hGranted⟩ := hCoherent.output hCount
    rw [hRefused] at hGranted
    cases hGranted
  have hNone : (DoubleBuffer.calloc heap count : Option (DoubleBuffer D)) = none := by
    rw [DoubleBuffer.calloc, hRefused]
    rfl
  rw [prepare, if_neg hCapacity, hNone]

/-! ### Storing -/

omit [CDouble D] in
/-- Storing keeps the sizes of the buffers. -/
theorem Coherent.store (hCoherent : state.Coherent heap) (cells : ℕ → HystereticCell D) :
    (state.store count cells).Coherent heap := by
  constructor
  case empty =>
    intro hZero
    obtain ⟨hOutput, hArrays⟩ := hCoherent.empty hZero
    dsimp only [HystereticState.store]
    rw [hOutput, hArrays]
    exact ⟨rfl, rfl⟩
  case output =>
    intro hPositive
    obtain ⟨output, hOutput, hBytes, hGranted⟩ := hCoherent.output hPositive
    dsimp only [HystereticState.store]
    rw [hOutput]
    exact ⟨_, rfl, hBytes, hGranted⟩
  case boucWen =>
    intro z xPrev hArrays
    rw [HystereticState.store, Option.map_eq_some_iff] at hArrays
    obtain ⟨⟨zBefore, xBefore⟩, hBefore, hPair⟩ := hArrays
    cases hPair
    exact hCoherent.boucWen zBefore xBefore hBefore
  case mode =>
    intro hInitialized hPositive
    dsimp only [HystereticState.store]
    rw [Option.isSome_map]
    exact hCoherent.mode hInitialized hPositive
  case snapshot => exact hCoherent.snapshot
  case noSnapshot => exact hCoherent.noSnapshot
  case inBounds => exact hCoherent.inBounds

/-- What a prepared state holds behind a store. -/
theorem cell_store (hCoherent : state.Coherent heap) (hPrepared : state.Prepared count)
    (cells : ℕ → HystereticCell D) {k : ℕ} (hK : k < count) :
    (state.store count cells).cell k = observed state.config (cells k) := by
  have hPositive : state.capacity ≠ 0 := by
    rw [hPrepared.capacity]
    exact Nat.ne_of_gt (Nat.zero_lt_of_lt hK)
  obtain ⟨output, hOutput, -⟩ := hCoherent.output hPositive
  have hArrays := hPrepared.boucWen
  rw [cell, HystereticState.store, observed]
  dsimp only
  rw [hOutput]
  cases hBoucWen : state.boucWen with
  | none =>
      rw [hBoucWen] at hArrays
      rw [if_neg (of_decide_eq_false hArrays.symm)]
      simp [hK]
  | some arrays =>
      rw [hBoucWen] at hArrays
      rw [if_pos (of_decide_eq_true hArrays.symm)]
      simp [hK]

theorem observed_cell (hPrepared : state.Prepared count) (k : ℕ) :
    observed state.config (state.cell k) = state.cell k := by
  have hArrays := hPrepared.boucWen
  rw [observed]
  split
  case isTrue => rfl
  case isFalse hMode =>
    rw [decide_eq_false hMode, Option.isSome_eq_false_iff, Option.isNone_iff_eq_none] at hArrays
    rw [cell, hArrays]
    rfl

theorem observed_advance {config : SimHystereticOperatorConfig D} {cell : HystereticCell D}
    (hCell : observed config cell = cell) (dt input : D) :
    observed config (config.advance dt input cell) = config.advance dt input cell := by
  rw [observed] at hCell ⊢
  rw [SimHystereticOperatorConfig.advance]
  cases hMode : config.mode with
  | boucWen => rfl
  | schmitt | play =>
      rw [hMode, if_neg (by decide)] at hCell
      rw [if_neg (by decide)]
      dsimp only
      rw [← hCell]

/-! ### Applying -/

/-- A prepared state with its cells set, where an application goes on from. -/
def settled (source : ℕ → D) (count : ℕ) (state : HystereticState D) : HystereticState D :=
  if state.initialized then state else state.initializeState source count

theorem settled_spec (hCoherent : state.Coherent heap) (hPrepared : state.Prepared count)
    (hCount : count ≠ 0) (source : ℕ → D) :
    (state.settled source count).Coherent heap ∧ (state.settled source count).Prepared count ∧
      (state.settled source count).aside = state.aside ∧
      (state.settled source count).initialized = true ∧
      ∀ k < count, (state.settled source count).cell k =
        (resume state.config source count state.live).cells k := by
  have hPositive : state.capacity ≠ 0 := hPrepared.capacity.symm ▸ hCount
  rw [settled]
  cases hInitialized : state.initialized with
  | true =>
      rw [if_pos rfl]
      refine ⟨hCoherent, hPrepared, rfl, hInitialized, fun k hK => ?_⟩
      have hLive : state.live = some (bounded state.capacity state.cell) :=
        if_pos ⟨hInitialized, hPositive⟩
      rw [resume, live_filter hPrepared.capacity, hLive]
      rw [← hPrepared.capacity] at hK
      exact (if_pos hK).symm
  | false =>
      have hStored := @Coherent.store D heap state count hCoherent
        fun k => state.config.initialCell (source k)
      have hArrays : ((state.initializeState source count).boucWen).isSome =
          decide (state.config.mode = .boucWen) := by
        rw [← hPrepared.boucWen]
        exact Option.isSome_map
      refine ⟨?_, ⟨hPrepared.capacity, hArrays⟩, rfl, rfl, fun k hK => ?_⟩
      · constructor
        case empty => exact hStored.empty
        case output => exact hStored.output
        case boucWen => exact hStored.boucWen
        case mode => exact fun _ _ => hArrays
        case snapshot => exact hStored.snapshot
        case noSnapshot => exact hStored.noSnapshot
        case inBounds => exact hStored.inBounds
      · have hLive : state.live = none := by
          rw [live, hInitialized]
          rfl
        rw [resume, hLive]
        exact (cell_store hCoherent hPrepared _ hK).trans (if_pos hK).symm

theorem live_store (hCoherent : state.Coherent heap) (hPrepared : state.Prepared count)
    (hInitialized : state.initialized = true) (hCount : count ≠ 0) {cells : ℕ → HystereticCell D}
    (hObserved : ∀ k < count, observed state.config (cells k) = cells k) :
    (state.store count cells).live = some (bounded count cells) := by
  have hPositive : state.capacity ≠ 0 := hPrepared.capacity.symm ▸ hCount
  have hLive : (state.store count cells).live =
      some (bounded state.capacity (state.store count cells).cell) := if_pos ⟨hInitialized, hPositive⟩
  rw [hLive, hPrepared.capacity, bounded, bounded]
  congr 2
  funext k
  split
  case isTrue hK => exact (cell_store hCoherent hPrepared cells hK).trans (hObserved k hK)
  case isFalse => rfl

/-- An application behaves as on the live cells. -/
structure Refines (heap : Heap) (outcome : CallbackOutcome D (HystereticState D))
    (model : CallbackOutcome D (Option (HystereticLive D)))
    (before : HystereticState D) : Prop where
  writes : outcome.writes = model.writes
  result : outcome.result = model.result
  live : outcome.memory.live = model.memory
  config : outcome.memory.config = before.config
  coherent : outcome.memory.Coherent heap

/-- The element loop runs over the cells to go on from. -/
theorem apply_settled {before : HystereticState D} (hAfter : PreparedFrom heap count before state)
    (hCount : count ≠ 0) (source target : FieldData D) (field : SimField D) :
    let start := state.settled source.lane count
    let cells := fun k => before.config.advance dt (source.lane k) (start.cell k)
    let modelCells := fun k => before.config.advance dt (source.lane k)
      ((resume before.config source.lane count before.live).cells k)
    let writes := fun (cells : ℕ → HystereticCell D) (i : ℕ) =>
      if i = before.config.outputField then
        some (⟨.lanes fun k =>
          if k < count then before.config.response dt (target.lane k) (cells k) else target.lane k,
            field.repr, field.complexMode⟩ : FieldWrite D)
      else none
    Refines heap ⟨writes cells, start.store count cells, .ok ()⟩
      ⟨writes modelCells, some (bounded count modelCells), .ok ()⟩ before := by
  obtain ⟨hSettled, hReady, hAside, hInitialized, hCells⟩ :=
    settled_spec hAfter.coherent hAfter.prepared hCount source.lane
  have hConfig : (state.settled source.lane count).config = before.config :=
    (congrArg Prod.fst hAside).trans hAfter.config
  have hResume : (resume state.config source.lane count state.live).cells =
      (resume before.config source.lane count before.live).cells := by
    rw [resume, resume, hAfter.config, hAfter.live, Option.filter_filter]
    simp only [Bool.and_self]
  intro start cells modelCells writes
  have hSame : ∀ k < count, cells k = modelCells k := by
    intro k hK
    show before.config.advance dt (source.lane k) (start.cell k) = _
    rw [hCells k hK, hResume]
  have hObserved : ∀ k < count, observed start.config (cells k) = cells k := by
    intro k _
    rw [hConfig]
    apply observed_advance
    rw [← hConfig]
    exact observed_cell hReady k
  constructor
  case writes =>
    funext i
    have hLanes : (fun k => if k < count then before.config.response dt (target.lane k) (cells k)
        else target.lane k) = fun k =>
          if k < count then before.config.response dt (target.lane k) (modelCells k)
          else target.lane k := by
      funext k
      by_cases hK : k < count
      · rw [if_pos hK, if_pos hK, hSame k hK]
      · rw [if_neg hK, if_neg hK]
    show (if i = before.config.outputField then _ else _) = if i = before.config.outputField then _ else _
    rw [hLanes]
  case result => rfl
  case live =>
    apply (live_store hSettled hReady hInitialized hCount hObserved).trans
    rw [bounded, bounded]
    congr 2
    funext k
    by_cases hK : k < count
    · rw [if_pos hK, if_pos hK, hSame k hK]
    · rw [if_neg hK, if_neg hK]
  case config => exact hConfig
  case coherent => exact hSettled.store cells

theorem apply_refines (hCoherent : state.Coherent heap) (fields : List (SimField D))
    (runtime : SimRuntimeState D) :
    Refines heap (hystereticApply heap dt fields runtime state)
      (HystereticLive.apply heap dt state.config fields runtime state.live) state := by
  rw [hystereticApply, HystereticLive.apply]
  dsimp only
  cases hDescribe : hystereticDescribeFields fields[state.config.inputField]?
      fields[state.config.outputField]? with
  | error failure => exact ⟨rfl, rfl, rfl, rfl, hCoherent⟩
  | ok described =>
      obtain ⟨complex, count⟩ := described
      dsimp only
      by_cases hCount : count = 0
      · rw [if_pos hCount, if_pos hCount]
        exact ⟨rfl, rfl, rfl, rfl, hCoherent⟩
      rw [if_neg hCount, if_neg hCount]
      cases hGranted : heap.calloc count 8 with
      | false =>
          rw [prepare_refused hCoherent hCount hGranted]
          refine ⟨rfl, rfl, ?_, rfl, ?_⟩
          · exact if_neg fun hBoth => hBoth.2 rfl
          · constructor
            case empty => exact fun _ => ⟨rfl, rfl⟩
            case output => exact fun hPositive => absurd rfl hPositive
            case boucWen => rintro _ _ ⟨⟩
            case mode => exact fun _ hPositive => absurd rfl hPositive
            case snapshot => exact hCoherent.snapshot
            case noSnapshot => exact hCoherent.noSnapshot
            case inBounds => exact hCoherent.inBounds
      | true =>
          obtain ⟨after, hRun, hAfter⟩ := prepare_spec hCoherent hCount hGranted
          rw [hRun]
          dsimp only
          simp only [Bool.not_true, Bool.false_eq_true, if_false]
          have hInvalid : Refines heap
              ⟨fun _ => none, after, .error .invalidArgument⟩
              ⟨fun _ => none, state.live.filter (·.capacity = count), .error .invalidArgument⟩ state :=
            ⟨rfl, rfl, hAfter.live, hAfter.config, hAfter.coherent⟩
          cases hSource : fields[state.config.inputField]?.bind SimField.buffer with
          | none => exact hInvalid
          | some source =>
              cases hField : fields[state.config.outputField]? with
              | none => exact hInvalid
              | some field =>
                  cases hTarget : (some field).bind SimField.buffer with
                  | none => exact hInvalid
                  | some target => exact apply_settled hAfter hCount source target field

/-! ### Saving and restoring -/

/-- An application which gets to preparing its state finds it allocated for the size
of its fields, and snapshots of Bouc-Wen arrays have room for them. -/
structure DriftReady (state : HystereticState D) (fields : List (SimField D)) : Prop where
  prepared : ∀ complex count, hystereticDescribeFields fields[state.config.inputField]?
    fields[state.config.outputField]? = .ok (complex, count) → count ≠ 0 → state.capacity = count
  room : ∀ arrays snapshotZ snapshotXPrev, state.boucWen = some arrays →
    state.snapshotZ = some snapshotZ → state.snapshotXPrev = some snapshotXPrev →
      state.capacity * 8 ≤ snapshotZ.bytes ∧ state.capacity * 8 ≤ snapshotXPrev.bytes

/-- What an application changes of a state which is ready for it. -/
theorem apply_aside (hCoherent : state.Coherent heap) {fields : List (SimField D)}
    (hReady : ∀ complex count, hystereticDescribeFields fields[state.config.inputField]?
      fields[state.config.outputField]? = .ok (complex, count) → count ≠ 0 → state.capacity = count)
    (runtime : SimRuntimeState D) :
    let after := (hystereticApply heap dt fields runtime state).memory
    after.aside = state.aside ∧
      (after = state ∨ after.boucWen.isSome = decide (state.config.mode = .boucWen)) := by
  rw [hystereticApply]
  dsimp only
  cases hDescribe : hystereticDescribeFields fields[state.config.inputField]?
      fields[state.config.outputField]? with
  | error failure => exact ⟨rfl, .inl rfl⟩
  | ok described =>
      obtain ⟨complex, count⟩ := described
      dsimp only
      by_cases hCount : count = 0
      · rw [if_pos hCount]
        exact ⟨rfl, .inl rfl⟩
      rw [if_neg hCount]
      have hCapacity := hReady complex count hDescribe hCount
      obtain ⟨_, -, -, hGranted⟩ := hCoherent.output (hCapacity ▸ hCount)
      rw [hCapacity] at hGranted
      obtain ⟨after, hRun, hAfter⟩ := prepare_spec hCoherent hCount hGranted
      have hArrays := hAfter.prepared.boucWen
      rw [hAfter.config] at hArrays
      rw [hRun]
      dsimp only
      split
      case h_1 source field target _ _ _ =>
        obtain ⟨-, hSettled, hAside, -⟩ :=
          settled_spec hAfter.coherent hAfter.prepared hCount source.lane
        have hConfig : (after.settled source.lane count).config = state.config :=
          (congrArg Prod.fst hAside).trans hAfter.config
        apply And.intro (hAside.trans (hAfter.aside hCapacity))
        right
        rw [← hConfig, ← hSettled.boucWen]
        exact Option.isSome_map
      case h_2 => exact ⟨hAfter.aside hCapacity, .inr hArrays⟩

/-- The state with a snapshot of its live arrays. -/
structure Saved (heap : Heap) (state saved : HystereticState D) : Prop where
  coherent : saved.Coherent heap
  config : saved.config = state.config
  outputState : saved.outputState = state.outputState
  boucWen : saved.boucWen = state.boucWen
  capacity : saved.capacity = state.capacity
  initialized : saved.initialized = state.initialized
  snapshotInitialized : saved.snapshotInitialized = state.initialized
  snapshotHasBoucWen : saved.snapshotHasBoucWen = state.boucWen.isSome
  large : state.capacity ≤ saved.snapshotCapacity
  snapshot : ∃ snapshot, saved.snapshotOutput = some snapshot ∧
    ∀ output, state.outputState = some output → ∀ k < state.capacity,
      snapshot.lane k = output.lane k
  arrays : ∀ z xPrev, state.boucWen = some (z, xPrev) → ∃ snapshotZ snapshotXPrev,
    saved.snapshotZ = some snapshotZ ∧ saved.snapshotXPrev = some snapshotXPrev ∧
    state.capacity * 8 ≤ snapshotZ.bytes ∧ state.capacity * 8 ≤ snapshotXPrev.bytes ∧
    ∀ k < state.capacity, snapshotZ.lane k = z.lane k ∧ snapshotXPrev.lane k = xPrev.lane k

omit [CDouble D] in
theorem lane_copy {source target : DoubleBuffer D} {bytes k : ℕ} (hK : k < bytes) :
    (DoubleBuffer.copy (bytes * 8) source target).lane k = source.lane k := by
  rw [DoubleBuffer.copy]
  dsimp only
  rw [Nat.mul_div_cancel _ (by decide), if_pos hK]

/-- A refused save changes snapshots only. -/
structure Refused (heap : Heap) (state saved : HystereticState D) : Prop where
  coherent : saved.Coherent heap
  config : saved.config = state.config
  live : saved.live = state.live

omit [CDouble D] in
/-- Copies which fit overrun nothing. -/
theorem saveBoucWen_overran (hCoherent : state.Coherent heap) {z xPrev : DoubleBuffer D}
    (hArrays : state.boucWen = some (z, xPrev)) (snapshotZ snapshotXPrev : DoubleBuffer D)
    (hZ : state.capacity * 8 ≤ snapshotZ.bytes) (hX : state.capacity * 8 ≤ snapshotXPrev.bytes) :
    (state.overran || !decide (DoubleBuffer.CopyFits (state.capacity * 8) z snapshotZ) ||
      !decide (DoubleBuffer.CopyFits (state.capacity * 8) xPrev snapshotXPrev)) =
        state.overran := by
  obtain ⟨hZBytes, hXBytes⟩ := hCoherent.boucWen z xPrev hArrays
  have hInZ : DoubleBuffer.CopyFits (state.capacity * 8) z snapshotZ := ⟨hZBytes.ge, hZ⟩
  have hInX : DoubleBuffer.CopyFits (state.capacity * 8) xPrev snapshotXPrev := ⟨hXBytes.ge, hX⟩
  rw [decide_eq_true hInZ, decide_eq_true hInX]
  simp

/-- Grown copies hold the arrays; where one of them is refused the state stands for the old. -/
theorem saveBoucWen_grown (hCoherent : state.Coherent heap) {z xPrev : DoubleBuffer D}
    (hArrays : state.boucWen = some (z, xPrev)) (result : HystereticState D × Except SimError Unit)
    (hResult : (match DoubleBuffer.realloc heap (state.capacity * 8) state.snapshotZ with
      | none => (state, .error .outOfMemory)
      | some nextZ =>
          match DoubleBuffer.realloc heap (state.capacity * 8) state.snapshotXPrev with
          | none => ({ state with snapshotZ := some nextZ }, .error .outOfMemory)
          | some nextX => ({ state with
              snapshotZ := some (.copy (state.capacity * 8) z nextZ)
              snapshotXPrev := some (.copy (state.capacity * 8) xPrev nextX)
              snapshotInitialized := state.initialized
              overran := state.overran ||
                !decide (DoubleBuffer.CopyFits (state.capacity * 8) z nextZ) ||
                !decide (DoubleBuffer.CopyFits (state.capacity * 8) xPrev nextX) },
              (.ok () : Except SimError Unit))) = result) :
    (∃ saved failure, result = (saved, .error failure) ∧ Refused heap state saved) ∨
    ∃ snapshotZ snapshotXPrev : DoubleBuffer D, state.capacity * 8 ≤ snapshotZ.bytes ∧
      state.capacity * 8 ≤ snapshotXPrev.bytes ∧ result = ({ state with
        snapshotZ := some (.copy (state.capacity * 8) z snapshotZ)
        snapshotXPrev := some (.copy (state.capacity * 8) xPrev snapshotXPrev)
        snapshotInitialized := state.initialized }, .ok ()) := by
  subst hResult
  cases hNextZ : DoubleBuffer.realloc heap (state.capacity * 8) state.snapshotZ with
  | none => exact .inl ⟨_, _, rfl, hCoherent, rfl, rfl⟩
  | some nextZ =>
      cases hNextX : DoubleBuffer.realloc heap (state.capacity * 8) state.snapshotXPrev with
      | none =>
          left
          refine ⟨_, _, rfl, ?_, rfl, rfl⟩
          constructor
          case empty => exact hCoherent.empty
          case output => exact hCoherent.output
          case boucWen => exact hCoherent.boucWen
          case mode => exact hCoherent.mode
          case snapshot => exact hCoherent.snapshot
          case noSnapshot => exact hCoherent.noSnapshot
          case inBounds => exact hCoherent.inBounds
      | some nextX =>
          have hZ := (FractionalMemoryState.bytes_realloc hNextZ).ge
          have hX := (FractionalMemoryState.bytes_realloc hNextX).ge
          right
          refine ⟨nextZ, nextX, hZ, hX, ?_⟩
          dsimp only
          rw [saveBoucWen_overran hCoherent hArrays nextZ nextX hZ hX]

/-- The copy of the Bouc-Wen arrays, once the output has its snapshot. -/
theorem saveBoucWen_cases (hCoherent : state.Coherent heap) {z xPrev : DoubleBuffer D}
    (hArrays : state.boucWen = some (z, xPrev)) (hLarge : state.capacity ≤ state.snapshotCapacity)
    (hRoom : ∀ snapshotZ snapshotXPrev, state.snapshotZ = some snapshotZ →
      state.snapshotXPrev = some snapshotXPrev →
        state.capacity * 8 ≤ snapshotZ.bytes ∧ state.capacity * 8 ≤ snapshotXPrev.bytes) :
    (∃ saved failure, state.saveBoucWen heap z xPrev = (saved, .error failure) ∧
      Refused heap state saved) ∨
    ∃ snapshotZ snapshotXPrev : DoubleBuffer D, state.capacity * 8 ≤ snapshotZ.bytes ∧
      state.capacity * 8 ≤ snapshotXPrev.bytes ∧
      state.saveBoucWen heap z xPrev = ({ state with
        snapshotZ := some (.copy (state.capacity * 8) z snapshotZ)
        snapshotXPrev := some (.copy (state.capacity * 8) xPrev snapshotXPrev)
        snapshotInitialized := state.initialized }, .ok ()) := by
  have hGrown := saveBoucWen_grown hCoherent hArrays
  rw [HystereticState.saveBoucWen]
  cases hSnapshotZ : state.snapshotZ with
  | none =>
      rw [hSnapshotZ] at hGrown
      exact hGrown _ rfl
  | some snapshotZ =>
      cases hSnapshotX : state.snapshotXPrev with
      | none =>
          rw [hSnapshotZ, hSnapshotX] at hGrown
          exact hGrown _ rfl
      | some snapshotXPrev =>
          obtain ⟨hZ, hX⟩ := hRoom snapshotZ snapshotXPrev hSnapshotZ hSnapshotX
          right
          refine ⟨snapshotZ, snapshotXPrev, hZ, hX, ?_⟩
          dsimp only
          rw [if_neg (Nat.not_lt_of_le hLarge),
            saveBoucWen_overran hCoherent hArrays snapshotZ snapshotXPrev hZ hX]

/-- The snapshot buffer of the output, as large as it has to be. -/
theorem snapshotBuffer_cases (hCoherent : state.Coherent heap) (hCapacity : state.capacity ≠ 0) :
    let next :=
      if state.snapshotCapacity < state.capacity then
        (DoubleBuffer.realloc heap (state.capacity * 8) state.snapshotOutput).map (·, state.capacity)
      else some (state.snapshotOutput.getD ⟨0, fun _ => indeterminate⟩, state.snapshotCapacity)
    next = none ∨ ∃ snapshot capacity, next = some (snapshot, capacity) ∧
      snapshot.bytes = capacity * 8 ∧ state.capacity ≤ capacity := by
  dsimp only
  split
  case isTrue hSmall =>
    cases hRealloc : DoubleBuffer.realloc heap (state.capacity * 8) state.snapshotOutput with
    | none => exact .inl rfl
    | some snapshot =>
        right
        exact ⟨snapshot, state.capacity, rfl, FractionalMemoryState.bytes_realloc hRealloc,
          Nat.le_refl _⟩
  case isFalse hLarge =>
    right
    cases hSnapshot : state.snapshotOutput with
    | none =>
        rw [hCoherent.noSnapshot hSnapshot] at hLarge
        exact absurd (Nat.pos_of_ne_zero hCapacity) hLarge
    | some snapshot =>
        exact ⟨snapshot, state.snapshotCapacity, rfl, hCoherent.snapshot snapshot hSnapshot,
          Nat.le_of_not_lt hLarge⟩

theorem save_cases (hCoherent : state.Coherent heap)
    (hRoom : ∀ arrays snapshotZ snapshotXPrev, state.boucWen = some arrays →
      state.snapshotZ = some snapshotZ → state.snapshotXPrev = some snapshotXPrev →
        state.capacity * 8 ≤ snapshotZ.bytes ∧ state.capacity * 8 ≤ snapshotXPrev.bytes) :
    (state.capacity = 0 ∧ hystereticSave heap state = (state, .ok ())) ∨
    (∃ saved failure, hystereticSave heap state = (saved, .error failure) ∧
      Refused heap state saved) ∨
    ∃ saved, hystereticSave heap state = (saved, .ok ()) ∧ state.capacity ≠ 0 ∧
      Saved heap state saved := by
  by_cases hCapacity : state.capacity = 0
  · left
    apply And.intro hCapacity
    rw [hystereticSave, (hCoherent.empty hCapacity).1]
  right
  obtain ⟨output, hOutput, hBytes, -⟩ := hCoherent.output hCapacity
  rw [hystereticSave, hOutput]
  dsimp only
  rw [if_neg hCapacity]
  rcases snapshotBuffer_cases hCoherent hCapacity with hNext | ⟨snapshot, capacity, hNext, hSize, hLarge⟩
  · rw [hNext]
    exact .inl ⟨_, _, rfl, hCoherent, rfl, rfl⟩
  rw [hNext]
  have hInside : DoubleBuffer.CopyFits (state.capacity * 8) output snapshot := by
    apply And.intro hBytes.ge
    rw [hSize]
    exact Nat.mul_le_mul_right 8 hLarge
  dsimp only
  rw [decide_eq_true hInside, Bool.not_true, Bool.or_false]
  have hFirst : ({ state with
      snapshotOutput := some (DoubleBuffer.copy (state.capacity * 8) output snapshot)
      snapshotCapacity := capacity
      snapshotHasBoucWen := state.boucWen.isSome } : HystereticState D).Coherent heap := by
    constructor
    case snapshot =>
      rintro _ ⟨⟩
      exact hSize
    case noSnapshot => rintro ⟨⟩
    case empty => exact hCoherent.empty
    case output => exact hCoherent.output
    case boucWen => exact hCoherent.boucWen
    case mode => exact hCoherent.mode
    case inBounds => exact hCoherent.inBounds
  have hLanes : ∃ copied, some (DoubleBuffer.copy (state.capacity * 8) output snapshot) = some copied ∧
      ∀ live, state.outputState = some live → ∀ k < state.capacity,
        copied.lane k = live.lane k := by
    refine ⟨_, rfl, ?_⟩
    rintro live hLive k hK
    rw [hOutput] at hLive
    cases hLive
    exact lane_copy hK
  cases hArrays : state.boucWen with
  | none =>
      right
      refine ⟨_, rfl, hCapacity, ?_⟩
      rw [hArrays] at hFirst
      constructor
      case coherent =>
        constructor
        case snapshot => exact hFirst.snapshot
        case noSnapshot => exact hFirst.noSnapshot
        case empty => exact fun hZero => absurd hZero hCapacity
        case output =>
          rw [← hOutput]
          exact hCoherent.output
        case boucWen => exact hFirst.boucWen
        case mode => exact hFirst.mode
        case inBounds => exact hFirst.inBounds
      case config | capacity | initialized | snapshotInitialized => rfl
      case outputState => exact hOutput.symm
      case boucWen => exact hArrays.symm
      case snapshotHasBoucWen => rw [hArrays]
      case large => exact hLarge
      case snapshot => exact hLanes
      case arrays =>
        intro z xPrev hLive
        rw [hArrays] at hLive
        cases hLive
  | some arrays =>
      obtain ⟨z, xPrev⟩ := arrays
      rcases saveBoucWen_cases hFirst hArrays hLarge fun snapshotZ snapshotXPrev =>
        hRoom (z, xPrev) snapshotZ snapshotXPrev hArrays with
          ⟨saved, failure, hRun, hRefused⟩ | ⟨snapshotZ, snapshotXPrev, hZ, hX, hRun⟩
      · rw [hOutput, hArrays] at hRun
        exact .inl ⟨saved, failure, hRun, hRefused.coherent, hRefused.config, hRefused.live⟩
      · rw [hOutput, hArrays] at hRun
        right
        refine ⟨_, hRun, hCapacity, ?_⟩
        rw [← hOutput, ← hArrays]
        constructor
        case coherent =>
          constructor
          case snapshot => exact hFirst.snapshot
          case noSnapshot => exact hFirst.noSnapshot
          case empty => exact hFirst.empty
          case output => exact hFirst.output
          case boucWen => exact hFirst.boucWen
          case mode => exact hFirst.mode
          case inBounds => exact hFirst.inBounds
        case config | capacity | initialized | snapshotInitialized => rfl
        case outputState => rfl
        case boucWen => rfl
        case snapshotHasBoucWen => rfl
        case large => exact hLarge
        case snapshot => exact hLanes
        case arrays =>
          intro zLive xLive hLive
          rw [hArrays] at hLive
          cases hLive
          exact ⟨_, _, rfl, rfl, hZ, hX, fun k hK => ⟨lane_copy hK, lane_copy hK⟩⟩

theorem live_congr {restored : HystereticState D} (hCapacity : restored.capacity = state.capacity)
    (hInitialized : restored.initialized = state.initialized)
    (hCells : state.initialized = true → ∀ k < state.capacity, restored.cell k = state.cell k) :
    restored.live = state.live := by
  rw [live, live, hInitialized, hCapacity]
  by_cases hLive : state.initialized = true ∧ state.capacity ≠ 0
  · rw [if_pos hLive, if_pos hLive, bounded, bounded]
    congr 2
    funext k
    by_cases hK : k < state.capacity
    · rw [if_pos hK, if_pos hK, hCells hLive.1 k hK]
    · rw [if_neg hK, if_neg hK]
  · rw [if_neg hLive, if_neg hLive]

omit [CDouble D] in
/-- A state with its output restored is coherent with arrays for its mode. -/
theorem Coherent.restored (hCoherent : state.Coherent heap) (hCapacity : state.capacity ≠ 0)
    {output : DoubleBuffer D} (hOutput : output.bytes = state.capacity * 8)
    {arrays : Option (DoubleBuffer D × DoubleBuffer D)} {initialized : Bool}
    (hSizes : ∀ z xPrev, arrays = some (z, xPrev) →
      z.bytes = state.capacity * 8 ∧ xPrev.bytes = state.capacity * 8)
    (hMode : initialized = true → arrays.isSome = decide (state.config.mode = .boucWen)) :
    ({ state with
      outputState := some output
      boucWen := arrays
      initialized := initialized } : HystereticState D).Coherent heap := by
  obtain ⟨_, -, -, hGranted⟩ := hCoherent.output hCapacity
  constructor
  case empty => exact fun hZero => absurd hZero hCapacity
  case output => exact fun _ => ⟨output, rfl, hOutput, hGranted⟩
  case boucWen => exact hSizes
  case mode => exact fun hInitialized _ => hMode hInitialized
  case snapshot => exact hCoherent.snapshot
  case noSnapshot => exact hCoherent.noSnapshot
  case inBounds => exact hCoherent.inBounds

omit [CDouble D] in
/-- What a restore leaves, where the snapshot covers the state. -/
theorem restore_cases (hCoherent : state.Coherent heap) {output snapshot : DoubleBuffer D}
    (hOutput : state.outputState = some output) (hSnapshot : state.snapshotOutput = some snapshot)
    (hCapacity : state.capacity ≠ 0) (hLarge : state.capacity ≤ state.snapshotCapacity)
    (hArrays : state.snapshotHasBoucWen = true → ∃ snapshotZ snapshotXPrev,
      state.snapshotZ = some snapshotZ ∧ state.snapshotXPrev = some snapshotXPrev ∧
        state.capacity * 8 ≤ snapshotZ.bytes ∧ state.capacity * 8 ≤ snapshotXPrev.bytes) :
    ∃ arrays initialized, (hystereticRestore state).1 = { state with
        outputState := some (.copy (state.capacity * 8) snapshot output)
        boucWen := arrays
        initialized := initialized } ∧
      ((∃ z xPrev snapshotZ snapshotXPrev, state.boucWen = some (z, xPrev) ∧
          state.snapshotHasBoucWen = true ∧ state.snapshotZ = some snapshotZ ∧
          state.snapshotXPrev = some snapshotXPrev ∧
          arrays = some (.copy (state.capacity * 8) snapshotZ z,
            .copy (state.capacity * 8) snapshotXPrev xPrev) ∧
          initialized = state.snapshotInitialized) ∨
        ((state.snapshotHasBoucWen = true → state.boucWen = none) ∧ arrays = state.boucWen ∧
          initialized =
            if state.config.mode = .boucWen then false else state.snapshotInitialized)) := by
  obtain ⟨_, hSame, hBytes, -⟩ := hCoherent.output hCapacity
  rw [hOutput, Option.some.injEq] at hSame
  subst hSame
  have hInside : DoubleBuffer.CopyFits (state.capacity * 8) snapshot output := by
    constructor
    · rw [hCoherent.snapshot snapshot hSnapshot]
      exact Nat.mul_le_mul_right 8 hLarge
    · exact hBytes.ge
  have hGo : (state.capacity = 0 || decide (state.snapshotCapacity < state.capacity)) = false := by
    rw [Bool.or_eq_false_iff]
    exact ⟨decide_eq_false hCapacity, decide_eq_false (Nat.not_lt_of_le hLarge)⟩
  have hElse : (state.snapshotHasBoucWen = true → state.boucWen = none) →
      (hystereticRestore state).1 = { state with
        outputState := some (.copy (state.capacity * 8) snapshot output)
        initialized := if state.config.mode = .boucWen then false else state.snapshotInitialized } := by
    intro hLost
    rw [hystereticRestore, hOutput, hSnapshot]
    dsimp only
    rw [hGo, decide_eq_true hInside, Bool.not_true, Bool.or_false]
    simp only [Bool.false_eq_true, if_false]
    split
    case h_1 z xPrev hBoucWen hHas =>
      rw [hLost hHas] at hBoucWen
      cases hBoucWen
    case h_2 =>
      split <;> rfl
  cases hHas : state.snapshotHasBoucWen with
  | false =>
      rw [hHas] at hElse
      exact ⟨_, _, hElse nofun, .inr ⟨nofun, rfl, rfl⟩⟩
  | true =>
      cases hBoucWen : state.boucWen with
      | none =>
          rw [hHas] at hElse
          exact ⟨_, _, hElse fun _ => hBoucWen, .inr ⟨fun _ => rfl, hBoucWen, rfl⟩⟩
      | some arrays =>
          obtain ⟨z, xPrev⟩ := arrays
          obtain ⟨snapshotZ, snapshotXPrev, hSnapshotZ, hSnapshotX, hZ, hX⟩ := hArrays hHas
          obtain ⟨hZBytes, hXBytes⟩ := hCoherent.boucWen z xPrev hBoucWen
          have hInZ : DoubleBuffer.CopyFits (state.capacity * 8) snapshotZ z := ⟨hZ, hZBytes.ge⟩
          have hInX : DoubleBuffer.CopyFits (state.capacity * 8) snapshotXPrev xPrev :=
            ⟨hX, hXBytes.ge⟩
          refine ⟨_, _, ?_, .inl ⟨z, xPrev, snapshotZ, snapshotXPrev, rfl, rfl, hSnapshotZ,
            hSnapshotX, rfl, rfl⟩⟩
          rw [hystereticRestore, hOutput, hSnapshot]
          dsimp only
          rw [hGo, decide_eq_true hInside, Bool.not_true, Bool.or_false]
          simp only [Bool.false_eq_true, if_false]
          rw [hBoucWen, hHas, hSnapshotZ, hSnapshotX]
          dsimp only
          rw [decide_eq_true hInZ, decide_eq_true hInX]
          simp only [Bool.not_true, Bool.or_false]

/-- Restoring behind an application of a saved state brings its live cells back. -/
theorem restore_live {saved after : HystereticState D} (hCoherent : state.Coherent heap)
    (hCapacity : state.capacity ≠ 0) (hSaved : Saved heap state saved)
    (hAfter : after.Coherent heap) (hAside : after.aside = saved.aside)
    (hArrays : after = saved ∨ after.boucWen.isSome = decide (state.config.mode = .boucWen)) :
    (hystereticRestore after).1.live = state.live ∧ (hystereticRestore after).1.Coherent heap ∧
      (hystereticRestore after).1.config = state.config := by
  obtain ⟨snapshot, hSnapshot, hLanes⟩ := hSaved.snapshot
  obtain ⟨live, hLive, -, -⟩ := hCoherent.output hCapacity
  simp only [aside, Prod.mk.injEq] at hAside
  obtain ⟨hConfig, hSize, hOutputCopy, hZCopy, hXCopy, hSnapshotCapacity, hWasInitialized, hHad, -⟩ :=
    hAside
  rw [hSaved.config] at hConfig
  rw [hSaved.capacity] at hSize
  rw [hSnapshot] at hOutputCopy
  rw [hSaved.snapshotInitialized] at hWasInitialized
  rw [hSaved.snapshotHasBoucWen] at hHad
  have hPositive : after.capacity ≠ 0 := hSize.symm ▸ hCapacity
  obtain ⟨output, hOutput, hBytes, -⟩ := hAfter.output hPositive
  have hLarge : after.capacity ≤ after.snapshotCapacity := by
    rw [hSize, hSnapshotCapacity]
    exact hSaved.large
  have hInside : DoubleBuffer.CopyFits (after.capacity * 8) snapshot output := by
    constructor
    · rw [hAfter.snapshot snapshot hOutputCopy]
      exact Nat.mul_le_mul_right 8 hLarge
    · exact hBytes.ge
  have hOutputLane : ∀ k < state.capacity,
      (DoubleBuffer.copy (after.capacity * 8) snapshot output).lane k = live.lane k := by
    intro k hK
    rw [lane_copy (hSize.symm ▸ hK)]
    exact hLanes live hLive k hK
  have hMode : state.initialized = true →
      state.boucWen.isSome = decide (state.config.mode = .boucWen) :=
    fun hInitialized => hCoherent.mode hInitialized hCapacity
  -- It is enough to bring back the flag and, where it is set, the Bouc-Wen arrays.
  have hKept : ∀ (arrays : Option (DoubleBuffer D × DoubleBuffer D)) (initialized : Bool),
      initialized = state.initialized →
      (∀ z xPrev, arrays = some (z, xPrev) →
        z.bytes = after.capacity * 8 ∧ xPrev.bytes = after.capacity * 8) →
      (state.initialized = true → arrays.isSome = state.boucWen.isSome ∧
        ∀ z xPrev stateZ stateX, arrays = some (z, xPrev) → state.boucWen = some (stateZ, stateX) →
          ∀ k < state.capacity, z.lane k = stateZ.lane k ∧ xPrev.lane k = stateX.lane k) →
      let restored : HystereticState D := { after with
        outputState := some (DoubleBuffer.copy (after.capacity * 8) snapshot output)
        boucWen := arrays
        initialized := initialized }
      restored.live = state.live ∧ restored.Coherent heap ∧ restored.config = state.config := by
    intro arrays initialized hInitialized hSizes hSame
    dsimp only
    refine ⟨?_, ?_, hConfig⟩
    · refine @live_congr D _ state _ hSize hInitialized ?_
      intro hSet k hK
      obtain ⟨hSome, hCells⟩ := hSame hSet
      rw [cell, cell, hLive]
      dsimp only
      rw [Option.map_some, Option.map_some, hOutputLane k hK]
      cases arrays with
      | none =>
          rw [Option.isSome_none, eq_comm, Option.isSome_eq_false_iff, Option.isNone_iff_eq_none] at hSome
          rw [hSome]
      | some arrays =>
          rw [Option.isSome_some, eq_comm, Option.isSome_iff_exists] at hSome
          obtain ⟨stateArrays, hStateArrays⟩ := hSome
          obtain ⟨hZ, hX⟩ := hCells _ _ _ _ rfl hStateArrays k hK
          rw [hStateArrays]
          simp [hZ, hX]
    · refine @Coherent.restored D heap after hAfter hPositive (.copy (after.capacity * 8) snapshot output)
        hBytes arrays initialized hSizes ?_
      intro hSet
      rw [hConfig, (hSame (hInitialized ▸ hSet)).1]
      exact hMode (hInitialized ▸ hSet)
  have hSnapshots : after.snapshotHasBoucWen = true → ∃ snapshotZ snapshotXPrev,
      after.snapshotZ = some snapshotZ ∧ after.snapshotXPrev = some snapshotXPrev ∧
        after.capacity * 8 ≤ snapshotZ.bytes ∧ after.capacity * 8 ≤ snapshotXPrev.bytes := by
    intro hHas
    rw [hHad, Option.isSome_iff_exists] at hHas
    obtain ⟨⟨stateZ, stateX⟩, hStateArrays⟩ := hHas
    obtain ⟨snapshotZ, snapshotX, hSnapshotZ, hSnapshotX, hZ, hX, -⟩ :=
      hSaved.arrays stateZ stateX hStateArrays
    rw [hZCopy, hXCopy, hSize]
    exact ⟨snapshotZ, snapshotX, hSnapshotZ, hSnapshotX, hZ, hX⟩
  obtain ⟨arrays, initialized, hRestored, hCases⟩ :=
    restore_cases hAfter hOutput hOutputCopy hPositive hLarge hSnapshots
  rw [hRestored]
  rcases hCases with ⟨z, xPrev, snapshotZ, snapshotX, hAfterArrays, hHas, hSnapshotZ, hSnapshotX,
    rfl, rfl⟩ | ⟨hLost, rfl, rfl⟩
  · rw [hHad, Option.isSome_iff_exists] at hHas
    obtain ⟨⟨stateZ, stateX⟩, hStateArrays⟩ := hHas
    obtain ⟨zCopy, xCopy, hZCopied, hXCopied, -, -, hCells⟩ :=
      hSaved.arrays stateZ stateX hStateArrays
    rw [hZCopy, hZCopied, Option.some.injEq] at hSnapshotZ
    rw [hXCopy, hXCopied, Option.some.injEq] at hSnapshotX
    subst hSnapshotZ hSnapshotX
    apply hKept _ _ hWasInitialized
    · rintro _ _ ⟨⟩
      exact hAfter.boucWen z xPrev hAfterArrays
    · intro _
      apply And.intro (hStateArrays ▸ rfl)
      rintro _ _ stateZ' stateX' ⟨⟩ hState k hK
      rw [hStateArrays] at hState
      cases hState
      rw [lane_copy (hSize.symm ▸ hK), lane_copy (hSize.symm ▸ hK)]
      exact hCells k hK
  · -- The arrays are those of the application: none where the state is initialised.
    have hNone : state.initialized = true → state.config.mode ≠ .boucWen ∧
        state.boucWen = none ∧ after.boucWen = none := by
      intro hInitialized
      have hHere := hMode hInitialized
      cases hStateArrays : state.boucWen with
      | none =>
          rw [hStateArrays, Option.isSome_none, eq_comm] at hHere
          refine ⟨of_decide_eq_false hHere, rfl, ?_⟩
          rw [← Option.isNone_iff_eq_none, ← Option.isSome_eq_false_iff]
          cases hArrays with
          | inl hSame =>
              rw [hSame, hSaved.boucWen, hStateArrays]
              rfl
          | inr hPrepared => rw [hPrepared, hHere]
      | some stateArrays =>
          have hGone := hLost (hHad.trans (hStateArrays ▸ rfl))
          rw [hStateArrays, Option.isSome_some] at hHere
          cases hArrays with
          | inl hSame =>
              rw [hSame, hSaved.boucWen, hStateArrays] at hGone
              cases hGone
          | inr hPrepared =>
              rw [hGone, ← hHere] at hPrepared
              cases hPrepared
    apply hKept _ _ ?_ hAfter.boucWen
    · intro hInitialized
      obtain ⟨-, hStateNone, hAfterNone⟩ := hNone hInitialized
      rw [hStateNone, hAfterNone]
      apply And.intro rfl
      rintro _ _ _ _ ⟨⟩
    · rw [hConfig, hWasInitialized]
      split
      case isFalse => rfl
      case isTrue hBoucWen =>
        symm
        rw [← Bool.not_eq_true]
        exact fun hInitialized => (hNone hInitialized).1 hBoucWen

/-- The memory behind saving, applying and restoring. -/
def afterDrift (heap : Heap) (dt : D) (fields : List (SimField D)) (runtime : SimRuntimeState D)
    (state : HystereticState D) : HystereticState D :=
  match hystereticSave heap state with
  | (saved, .error _) => saved
  | (saved, .ok _) =>
      (hystereticRestore (hystereticApply heap dt fields runtime saved).memory).1

/-- In drift, an application for which the state is ready leaves its live cells. -/
theorem afterDrift_live (hCoherent : state.Coherent heap) {fields : List (SimField D)}
    (hReady : state.DriftReady fields) (runtime : SimRuntimeState D) :
    (state.afterDrift heap dt fields runtime).live = state.live ∧
      (state.afterDrift heap dt fields runtime).Coherent heap ∧
      (state.afterDrift heap dt fields runtime).config = state.config := by
  rw [afterDrift]
  rcases save_cases hCoherent hReady.room with
    ⟨hZero, hSave⟩ | ⟨saved, failure, hSave, hRefused⟩ | ⟨saved, hSave, hCapacity, hSaved⟩
  · have hSame : (hystereticApply heap dt fields runtime state).memory = state := by
      rw [hystereticApply]
      dsimp only
      split
      case h_1 => rfl
      case h_2 complex count hDescribe =>
        by_cases hCount : count = 0
        · rw [if_pos hCount]
        · exact absurd ((hReady.prepared complex count hDescribe hCount).symm.trans hZero) hCount
    rw [hSave]
    dsimp only
    rw [hSame, hystereticRestore, (hCoherent.empty hZero).1]
    exact ⟨rfl, hCoherent, rfl⟩
  · rw [hSave]
    exact ⟨hRefused.live, hRefused.coherent, hRefused.config⟩
  · rw [hSave]
    have hSavedReady : ∀ complex count, hystereticDescribeFields fields[saved.config.inputField]?
        fields[saved.config.outputField]? = .ok (complex, count) → count ≠ 0 →
          saved.capacity = count := by
      rw [hSaved.config, hSaved.capacity]
      exact hReady.prepared
    obtain ⟨hAside, hArrays⟩ := @apply_aside D _ heap saved dt hSaved.coherent fields hSavedReady runtime
    rw [hSaved.config] at hArrays
    exact restore_live hCoherent hCapacity hSaved
      (@apply_refines D _ heap saved dt hSaved.coherent fields runtime).coherent hAside hArrays

/-! ### Runs -/

/-- States with the same configuration and the same live cells. -/
def Alike (heap : Heap) (state other : HystereticState D) : Prop :=
  state.Coherent heap ∧ other.Coherent heap ∧ state.config = other.config ∧ state.live = other.live

theorem Coherent.update (hCoherent : state.Coherent heap) (fields : List (SimField D))
    (config : SimHystereticOperatorConfig D) :
    (hystereticUpdate fields config state).1.Coherent heap := by
  rw [hystereticUpdate]
  split
  case h_1 => exact hCoherent
  case h_2 =>
    constructor
    case mode => rintro ⟨⟩
    case empty => exact hCoherent.empty
    case output => exact hCoherent.output
    case boucWen => exact hCoherent.boucWen
    case snapshot => exact hCoherent.snapshot
    case noSnapshot => exact hCoherent.noSnapshot
    case inBounds => exact hCoherent.inBounds

end HystereticState

open HystereticState

/-- The drift application of a call finds the state ready. -/
def HystereticReady (state : HystereticState D) :
    StatefulCall D (HystereticState D) (SimHystereticOperatorConfig D) → Prop
  | .apply context => state.DriftReady context.fields
  | .update _ _ => True

section Runs

variable {inputField outputField : SizeT} {needsComplex : Bool} {config : SimOperatorConfig D}
  {address : ℕ} {sets : SplitAccessSets}

theorem hysteretic_call {state other : HystereticState D}
    (call : StatefulCall D (HystereticState D) (SimHystereticOperatorConfig D))
    (hAlike : Alike heap state other) (hCall : call.isDrift = false) :
    let operator := hystereticOperator heap inputField outputField needsComplex config address sets
    (operator.step state call).2 = (operator.step other call).2 ∧
      Alike heap (operator.step state call).1 (operator.step other call).1 := by
  obtain ⟨hState, hOther, hConfig, hLive⟩ := hAlike
  dsimp only
  cases call with
  | apply context =>
      rw [StatefulOperator.step_committed hCall, StatefulOperator.step_committed hCall]
      have hOutcome : ∀ memory, (hystereticOperator heap inputField outputField needsComplex config
          address sets).evaluate context.fields context.runtime memory =
            hystereticApply heap (splitTimestep (hystereticSubstep heap) context.runtime)
              context.fields context.runtime memory := fun _ => rfl
      obtain ⟨hWrites, hResult, hMemory, hKept, hCoherent⟩ := @apply_refines D _ heap state
        (splitTimestep (hystereticSubstep heap) context.runtime) hState context.fields context.runtime
      obtain ⟨hWritesOther, hResultOther, hMemoryOther, hKeptOther, hCoherentOther⟩ :=
        @apply_refines D _ heap other (splitTimestep (hystereticSubstep heap) context.runtime) hOther
          context.fields context.runtime
      dsimp only
      rw [hOutcome, hOutcome, hWrites, hWritesOther, hResult, hResultOther, hConfig, hLive]
      apply And.intro rfl
      apply And.intro hCoherent
      apply And.intro hCoherentOther
      constructor
      · rw [hKept, hKeptOther, hConfig]
      · rw [hMemory, hMemoryOther, hConfig, hLive]
  | update fields updated =>
      have hUpdate : ∀ state : HystereticState D,
          ((hystereticOperator heap inputField outputField needsComplex config address sets).step
            state (.update fields updated)) =
              ((hystereticUpdate fields updated state).1,
                ⟨fields, (hystereticUpdate fields updated state).2⟩) := fun _ => rfl
      rw [hUpdate, hUpdate]
      have hKept := hState.update fields updated
      have hKeptOther := hOther.update fields updated
      rw [hystereticUpdate] at hKept hKeptOther ⊢
      rw [hystereticUpdate]
      cases hDescribe : hystereticDescribeFields fields[updated.normalize.inputField]?
          fields[updated.normalize.outputField]? with
      | error failure => exact ⟨rfl, hState, hOther, hConfig, hLive⟩
      | ok described =>
          rw [hDescribe] at hKept hKeptOther
          exact ⟨rfl, hKept, hKeptOther, rfl, rfl⟩

theorem hysteretic_probe {state other : HystereticState D}
    (call : StatefulCall D (HystereticState D) (SimHystereticOperatorConfig D))
    (hAlike : Alike heap state other) (hCall : call.isDrift = true)
    (hReady : HystereticReady state call) :
    Alike heap
      ((hystereticOperator heap inputField outputField needsComplex config address sets).step
        state call).1 other := by
  obtain ⟨hState, hOther, hConfig, hLive⟩ := hAlike
  cases call with
  | update fields updated => cases hCall
  | apply context =>
      obtain ⟨hKeptLive, hKept, hKeptConfig⟩ := @afterDrift_live D _ heap state
        (splitTimestep (hystereticSubstep heap) context.runtime) hState context.fields hReady
        context.runtime
      have hStep : ((hystereticOperator heap inputField outputField needsComplex config address
          sets).step state (.apply context)).1 = state.afterDrift heap
            (splitTimestep (hystereticSubstep heap) context.runtime) context.fields
            context.runtime := by
        have hSave : (hystereticOperator heap inputField outputField needsComplex config address
            sets).save state = hystereticSave heap state := rfl
        rw [StatefulOperator.step_drift hCall, afterDrift, hSave]
        cases hystereticSave heap state with
        | mk saved result => cases result <;> rfl
      rw [hStep]
      exact ⟨hKept, hOther, hKeptConfig.trans hConfig, hKeptLive.trans hLive⟩

end Runs

end Oakfield
