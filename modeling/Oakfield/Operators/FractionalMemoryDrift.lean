import Oakfield.Operators.FractionalMemory

/-! What an application in drift leaves of the memory of `fractional_memory`. -/
namespace Oakfield

open KernelIR CDouble Library

variable {D : Type} [CDouble D] {heap : Heap}

/-- Doubles which compare equal are the same, unless both are zeros. -/
def CDouble.EqExact (D : Type) [CDouble D] : Prop :=
  ∀ a b : D, eq a b = true → le a zero = false ∨ le b zero = false → a = b

/-- The timestep which `sim_split_eval` forwards to a substep. -/
def splitTimestep {μ : Type} (substep : SimSplitSubstep D μ) (runtime : SimRuntimeState D) : D :=
  let baseDt :=
    if le runtime.timestep zero then lit 1 (-12) else runtime.timestep
  mul baseDt (if gt substep.dtScale zero then substep.dtScale else one)

namespace FractionalMemoryState

variable {state other : FractionalMemoryState D} {count : ℕ} {dt : D}

/-! ### The observable part -/

/-- The state without what an application recomputes or does not read: caches
are filled in or empty, and there is no snapshot. -/
def canonical (heap : Heap) (state : FractionalMemoryState D) : FractionalMemoryState D :=
  { state with
    coefficients :=
      if heap.calloc state.config.memorySteps 8 then
        some (fractionalMemoryCoefficient state.config.order)
      else none
    historySnapshot := none
    historySnapshotBytes := 0
    snapshotHead := 0
    snapshotCount := 0
    responseScaleCache := none
    overran := false }

/-- Caches hold what they stand for, and buffers have the sizes on record. -/
structure Coherent (heap : Heap) (state : FractionalMemoryState D) : Prop where
  steps : 0 < state.config.memorySteps
  head : state.head < state.config.memorySteps
  order : le state.config.order zero = false ∨ state.config.order = half
  coefficients : ∀ coefficients, state.coefficients = some coefficients →
    coefficients = fractionalMemoryCoefficient state.config.order ∧
      heap.calloc state.config.memorySteps 8 = true
  cache : ∀ cachedDt value, state.responseScaleCache = some (cachedDt, value) →
    value = scaleValue state.config cachedDt
  history : ∀ history, state.history = some history → history.bytes < 2 ^ 64
  snapshot : ∀ snapshot, state.historySnapshot = some snapshot →
    snapshot.bytes = state.historySnapshotBytes
  unused : state.capacity = 0 → state.historySnapshot = none
  inBounds : state.overran = false

theorem normalize_steps (config : FractionalMemoryOperatorConfig D) :
    0 < config.normalize.memorySteps := by
  rw [FractionalMemoryOperatorConfig.normalize]
  dsimp only
  split
  case isTrue => exact Nat.succ_pos 31
  case isFalse hSteps => exact Nat.pos_of_ne_zero hSteps

theorem normalize_order (config : FractionalMemoryOperatorConfig D) :
    le config.normalize.order zero = false ∨ config.normalize.order = half := by
  rw [FractionalMemoryOperatorConfig.normalize]
  dsimp only
  cases hOrder : le config.order zero with
  | true => exact .inr rfl
  | false => exact .inl hOrder

theorem coherent_added (heap : Heap) (config : FractionalMemoryOperatorConfig D) :
    (added config).Coherent heap := by
  constructor
  case steps => exact normalize_steps config
  case head => exact normalize_steps config
  case order => exact normalize_order config
  case unused => exact fun _ => rfl
  case inBounds => rfl
  case cache => rintro _ _ ⟨⟩
  case coefficients | history | snapshot => rintro _ ⟨⟩

/-! ### Preparing -/

theorem resize_canonical (heap : Heap) (count : ℕ) (state : FractionalMemoryState D) :
    (state.canonical heap).resize heap count =
      ((state.resize heap count).1.canonical heap, (state.resize heap count).2) := by
  rw [resize, resize]
  show (if state.capacity = count then _ else _) = _
  dsimp only [canonical]
  split
  · rfl
  · split <;> rfl

theorem bytes_allocZeroed {bytes : ℕ} {buffer : DoubleBuffer D}
    (hAlloc : DoubleBuffer.allocZeroed heap bytes = some buffer) : buffer.bytes = bytes := by
  rw [DoubleBuffer.allocZeroed] at hAlloc
  split at hAlloc
  case isTrue => cases hAlloc
  case isFalse =>
    cases hAlloc
    rfl

theorem Coherent.resize (hCoherent : state.Coherent heap) (hCount : count ≠ 0) :
    (state.resize heap count).1.Coherent heap := by
  have hHistory : ∀ history : DoubleBuffer D,
      DoubleBuffer.allocZeroed heap (state.config.memorySteps * count * 8 % 2 ^ 64) = some history →
        history.bytes < 2 ^ 64 := by
    intro history hAlloc
    rw [bytes_allocZeroed hAlloc]
    exact Nat.mod_lt _ (by decide)
  rw [FractionalMemoryState.resize]
  split
  case isTrue => exact hCoherent
  case isFalse =>
    dsimp only
    split
    case isTrue =>
      constructor
      case steps => exact hCoherent.steps
      case head => exact hCoherent.head
      case order => exact hCoherent.order
      case coefficients => exact hCoherent.coefficients
      case cache => exact hCoherent.cache
      case history => exact hHistory
      case snapshot => rintro _ ⟨⟩
      case unused => exact fun _ => rfl
      case inBounds => exact hCoherent.inBounds
    case isFalse =>
      constructor
      case steps => exact hCoherent.steps
      case head => exact hCoherent.steps
      case order => exact hCoherent.order
      case coefficients => exact hCoherent.coefficients
      case cache => exact hCoherent.cache
      case history => exact hHistory
      case snapshot => rintro _ ⟨⟩
      case unused => exact fun hZero => absurd hZero hCount
      case inBounds => exact hCoherent.inBounds

theorem prepareCoefficients_canonical (hCoherent : state.Coherent heap) :
    (state.canonical heap).prepareCoefficients heap =
      ((state.prepareCoefficients heap).1.canonical heap, (state.prepareCoefficients heap).2) := by
  rw [prepareCoefficients, prepareCoefficients]
  cases hCoefficients : state.coefficients with
  | none =>
      cases hHeap : heap.calloc state.config.memorySteps 8 <;> simp [canonical, hHeap]
  | some coefficients =>
      obtain ⟨-, hHeap⟩ := hCoherent.coefficients coefficients hCoefficients
      simp [canonical, hHeap]

theorem Coherent.prepareCoefficients (hCoherent : state.Coherent heap) :
    (state.prepareCoefficients heap).1.Coherent heap ∧
      ((state.prepareCoefficients heap).2 = .ok () →
        (state.prepareCoefficients heap).1.coefficients =
          some (fractionalMemoryCoefficient state.config.order)) := by
  rw [FractionalMemoryState.prepareCoefficients]
  cases hCoefficients : state.coefficients with
  | some coefficients =>
      obtain ⟨hEq, -⟩ := hCoherent.coefficients coefficients hCoefficients
      refine ⟨hCoherent, fun _ => ?_⟩
      rw [← hEq]
      exact hCoefficients
  | none =>
      cases hHeap : heap.calloc state.config.memorySteps 8 with
      | false =>
          refine ⟨hCoherent, fun hOk => ?_⟩
          cases hOk
      | true =>
          refine ⟨?_, fun _ => rfl⟩
          constructor
          case coefficients =>
            rintro _ ⟨⟩
            exact ⟨rfl, hHeap⟩
          case steps => exact hCoherent.steps
          case head => exact hCoherent.head
          case order => exact hCoherent.order
          case cache => exact hCoherent.cache
          case history => exact hCoherent.history
          case snapshot => exact hCoherent.snapshot
          case unused => exact hCoherent.unused
          case inBounds => exact hCoherent.inBounds

theorem prepare_canonical (hCoherent : state.Coherent heap) (hCount : count ≠ 0) :
    (state.canonical heap).prepare heap count =
      ((state.prepare heap count).1.canonical heap, (state.prepare heap count).2) := by
  have hResized := @Coherent.resize D _ heap state count hCoherent hCount
  rw [prepare, prepare, resize_canonical]
  cases hRun : state.resize heap count with
  | mk resized result =>
      rw [hRun] at hResized
      cases result with
      | error failure => rfl
      | ok code => exact prepareCoefficients_canonical hResized

theorem config_resize (heap : Heap) (count : ℕ) (state : FractionalMemoryState D) :
    (state.resize heap count).1.config = state.config := by
  rw [resize]
  split
  · rfl
  · dsimp only
    split <;> rfl

theorem config_prepare (heap : Heap) (count : ℕ) (state : FractionalMemoryState D) :
    (state.prepare heap count).1.config = state.config := by
  have hResize := config_resize heap count state
  rw [prepare]
  cases hRun : state.resize heap count with
  | mk resized result =>
      rw [hRun] at hResize
      cases result with
      | error failure => exact hResize
      | ok code =>
          rw [← hResize]
          dsimp only
          rw [prepareCoefficients]
          split
          · rfl
          · split <;> rfl

/-- A prepared state has its coefficients. -/
theorem Coherent.prepare (hCoherent : state.Coherent heap) (hCount : count ≠ 0) :
    (state.prepare heap count).1.Coherent heap ∧ ((state.prepare heap count).2 = .ok () →
      (state.prepare heap count).1.coefficients =
        some (fractionalMemoryCoefficient state.config.order)) := by
  have hResized := @Coherent.resize D _ heap state count hCoherent hCount
  have hConfig := config_resize heap count state
  rw [FractionalMemoryState.prepare]
  cases hRun : state.resize heap count with
  | mk resized result =>
      rw [hRun] at hResized hConfig
      cases result with
      | error failure =>
          refine ⟨hResized, fun hOk => ?_⟩
          cases hOk
      | ok code =>
          rw [← hConfig]
          exact hResized.prepareCoefficients

/-! ### Applying -/

omit [CDouble D] in
theorem push_head (hSteps : 0 < state.config.memorySteps)
    (hHead : state.head < state.config.memorySteps) (current : ℕ → D) :
    (state.push count current).head < state.config.memorySteps := by
  rw [push]
  dsimp only
  split <;> omega

theorem Coherent.push (hCoherent : state.Coherent heap) (current : ℕ → D) :
    (state.push count current).Coherent heap := by
  constructor
  case head => exact push_head hCoherent.steps hCoherent.head current
  case history =>
    intro history hHistory
    rw [FractionalMemoryState.push, Option.map_eq_some_iff] at hHistory
    obtain ⟨before, hBefore, rfl⟩ := hHistory
    exact hCoherent.history before hBefore
  case steps => exact hCoherent.steps
  case order => exact hCoherent.order
  case coefficients => exact hCoherent.coefficients
  case cache => exact hCoherent.cache
  case snapshot => exact hCoherent.snapshot
  case unused => exact hCoherent.unused
  case inBounds => exact hCoherent.inBounds

/-- The response scale is the same with and without its cache. -/
theorem responseScale_value (hExact : CDouble.EqExact D) (hCoherent : state.Coherent heap)
    (hDt : le dt zero = false) :
    (state.responseScale dt).2 = scaleValue state.config dt := by
  rw [responseScale]
  cases hCache : state.responseScaleCache with
  | none => rfl
  | some cached =>
      obtain ⟨cachedDt, value⟩ := cached
      dsimp only
      split
      case isFalse => rfl
      case isTrue hEq =>
        rw [← hExact cachedDt dt hEq (.inr hDt)]
        exact hCoherent.cache cachedDt value hCache

theorem Coherent.responseScale (hCoherent : state.Coherent heap) (dt : D) :
    (state.responseScale dt).1.Coherent heap := by
  have hFilled : ({ state with
      responseScaleCache := some (dt, scaleValue state.config dt) } :
        FractionalMemoryState D).Coherent heap := by
    constructor
    case cache =>
      rintro _ _ ⟨⟩
      rfl
    case steps => exact hCoherent.steps
    case head => exact hCoherent.head
    case order => exact hCoherent.order
    case coefficients => exact hCoherent.coefficients
    case history => exact hCoherent.history
    case snapshot => exact hCoherent.snapshot
    case unused => exact hCoherent.unused
    case inBounds => exact hCoherent.inBounds
  rw [FractionalMemoryState.responseScale]
  split
  · split
    · exact hCoherent
    · exact hFilled
  · exact hFilled

/-- Using the cache changes nothing else. -/
theorem responseScale_cases (dt : D) (state : FractionalMemoryState D) :
    ∃ cache, (state.responseScale dt).1 = { state with responseScaleCache := cache } := by
  rw [FractionalMemoryState.responseScale]
  split
  · split
    · exact ⟨state.responseScaleCache, rfl⟩
    · exact ⟨_, rfl⟩
  · exact ⟨_, rfl⟩

theorem responseScale_canonical (dt : D) (state : FractionalMemoryState D) :
    (state.responseScale dt).1.canonical heap = state.canonical heap := by
  obtain ⟨cache, hCache⟩ := responseScale_cases dt state
  rw [hCache]
  rfl

theorem argument_positive {fields : List (SimField D)} {field : SimField D} {data : FieldData D}
    (hArgument : state.argument dt fields = some (field, data)) :
    le dt zero = false ∧ field.bytes / 8 ≠ 0 := by
  rw [argument] at hArgument
  split at hArgument
  case isTrue => cases hArgument
  case isFalse hChecks =>
    rw [Bool.or_eq_true, not_or, Bool.not_eq_true, Bool.not_eq_true] at hChecks
    split at hArgument
    · cases hArgument
    · split at hArgument
      · cases hArgument
      · split at hArgument
        case isTrue => cases hArgument
        case isFalse hBytes =>
          cases hArgument
          exact ⟨hChecks.2, hBytes⟩

/-- The response is that of the canonical state once there are coefficients. -/
theorem historyResponse_canonical (hExact : CDouble.EqExact D) (hCoherent : state.Coherent heap)
    (hDt : le dt zero = false)
    (hCoefficients : state.coefficients =
      some (fractionalMemoryCoefficient state.config.order)) (current : ℕ → D) :
    (state.responseScale dt).1.historyResponse current count (state.responseScale dt).2 =
      ((state.canonical heap).responseScale dt).1.historyResponse current count
        ((state.canonical heap).responseScale dt).2 := by
  obtain ⟨-, hHeap⟩ := hCoherent.coefficients _ hCoefficients
  obtain ⟨cache, hCache⟩ := responseScale_cases dt state
  have hSeen : (state.canonical heap).coefficients = state.coefficients := by
    rw [hCoefficients, canonical, if_pos hHeap]
  rw [responseScale_value hExact hCoherent hDt, hCache]
  show state.historyResponse current count (scaleValue state.config dt) =
    (state.canonical heap).historyResponse current count (scaleValue state.config dt)
  rw [historyResponse, historyResponse, hSeen]
  rfl

/-- An application sees the canonical state only. -/
theorem apply_canonical (hExact : CDouble.EqExact D) (hCoherent : state.Coherent heap)
    (fields : List (SimField D)) (runtime : SimRuntimeState D) :
    let outcome := fractionalMemoryApply heap dt fields runtime state
    let seen := fractionalMemoryApply heap dt fields runtime (state.canonical heap)
    outcome.writes = seen.writes ∧ outcome.result = seen.result ∧
      outcome.memory.canonical heap = seen.memory.canonical heap ∧ outcome.memory.Coherent heap := by
  dsimp only
  rw [fractionalMemoryApply, fractionalMemoryApply]
  have hSame : (state.canonical heap).argument dt fields = state.argument dt fields := rfl
  rw [hSame]
  cases hArgument : state.argument dt fields with
  | none => exact ⟨rfl, rfl, rfl, hCoherent⟩
  | some found =>
      obtain ⟨field, data⟩ := found
      obtain ⟨hDt, hCount⟩ := argument_positive hArgument
      obtain ⟨hPrepared, hCoefficients⟩ := hCoherent.prepare hCount
      have hConfig := config_prepare heap (field.bytes / 8) state
      dsimp only
      rw [prepare_canonical hCoherent hCount]
      cases hRun : state.prepare heap (field.bytes / 8) with
      | mk prepared result =>
          rw [hRun] at hPrepared hCoefficients hConfig
          cases result with
          | error failure => exact ⟨rfl, rfl, rfl, hPrepared⟩
          | ok code =>
              have hPushed := @Coherent.push D _ heap prepared (field.bytes / 8) hPrepared data.lane
              have hFilled : (prepared.push (field.bytes / 8) data.lane).coefficients =
                  some (fractionalMemoryCoefficient
                    (prepared.push (field.bytes / 8) data.lane).config.order) := by
                rw [show (prepared.push (field.bytes / 8) data.lane).config = state.config from
                  hConfig]
                exact hCoefficients rfl
              have hResponse := @historyResponse_canonical D _ heap _ (field.bytes / 8) dt hExact
                hPushed hDt hFilled data.lane
              refine ⟨?_, rfl, ?_, hPushed.responseScale dt⟩
              · funext i
                dsimp only
                rw [hResponse]
                rfl
              · dsimp only
                rw [responseScale_canonical]
                exact (responseScale_canonical dt
                  ((prepared.push (field.bytes / 8) data.lane).canonical heap)).symm

/-! ### Saving and restoring -/

/-- A history has the size which the capacity stands for. Only an allocation that
failed while the field changed its size leaves it otherwise. -/
def Fits (state : FractionalMemoryState D) : Prop :=
  ∀ history, state.history = some history →
    history.bytes = state.config.memorySteps * state.capacity * 8

/-- An application which gets past its argument checks finds a history for the
current size of its field. -/
def DriftReady (state : FractionalMemoryState D) (dt : D) (fields : List (SimField D)) : Prop :=
  state.Fits ∧ ∀ field data, state.argument dt fields = some (field, data) →
    state.history.isSome = true ∧ state.capacity = field.bytes / 8

/-- The state with a snapshot of its history. -/
structure Saved (state saved : FractionalMemoryState D) (history snapshot : DoubleBuffer D) :
    Prop where
  saved_eq : saved = { state with
    historySnapshot := some snapshot
    historySnapshotBytes := snapshot.bytes
    snapshotHead := state.head
    snapshotCount := state.count }
  history_eq : state.history = some history
  capacity : state.capacity ≠ 0
  size : history.bytes = state.config.memorySteps * state.capacity * 8
  bytes : state.historyBytes = history.bytes
  fits : history.bytes ≤ snapshot.bytes
  lanes : ∀ k < history.bytes / 8, snapshot.lane k = history.lane k

theorem bytes_realloc {bytes : ℕ} {old : Option (DoubleBuffer D)} {buffer : DoubleBuffer D}
    (hRealloc : DoubleBuffer.realloc heap bytes old = some buffer) : buffer.bytes = bytes := by
  cases old with
  | none =>
      rw [DoubleBuffer.realloc] at hRealloc
      split at hRealloc <;> cases hRealloc
      rfl
  | some old =>
      rw [DoubleBuffer.realloc] at hRealloc
      split at hRealloc <;> cases hRealloc
      rfl

/-- A snapshot buffer is as large as it has to be, and as its record says. -/
theorem growSnapshot_bytes (hCoherent : state.Coherent heap) {bytes recorded : ℕ}
    {target : DoubleBuffer D} (hGrow : state.growSnapshot heap bytes = some (target, recorded)) :
    target.bytes = recorded ∧ bytes ≤ recorded := by
  have hGrown : (DoubleBuffer.realloc heap bytes state.historySnapshot).map (·, bytes) =
      some (target, recorded) → target.bytes = recorded ∧ bytes ≤ recorded := by
    intro hMap
    rw [Option.map_eq_some_iff] at hMap
    obtain ⟨buffer, hRealloc, hPair⟩ := hMap
    cases hPair
    exact ⟨bytes_realloc hRealloc, Nat.le_refl _⟩
  rw [growSnapshot] at hGrow
  split at hGrow
  case h_1 => exact hGrown hGrow
  case h_2 snapshot hSnapshot =>
    split at hGrow
    case isTrue => exact hGrown hGrow
    case isFalse hLarge =>
      cases hGrow
      exact ⟨hCoherent.snapshot _ hSnapshot, Nat.le_of_not_lt hLarge⟩

theorem save_cases (hCoherent : state.Coherent heap) (hFits : state.Fits) :
    ((state.history = none ∨ state.capacity = 0) ∧
      fractionalMemorySave heap state = (state, .ok ())) ∨
    fractionalMemorySave heap state = (state, .error .outOfMemory) ∨
    ∃ saved history snapshot, Saved state saved history snapshot ∧
      fractionalMemorySave heap state = (saved, .ok ()) := by
  rw [fractionalMemorySave]
  cases hHistory : state.history with
  | none => exact .inl ⟨.inl rfl, rfl⟩
  | some history =>
      have hSize := hFits history hHistory
      have hBytes : state.historyBytes = history.bytes := by
        rw [historyBytes, ← hSize, Nat.mod_eq_of_lt (hCoherent.history history hHistory)]
      by_cases hCapacity : state.capacity = 0
      · exact .inl ⟨.inr hCapacity, if_pos hCapacity⟩
      · right
        dsimp only
        rw [if_neg hCapacity, hBytes]
        cases hGrow : state.growSnapshot heap history.bytes with
        | none => exact .inl rfl
        | some grown =>
            obtain ⟨target, recorded⟩ := grown
            obtain ⟨hTarget, hLarge⟩ := growSnapshot_bytes hCoherent hGrow
            have hInside : DoubleBuffer.CopyFits history.bytes history target :=
              ⟨Nat.le_refl _, hTarget ▸ hLarge⟩
            right
            refine ⟨_, history, .copy history.bytes history target, ?_, rfl⟩
            constructor
            case saved_eq =>
              rw [decide_eq_true hInside, Bool.not_true, Bool.or_false, ← hTarget, ← hHistory]
              rfl
            case history_eq => exact hHistory
            case capacity => exact hCapacity
            case size => exact hSize
            case bytes => exact hBytes
            case fits => exact hInside.2
            case lanes =>
              intro k hK
              exact if_pos hK

/-- An application on a history for the size of the field fills caches, and may
push the field. -/
theorem apply_memory {fields : List (SimField D)} (runtime : SimRuntimeState D)
    (hReady : ∀ field data, state.argument dt fields = some (field, data) →
      state.capacity = field.bytes / 8) :
    ∃ coefficients cache pushed, (pushed = state ∨ ∃ current, pushed =
        state.push state.capacity current) ∧
      (fractionalMemoryApply heap dt fields runtime state).memory =
        { pushed with coefficients := coefficients, responseScaleCache := cache } := by
  rw [fractionalMemoryApply]
  cases hArgument : state.argument dt fields with
  | none => exact ⟨state.coefficients, state.responseScaleCache, state, .inl rfl, rfl⟩
  | some found =>
      obtain ⟨field, data⟩ := found
      have hCapacity := hReady field data hArgument
      dsimp only
      rw [prepare, resize, if_pos hCapacity, ← hCapacity]
      dsimp only
      rw [prepareCoefficients]
      split
      case h_1 prepared failure hRun =>
        refine ⟨state.coefficients, state.responseScaleCache, state, .inl rfl, ?_⟩
        split at hRun
        · cases hRun
        · split at hRun <;> cases hRun
          rfl
      case h_2 prepared code hRun =>
        have hPrepared : ∃ coefficients, prepared = { state with coefficients := coefficients } := by
          split at hRun
          · cases hRun
            exact ⟨state.coefficients, rfl⟩
          · split at hRun <;> cases hRun
            exact ⟨_, rfl⟩
        obtain ⟨coefficients, rfl⟩ := hPrepared
        obtain ⟨cache, hCache⟩ := responseScale_cases dt
          (({ state with coefficients := coefficients } : FractionalMemoryState D).push
            state.capacity data.lane)
        refine ⟨coefficients, cache, _, .inr ⟨data.lane, rfl⟩, ?_⟩
        dsimp only
        rw [hCache]
        rfl

omit [CDouble D] in
/-- A push writes below the size of the history. -/
theorem lane_push {history later : DoubleBuffer D} {current : ℕ → D}
    (hHead : state.head < state.config.memorySteps)
    (hHistory : state.history = some history)
    (hLater : (state.push state.capacity current).history = some later) :
    later.bytes = history.bytes ∧
      ∀ k, state.config.memorySteps * state.capacity ≤ k → later.lane k = history.lane k := by
  have hNext := @push_head D state state.capacity (Nat.zero_lt_of_lt hHead) hHead current
  rw [push, hHistory] at hLater
  cases hLater
  refine ⟨rfl, fun k hK => if_neg ?_⟩
  rintro ⟨-, hBelow⟩
  have hRow : (state.push state.capacity current).head * state.capacity + state.capacity ≤
      state.config.memorySteps * state.capacity := by
    rw [← Nat.succ_mul]
    exact Nat.mul_le_mul_right _ hNext
  exact absurd (Nat.lt_of_lt_of_le hBelow (hRow.trans hK)) (Nat.lt_irrefl _)

omit [CDouble D] in
/-- Restoring undoes what an application did to a saved history. -/
theorem restore_saved {saved : FractionalMemoryState D} {history snapshot later : DoubleBuffer D}
    {coefficients : Option (ℕ → D)} {cache : Option (D × D)} {head count : ℕ}
    (hSaved : Saved state saved history snapshot) (hBytes : later.bytes = history.bytes)
    (hBeyond : ∀ k, state.config.memorySteps * state.capacity ≤ k → later.lane k = history.lane k) :
    fractionalMemoryRestore { saved with
        coefficients := coefficients
        responseScaleCache := cache
        history := some later
        head := head
        count := count } =
      ({ saved with coefficients := coefficients, responseScaleCache := cache }, .ok ()) := by
  obtain ⟨rfl, hHistory, -, hSize, hRecorded, hFits, hLanes⟩ := hSaved
  have hRestored : DoubleBuffer.copy history.bytes snapshot later = history := by
    have hLane : ∀ k, (DoubleBuffer.copy history.bytes snapshot later).lane k = history.lane k := by
      intro k
      by_cases hK : k < history.bytes / 8
      · exact (if_pos hK).trans (hLanes k hK)
      · apply (if_neg hK).trans
        apply hBeyond
        rw [hSize, Nat.mul_div_cancel _ (by decide : 0 < 8)] at hK
        exact Nat.le_of_not_lt hK
    rw [DoubleBuffer.copy, hBytes]
    cases history
    congr 1
    funext k
    exact hLane k
  have hInside : DoubleBuffer.CopyFits history.bytes snapshot later := ⟨hFits, hBytes.ge⟩
  rw [fractionalMemoryRestore]
  dsimp only [historyBytes] at hRecorded ⊢
  rw [hRecorded, if_neg (Nat.not_lt_of_le hFits), hRestored, decide_eq_true hInside, Bool.not_true,
    Bool.or_false, ← hHistory]

omit [CDouble D] in
theorem Saved.argument {saved : FractionalMemoryState D} {history snapshot : DoubleBuffer D}
    (hSaved : Saved state saved history snapshot) : saved.config = state.config := by
  rw [hSaved.saved_eq]

theorem Saved.canonical {saved : FractionalMemoryState D} {history snapshot : DoubleBuffer D}
    (hSaved : Saved state saved history snapshot) :
    saved.canonical heap = state.canonical heap := by
  rw [hSaved.saved_eq]
  rfl

theorem Saved.coherent {saved : FractionalMemoryState D} {history snapshot : DoubleBuffer D}
    (hSaved : Saved state saved history snapshot) (hCoherent : state.Coherent heap) :
    saved.Coherent heap := by
  obtain ⟨rfl, -, hCapacity, -⟩ := hSaved
  constructor
  case snapshot =>
    rintro _ ⟨⟩
    rfl
  case unused => exact fun hZero => absurd hZero hCapacity
  case steps => exact hCoherent.steps
  case head => exact hCoherent.head
  case order => exact hCoherent.order
  case coefficients => exact hCoherent.coefficients
  case cache => exact hCoherent.cache
  case history => exact hCoherent.history
  case inBounds => exact hCoherent.inBounds

/-- The memory behind saving, applying and restoring. -/
def afterDrift (heap : Heap) (dt : D) (fields : List (SimField D)) (runtime : SimRuntimeState D)
    (state : FractionalMemoryState D) : FractionalMemoryState D :=
  match fractionalMemorySave heap state with
  | (saved, .error _) => saved
  | (saved, .ok _) =>
      (fractionalMemoryRestore (fractionalMemoryApply heap dt fields runtime saved).memory).1

theorem afterDrift_saved {fields : List (SimField D)} {saved : FractionalMemoryState D}
    {history snapshot : DoubleBuffer D} (hSaved : Saved state saved history snapshot)
    (hReady : state.DriftReady dt fields) (hHead : state.head < state.config.memorySteps)
    (runtime : SimRuntimeState D) :
    let applied := (fractionalMemoryApply heap dt fields runtime saved).memory
    applied.config = saved.config ∧
      (fractionalMemoryRestore applied).1 = { saved with
        coefficients := applied.coefficients
        responseScaleCache := applied.responseScaleCache } := by
  have hSavedReady : ∀ field data, saved.argument dt fields = some (field, data) →
      saved.capacity = field.bytes / 8 := by
    intro field data hArgument
    rw [hSaved.saved_eq] at hArgument ⊢
    exact (hReady.2 field data hArgument).2
  obtain ⟨coefficients, cache, pushed, hPushed, hMemory⟩ :=
    @apply_memory D _ heap saved dt fields runtime hSavedReady
  dsimp only
  rw [hMemory]
  have hConfig : pushed.config = saved.config := by
    cases hPushed with
    | inl hSame => rw [hSame]
    | inr hPush =>
        obtain ⟨current, rfl⟩ := hPush
        rfl
  apply And.intro hConfig
  have hSavedHistory : saved.history = some history := by
    rw [hSaved.saved_eq]
    exact hSaved.history_eq
  cases hPushed with
  | inl hSame =>
      have hRestored := @restore_saved D state saved history snapshot history coefficients cache
        saved.head saved.count hSaved rfl fun _ _ => rfl
      rw [← hSavedHistory] at hRestored
      rw [hSame]
      exact congrArg Prod.fst hRestored
  | inr hPush =>
      obtain ⟨current, rfl⟩ := hPush
      cases hLater : (saved.push saved.capacity current).history with
      | none =>
          rw [push, hSavedHistory] at hLater
          cases hLater
      | some later =>
          have hSavedHead : saved.head < saved.config.memorySteps := by
            rw [hSaved.saved_eq]
            exact hHead
          obtain ⟨hBytes, hBeyond⟩ := lane_push hSavedHead hSavedHistory hLater
          have hSize : saved.config.memorySteps * saved.capacity =
              state.config.memorySteps * state.capacity := by
            rw [hSaved.saved_eq]
          rw [hSize] at hBeyond
          have hRestored := @restore_saved D state saved history snapshot later coefficients cache
            (saved.push saved.capacity current).head (saved.push saved.capacity current).count hSaved
            hBytes hBeyond
          exact congrArg Prod.fst hRestored

/-- In drift, an application for which the state is ready leaves what can be
observed of it. -/
theorem afterDrift_canonical (hExact : CDouble.EqExact D) (hCoherent : state.Coherent heap)
    {fields : List (SimField D)} (hReady : state.DriftReady dt fields)
    (runtime : SimRuntimeState D) :
    (state.afterDrift heap dt fields runtime).canonical heap = state.canonical heap ∧
      (state.afterDrift heap dt fields runtime).Coherent heap := by
  rw [afterDrift]
  rcases save_cases hCoherent hReady.1 with ⟨hEmpty, hSave⟩ | hSave | ⟨saved, history, snapshot, hSaved, hSave⟩
  · have hNone : state.argument dt fields = none := by
      cases hArgument : state.argument dt fields with
      | none => rfl
      | some found =>
          obtain ⟨hHistory, hCapacity⟩ := hReady.2 found.1 found.2 hArgument
          obtain ⟨-, hCount⟩ := argument_positive hArgument
          cases hEmpty with
          | inl hMissing =>
              rw [hMissing] at hHistory
              cases hHistory
          | inr hZero => exact absurd (hCapacity.symm.trans hZero) hCount
    have hRestore : fractionalMemoryRestore state = (state, .ok ()) := by
      rw [fractionalMemoryRestore]
      cases hEmpty with
      | inl hMissing =>
          rw [hMissing]
          cases state.historySnapshot <;> rfl
      | inr hZero => rw [hCoherent.unused hZero]
    rw [hSave]
    dsimp only
    rw [fractionalMemoryApply, hNone]
    dsimp only
    rw [hRestore]
    exact ⟨rfl, hCoherent⟩
  · rw [hSave]
    exact ⟨rfl, hCoherent⟩
  · rw [hSave]
    dsimp only
    have hSavedCoherent := hSaved.coherent hCoherent
    obtain ⟨-, -, -, hApplied⟩ := @apply_canonical D _ heap saved dt hExact hSavedCoherent fields runtime
    obtain ⟨hConfig, hRestored⟩ :=
      @afterDrift_saved D _ heap state dt fields saved history snapshot hSaved hReady hCoherent.head runtime
    rw [hRestored]
    constructor
    · exact @Saved.canonical D _ heap state saved history snapshot hSaved
    · constructor
      case coefficients =>
        rw [← hConfig]
        exact hApplied.coefficients
      case cache =>
        rw [← hConfig]
        exact hApplied.cache
      case steps => exact hSavedCoherent.steps
      case head => exact hSavedCoherent.head
      case order => exact hSavedCoherent.order
      case history => exact hSavedCoherent.history
      case snapshot => exact hSavedCoherent.snapshot
      case unused => exact hSavedCoherent.unused
      case inBounds => exact hSavedCoherent.inBounds

/-! ### Updating -/

theorem update_canonical (config : Option (FractionalMemoryOperatorConfig D))
    (state : FractionalMemoryState D) :
    (fractionalMemoryUpdate config state).1.canonical heap =
      (fractionalMemoryUpdate config (state.canonical heap)).1.canonical heap := by
  by_cases hSteps : (config.getD state.config).normalize.memorySteps = state.config.memorySteps
  · simp [fractionalMemoryUpdate, canonical, hSteps]
  · simp [fractionalMemoryUpdate, canonical, hSteps]

theorem Coherent.update (hExact : CDouble.EqExact D) (hCoherent : state.Coherent heap)
    (config : Option (FractionalMemoryOperatorConfig D)) :
    (fractionalMemoryUpdate config state).1.Coherent heap := by
  have hSteps := normalize_steps (config.getD state.config)
  have hOrder := normalize_order (config.getD state.config)
  have hKept : (config.getD state.config).normalize.memorySteps = state.config.memorySteps →
      ne (config.getD state.config).normalize.order state.config.order = false →
        (config.getD state.config).normalize.order = state.config.order := by
    intro hSame hEq
    rw [ne, Bool.not_eq_false'] at hEq
    rcases hOrder with hPositive | hHalf
    · exact hExact _ _ hEq (.inl hPositive)
    · rcases hCoherent.order with hPositive | hStateHalf
      · exact hExact _ _ hEq (.inr hPositive)
      · rw [hHalf, hStateHalf]
  rw [fractionalMemoryUpdate]
  dsimp only
  generalize (config.getD state.config).normalize = fresh at hSteps hOrder hKept ⊢
  by_cases hSame : fresh.memorySteps = state.config.memorySteps
  · rw [if_neg (not_not.mpr hSame)]
    constructor
    case steps => exact hSteps
    case head =>
      show state.head < fresh.memorySteps
      rw [hSame]
      exact hCoherent.head
    case order => exact hOrder
    case coefficients =>
      intro coefficients hCoefficients
      dsimp only at hCoefficients ⊢
      split at hCoefficients
      case isTrue => cases hCoefficients
      case isFalse hUnchanged =>
        rw [not_or, Bool.not_eq_true] at hUnchanged
        rw [hKept hSame hUnchanged.2, hSame]
        exact hCoherent.coefficients coefficients hCoefficients
    case cache => rintro _ _ ⟨⟩
    case history => exact hCoherent.history
    case snapshot => exact hCoherent.snapshot
    case unused => exact hCoherent.unused
    case inBounds => exact hCoherent.inBounds
  · rw [if_pos hSame]
    constructor
    case steps => exact hSteps
    case head => exact hSteps
    case order => exact hOrder
    case coefficients =>
      intro coefficients hCoefficients
      dsimp only at hCoefficients
      rw [if_pos (.inl hSame)] at hCoefficients
      cases hCoefficients
    case cache => rintro _ _ ⟨⟩
    case history | snapshot => rintro _ ⟨⟩
    case unused => exact fun _ => rfl
    case inBounds => exact hCoherent.inBounds

/-! ### Runs -/

/-- States which differ in what cannot be observed. -/
def Alike (heap : Heap) (state other : FractionalMemoryState D) : Prop :=
  state.Coherent heap ∧ other.Coherent heap ∧ state.canonical heap = other.canonical heap

end FractionalMemoryState

open FractionalMemoryState

/-- The drift application of a call finds the state ready. -/
def FractionalMemoryReady (heap : Heap) (state : FractionalMemoryState D) :
    StatefulCall D (FractionalMemoryState D) (Option (FractionalMemoryOperatorConfig D)) → Prop
  | .apply context =>
      state.DriftReady (splitTimestep (fractionalMemorySubstep heap) context.runtime) context.fields
  | .update _ _ => True

section Runs

variable {fieldIndex : SizeT} {needsComplex : Bool} {config : SimOperatorConfig D} {address : ℕ}
  {sets : SplitAccessSets}

theorem fractionalMemory_call (hExact : CDouble.EqExact D) {state other : FractionalMemoryState D}
    (call : StatefulCall D (FractionalMemoryState D) (Option (FractionalMemoryOperatorConfig D)))
    (hAlike : Alike heap state other) (hCall : call.isDrift = false) :
    let operator := fractionalMemoryOperator heap fieldIndex needsComplex config address sets
    (operator.step state call).2 = (operator.step other call).2 ∧
      Alike heap (operator.step state call).1 (operator.step other call).1 := by
  obtain ⟨hState, hOther, hSame⟩ := hAlike
  dsimp only
  cases call with
  | apply context =>
      rw [StatefulOperator.step_committed hCall, StatefulOperator.step_committed hCall]
      obtain ⟨hWrites, hResult, hMemory, hKept⟩ := @apply_canonical D _ heap state
        (splitTimestep (fractionalMemorySubstep heap) context.runtime) hExact hState context.fields
        context.runtime
      obtain ⟨hWritesOther, hResultOther, hMemoryOther, hKeptOther⟩ := @apply_canonical D _ heap other
        (splitTimestep (fractionalMemorySubstep heap) context.runtime) hExact hOther context.fields
        context.runtime
      have hOutcome : ∀ memory, (fractionalMemoryOperator heap fieldIndex needsComplex config address
          sets).evaluate context.fields context.runtime memory =
            fractionalMemoryApply heap (splitTimestep (fractionalMemorySubstep heap) context.runtime)
              context.fields context.runtime memory := fun _ => rfl
      dsimp only
      rw [hOutcome, hOutcome, hWrites, hWritesOther, hResult, hResultOther, hSame]
      apply And.intro rfl
      apply And.intro hKept
      apply And.intro hKeptOther
      rw [hMemory, hMemoryOther, hSame]
  | update fields updated =>
      constructor
      · rfl
      · apply And.intro (hState.update hExact updated)
        apply And.intro (hOther.update hExact updated)
        show (fractionalMemoryUpdate updated state).1.canonical heap =
          (fractionalMemoryUpdate updated other).1.canonical heap
        rw [update_canonical, hSame, ← update_canonical]

theorem fractionalMemory_probe (hExact : CDouble.EqExact D) {state other : FractionalMemoryState D}
    (call : StatefulCall D (FractionalMemoryState D) (Option (FractionalMemoryOperatorConfig D)))
    (hAlike : Alike heap state other) (hCall : call.isDrift = true)
    (hReady : FractionalMemoryReady heap state call) :
    Alike heap
      ((fractionalMemoryOperator heap fieldIndex needsComplex config address sets).step state call).1
      other := by
  obtain ⟨hState, hOther, hSame⟩ := hAlike
  cases call with
  | update fields updated => cases hCall
  | apply context =>
      obtain ⟨hCanonical, hKept⟩ := afterDrift_canonical hExact hState hReady context.runtime
      have hStep : ((fractionalMemoryOperator heap fieldIndex needsComplex config address sets).step
          state (.apply context)).1 = state.afterDrift heap
            (splitTimestep (fractionalMemorySubstep heap) context.runtime) context.fields
            context.runtime := by
        have hSave : (fractionalMemoryOperator heap fieldIndex needsComplex config address sets).save
            state = fractionalMemorySave heap state := rfl
        rw [StatefulOperator.step_drift hCall, afterDrift, hSave]
        cases fractionalMemorySave heap state with
        | mk saved result => cases result <;> rfl
      rw [hStep]
      apply And.intro hKept
      apply And.intro hOther
      rw [← hSame, ← hCanonical]

end Runs

end Oakfield
