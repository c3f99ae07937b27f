import Oakfield.KernelIR.ExactDouble
import Oakfield.Library.BackwardRing
import Oakfield.Library.Run
import Oakfield.Operators.FractionalMemoryDrift
import Mathlib.Algebra.BigOperators.Ring.Finset
import Mathlib.Algebra.Order.Field.Basic
import Mathlib.Data.Nat.Factorial.Basic
import Mathlib.Tactic.FieldSimp
import Mathlib.Tactic.LinearCombination

/-! Runs of `fractional_memory` against the sum over the fields it was applied to, and the
accesses to its ring. -/
namespace Oakfield

open KernelIR Library

/-! ### Runs -/

section Runs

variable {D : Type}

/-- A call on the operator: an application, which may be refused memory, or an update. -/
inductive FractionalMemoryEvent (D : Type) where
  | apply (heap : Heap) (dt : D) (runtime : SimRuntimeState D) (fields : List (SimField D))
  | update (config : Option (FractionalMemoryOperatorConfig D))

/-- The operator with the fields on entry to the applications since its history last started
over, newest first, and whether memory for another length was refused since. -/
structure FractionalMemoryTrace (D : Type) where
  state : FractionalMemoryState D
  log : List (ℕ → D)
  stale : Bool

/-- The heap grants the two blocks for fields of a length. -/
def historyGranted (heap : Heap) (steps count : ℕ) : Bool :=
  let historyBytes := steps * count * 8 % 2 ^ 64
  let scratchBytes := count * 8 % 2 ^ 64
  (historyBytes == 0 || heap.grants historyBytes) && (scratchBytes == 0 || heap.grants scratchBytes)

namespace FractionalMemoryTrace

/-- The trace of an operator which was just added. -/
def start (config : FractionalMemoryOperatorConfig D) [CDouble D] : FractionalMemoryTrace D :=
  ⟨.added config, [], false⟩

/-- The log which an application to a field of a length goes on from: another length starts
over. -/
def kept (trace : FractionalMemoryTrace D) (count : ℕ) : List (ℕ → D) :=
  if trace.state.capacity = count then trace.log else []

variable [CDouble D]

/-- One call. -/
def step (trace : FractionalMemoryTrace D) : FractionalMemoryEvent D → FractionalMemoryTrace D
  | .apply heap dt runtime fields =>
      let outcome := fractionalMemoryApply heap dt fields runtime trace.state
      match trace.state.argument dt fields with
      | none => { trace with state := outcome.memory }
      | some (field, data) =>
          let count := field.bytes / 8
          { state := outcome.memory
            log :=
              match outcome.result with
              | .ok _ => data.lane :: trace.kept count
              | .error _ => trace.kept count
            stale :=
              if trace.state.capacity = count then trace.stale
              else !historyGranted heap trace.state.config.memorySteps count }
  | .update config =>
      let updated := (fractionalMemoryUpdate config trace.state).1
      if updated.config.memorySteps ≠ trace.state.config.memorySteps then ⟨updated, [], false⟩
      else { trace with state := updated }

/-- The size of the history can be computed, and the recorded length is not that of memory
which was given up for memory that was then refused. -/
def Safe (trace : FractionalMemoryTrace D) : FractionalMemoryEvent D → Prop
  | .apply _ dt _ fields => ∀ field data, trace.state.argument dt fields = some (field, data) →
      trace.state.config.memorySteps * (field.bytes / 8) * 8 < 2 ^ 64 ∧
        ¬ (trace.stale = true ∧ trace.state.capacity = field.bytes / 8)
  | .update _ => True

/-- The ring has the slots which an application visits, from its head on. -/
def RingInside (state : FractionalMemoryState D) (count : ℕ) : Prop :=
  ∃ history, state.history = some history ∧ ∀ j < state.count,
    BackwardRing.slotAt state.config.memorySteps state.head j * count + count ≤
        state.config.memorySteps * count ∧
      state.config.memorySteps * count * 8 ≤ history.bytes

end FractionalMemoryTrace

end Runs

/-! ### The ring -/

section Ring

variable {D : Type} {state : FractionalMemoryState D} {count : ℕ} {log : List (ℕ → D)}

/-- The lanes of a slot of the history. -/
def ringCells (history : DoubleBuffer D) (count slot : ℕ) (k : Fin count) : D :=
  history.lane (slot * count + k)

/-- The lanes of a field. -/
def fieldCells (count : ℕ) (u : ℕ → D) (k : Fin count) : D := u k

/-- The history has its size and holds the newest fields. -/
def RingTracks (state : FractionalMemoryState D) (count : ℕ) (log : List (ℕ → D)) : Prop :=
  ∃ history, state.history = some history ∧
    history.bytes = state.config.memorySteps * count * 8 ∧
    BackwardRing.Holds state.config.memorySteps state.head state.count (ringCells history count)
      (log.map (fieldCells count))

/-- The copy of a field goes to one slot and leaves the others. -/
theorem RingTracks.push (hTracks : RingTracks state count log) (u : ℕ → D) :
    RingTracks (state.push count u) count (u :: log) := by
  obtain ⟨history, hHistory, hBytes, hHolds⟩ := hTracks
  let written : DoubleBuffer D := { history with
    lane := fun k =>
      if BackwardRing.back state.config.memorySteps state.head * count ≤ k ∧
          k < BackwardRing.back state.config.memorySteps state.head * count + count then
        u (k - BackwardRing.back state.config.memorySteps state.head * count)
      else history.lane k }
  refine ⟨written, ?_, hBytes, ?_⟩
  · rw [FractionalMemoryState.push, hHistory]
    rfl
  · refine hHolds.push ?_ fun slot _ hOther => ?_
    · funext k
      have hLt := k.isLt
      have hInside : BackwardRing.back state.config.memorySteps state.head * count ≤
            BackwardRing.back state.config.memorySteps state.head * count + k ∧
          BackwardRing.back state.config.memorySteps state.head * count + k <
            BackwardRing.back state.config.memorySteps state.head * count + count := by
        omega
      exact (if_pos hInside).trans (congrArg u (Nat.add_sub_cancel_left _ _))
    · funext k
      have hLt := k.isLt
      refine if_neg fun hInside => hOther ?_
      generalize BackwardRing.back state.config.memorySteps state.head = head at hInside
      rcases Nat.lt_trichotomy slot head with hBefore | hEq | hAfter
      · have hRow := Nat.mul_le_mul_right count (Nat.succ_le_of_lt hBefore)
        rw [Nat.succ_mul] at hRow
        omega
      · exact hEq
      · have hRow := Nat.mul_le_mul_right count (Nat.succ_le_of_lt hAfter)
        rw [Nat.succ_mul] at hRow
        omega

/-- The slots an application visits are in the history. -/
theorem RingTracks.inside (hTracks : RingTracks state count log) :
    FractionalMemoryTrace.RingInside state count := by
  obtain ⟨history, hHistory, hBytes, hHolds⟩ := hTracks
  refine ⟨history, hHistory, fun j _ => ⟨?_, Nat.le_of_eq hBytes.symm⟩⟩
  rw [← Nat.succ_mul]
  exact Nat.mul_le_mul_right count (BackwardRing.slotAt_lt hHolds.head_lt j)

/-- A lane of the ring is that of a field of the log. -/
theorem RingTracks.lane (hTracks : RingTracks state count log) {j k : ℕ} (hJ : j < state.count)
    (hK : k < count) (missing : ℕ → D) :
    ∃ history, state.history = some history ∧
      history.lane (BackwardRing.slotAt state.config.memorySteps state.head j * count + k) =
        log.getD j missing k := by
  obtain ⟨history, hHistory, -, hHolds⟩ := hTracks
  refine ⟨history, hHistory, ?_⟩
  have hCell := hHolds.cells_eq j hJ
  rw [List.getElem?_map, Option.map_eq_some_iff] at hCell
  obtain ⟨u, hU, hLanes⟩ := hCell
  rw [List.getD_eq_getElem?_getD, hU]
  exact (congrFun hLanes ⟨k, hK⟩).symm

end Ring

/-! ### Preparing -/

section Preparing

variable {D : Type} [CDouble D] {heap : Heap} {state prepared : FractionalMemoryState D} {count : ℕ}
variable {log : List (ℕ → D)}

/-- The caches hold what they stand for. -/
structure CachesHold (state : FractionalMemoryState D) : Prop where
  steps : 0 < state.config.memorySteps
  coefficients : ∀ coefficients, state.coefficients = some coefficients →
    coefficients = fractionalMemoryCoefficient state.config.order
  cache : ∀ cachedDt value, state.responseScaleCache = some (cachedDt, value) →
    value = FractionalMemoryState.scaleValue state.config cachedDt

theorem resize_frame (heap : Heap) (count : ℕ) (state : FractionalMemoryState D) :
    (state.resize heap count).1.config = state.config ∧
      (state.resize heap count).1.coefficients = state.coefficients ∧
      (state.resize heap count).1.responseScaleCache = state.responseScaleCache := by
  rw [FractionalMemoryState.resize]
  split
  · exact ⟨rfl, rfl, rfl⟩
  · dsimp only
    split <;> exact ⟨rfl, rfl, rfl⟩

/-- Memory for another length is an empty ring, or is refused. -/
theorem resize_other (hOther : state.capacity ≠ count) (hCount : count ≠ 0)
    (hSteps : 0 < state.config.memorySteps)
    (hFits : state.config.memorySteps * count * 8 < 2 ^ 64) :
    if historyGranted heap state.config.memorySteps count then
      (state.resize heap count).2 = .ok () ∧ (state.resize heap count).1.capacity = count ∧
        RingTracks (state.resize heap count).1 count []
    else (state.resize heap count).2 = .error .outOfMemory := by
  have hPos : 0 < state.config.memorySteps * count * 8 :=
    Nat.mul_pos (Nat.mul_pos hSteps (Nat.pos_of_ne_zero hCount)) (by decide)
  have hScratch : count * 8 < 2 ^ 64 ∧ count * 8 ≠ 0 := by
    have hLe := Nat.mul_le_mul_right 8 (Nat.le_mul_of_pos_left count hSteps)
    omega
  rw [historyGranted, FractionalMemoryState.resize, if_neg hOther]
  dsimp only
  rw [Nat.mod_eq_of_lt hFits, Nat.mod_eq_of_lt hScratch.1, DoubleBuffer.allocZeroed,
    DoubleBuffer.allocZeroed]
  have hHistory : (state.config.memorySteps * count * 8 == 0) = false :=
    beq_eq_false_iff_ne.mpr (Nat.ne_of_gt hPos)
  have hField : (count * 8 == 0) = false := beq_eq_false_iff_ne.mpr hScratch.2
  rw [hHistory, hField]
  simp only [Bool.false_or, Nat.ne_of_gt hPos, hScratch.2, decide_false, Bool.false_or]
  cases hFirst : heap.grants (state.config.memorySteps * count * 8) with
  | false => simp [hPos]
  | true =>
      cases hSecond : heap.grants (count * 8) with
      | false => simp [Nat.pos_of_ne_zero hCount]
      | true =>
          simp only [Bool.not_true, Bool.false_eq_true, ↓reduceIte, Option.isNone_some,
            Bool.and_false, Bool.or_self, Bool.and_self]
          exact ⟨trivial, trivial, _, rfl, rfl, BackwardRing.holds_nil hSteps _⟩

/-- What holds between the calls of a run: outdated memory aside, the ring holds the log. -/
structure FractionalMemoryTrace.Tracked (trace : FractionalMemoryTrace D) : Prop where
  caches : CachesHold trace.state
  ring : trace.stale = false → trace.state.capacity ≠ 0 →
    RingTracks trace.state trace.state.capacity trace.log

theorem tracked_start (config : FractionalMemoryOperatorConfig D) :
    (FractionalMemoryTrace.start config).Tracked := by
  refine ⟨⟨?_, ?_, ?_⟩, fun _ hCapacity => absurd rfl hCapacity⟩
  · exact FractionalMemoryState.normalize_steps config
  · rintro _ ⟨⟩
  · rintro _ _ ⟨⟩

/-- The state after `resize`, for a length whose memory is not outdated. -/
structure Resized (trace : FractionalMemoryTrace D) (heap : Heap) (count : ℕ)
    (resized : FractionalMemoryState D) : Prop where
  config : resized.config = trace.state.config
  caches : CachesHold resized
  capacity : resized.capacity = count
  ring : RingTracks resized count (trace.kept count)

variable {trace : FractionalMemoryTrace D}

theorem CachesHold.of_frame {other : FractionalMemoryState D} (hCaches : CachesHold state)
    (hConfig : other.config = state.config)
      (hCoefficients : other.coefficients = state.coefficients)
    (hCache : other.responseScaleCache = state.responseScaleCache) : CachesHold other := by
  constructor
  case steps =>
    rw [hConfig]
    exact hCaches.steps
  case coefficients =>
    rw [hConfig, hCoefficients]
    exact hCaches.coefficients
  case cache =>
    rw [hConfig, hCache]
    exact hCaches.cache

/-- Either the memory is there, or it was refused for another length. -/
theorem resize_cases (hTracks : trace.Tracked) (hCount : count ≠ 0)
    (hFits : trace.state.config.memorySteps * count * 8 < 2 ^ 64)
    (hFresh : ¬ (trace.stale = true ∧ trace.state.capacity = count)) :
    ((trace.state.resize heap count).2 = .ok () ∧
        Resized trace heap count (trace.state.resize heap count).1) ∨
      ((trace.state.resize heap count).2 = .error .outOfMemory ∧
        trace.state.capacity ≠ count ∧
        historyGranted heap trace.state.config.memorySteps count = false) := by
  obtain ⟨hConfig, hCoefficients, hCache⟩ := resize_frame heap count trace.state
  have hCaches := hTracks.caches.of_frame hConfig hCoefficients hCache
  by_cases hCapacity : trace.state.capacity = count
  · have hRing : RingTracks trace.state count trace.log := by
      have hStale : trace.stale = false := by
        rw [Bool.eq_false_iff]
        exact fun hStale => hFresh ⟨hStale, hCapacity⟩
      rw [← hCapacity] at hCount ⊢
      exact hTracks.ring hStale hCount
    have hRun : trace.state.resize heap count = (trace.state, .ok ()) := if_pos hCapacity
    left
    refine ⟨by rw [hRun], hConfig, hCaches, ?_, ?_⟩
    · rw [hRun]
      exact hCapacity
    · rw [hRun, FractionalMemoryTrace.kept, if_pos hCapacity]
      exact hRing
  · have hOther := @resize_other D _ heap trace.state count hCapacity hCount hTracks.caches.steps
      hFits
    split at hOther
    case isTrue hGranted =>
      left
      refine ⟨hOther.1, hConfig, hCaches, hOther.2.1, ?_⟩
      rw [FractionalMemoryTrace.kept, if_neg hCapacity]
      exact hOther.2.2
    case isFalse hRefused => exact .inr ⟨hOther, hCapacity, by simpa using hRefused⟩

/-- Coefficients are computed where there are none. -/
theorem prepareCoefficients_cases (hCaches : CachesHold state) :
    (∃ coefficients, (state.prepareCoefficients heap).1 = { state with coefficients }) ∧
      CachesHold (state.prepareCoefficients heap).1 ∧
      ((state.prepareCoefficients heap).2 = .ok () →
        (state.prepareCoefficients heap).1.coefficients =
        some (fractionalMemoryCoefficient state.config.order)) := by
  rw [FractionalMemoryState.prepareCoefficients]
  cases hHere : state.coefficients with
  | some coefficients =>
      refine ⟨⟨_, rfl⟩, hCaches, fun _ => ?_⟩
      rw [← hCaches.coefficients coefficients hHere]
      exact hHere
  | none =>
      cases heap.calloc state.config.memorySteps 8 with
      | false => exact ⟨⟨_, rfl⟩, hCaches, fun hOk => (by cases hOk)⟩
      | true =>
          refine ⟨⟨_, rfl⟩, ⟨hCaches.steps, ?_, hCaches.cache⟩, fun _ => rfl⟩
          rintro _ ⟨⟩
          rfl

end Preparing

/-! ### The sum -/

section Sum

variable {K : Type} [Field K]

/-- The binomial coefficient of a number which need not be a natural one. -/
def binomial (x : K) (j : ℕ) : K := (∏ i ∈ Finset.range j, (x - i)) / j.factorial

/-- The truncated sum over a log, newest first. -/
def grunwaldLetnikov (order : K) (steps : ℕ) (log : List (ℕ → K)) (k : ℕ) : K :=
  ∑ j ∈ Finset.range (min log.length steps),
    (-1) ^ j * binomial order j * log.getD j (fun _ => 0) k

namespace FractionalMemoryTrace

variable [CDouble K]

/-- What a call has to do: an application that goes through stays inside its ring and adds the
scaled sum to every lane of the field, and an update of the number of steps starts the history
over. -/
def Sound (trace : FractionalMemoryTrace K) : FractionalMemoryEvent K → Prop
  | .apply heap dt runtime fields =>
      let outcome := fractionalMemoryApply heap dt fields runtime trace.state
      let config := trace.state.config
      ∀ field data, trace.state.argument dt fields = some (field, data) → outcome.result = .ok () →
        RingInside outcome.memory (field.bytes / 8) ∧
        ∃ lane, outcome.writes config.fieldIndex =
            some ⟨.lanes lane, field.repr, field.complexMode⟩ ∧
          ∀ k, lane k =
            if k < field.bytes / 8 then
              data.lane k + FractionalMemoryState.scaleValue config dt *
                grunwaldLetnikov config.order config.memorySteps
                  (data.lane :: trace.kept (field.bytes / 8)) k
            else data.lane k
  | .update config =>
      let updated := (fractionalMemoryUpdate config trace.state).1
      updated.config.memorySteps ≠ trace.state.config.memorySteps →
        updated.history = none ∧ updated.capacity = 0 ∧ updated.count = 0

end FractionalMemoryTrace

end Sum

/-! ### Applications in exact arithmetic -/

section Exact

variable {K : Type} [Field K] [LinearOrder K] [IsStrictOrderedRing K] [CDouble K] [ExactDouble K]
variable {state : FractionalMemoryState K} {count : ℕ} {log : List (ℕ → K)} {dt : K}

/-- The recurrence of the coefficients is the one of the signed binomial coefficients. -/
theorem fractionalMemoryCoefficient_eq
    (hConvert : ∀ x : BitVec 64, (CDouble.ofU64 x : K) = x.toNat) (order : K) {j : ℕ}
    (hShort : j < 2 ^ 64) :
    fractionalMemoryCoefficient order j = (-1) ^ j * binomial order j := by
  induction j with
  | zero => simp [fractionalMemoryCoefficient, binomial]
  | succ j ih =>
      have hIndex : (CDouble.ofU64 (BitVec.ofNat 64 (j + 1)) : K) = (j : K) + 1 := by
        rw [hConvert, BitVec.toNat_ofNat, Nat.mod_eq_of_lt hShort, Nat.cast_succ]
      have hFactorial : ((j.factorial : ℕ) : K) ≠ 0 := Nat.cast_ne_zero.mpr
        (Nat.factorial_ne_zero j)
      have hSucc : (j : K) + 1 ≠ 0 := Nat.cast_add_one_ne_zero j
      rw [fractionalMemoryCoefficient, hIndex, ih (by omega), binomial, binomial,
        Finset.prod_range_succ, Nat.factorial_succ, Nat.cast_mul, Nat.cast_succ]
      simp only [ExactDouble.mul_eq, ExactDouble.div_eq, ExactDouble.sub_eq, ExactDouble.one_eq]
      field_simp
      ring

omit [IsStrictOrderedRing K] in
/-- The loop over the older slots. -/
theorem foldl_response (steps head count k : ℕ) (scale start : K) (coefficient past : ℕ → K)
    (n : ℕ) :
    (List.range n).foldl (fun (index, value) j =>
        let index := if index + 1 = steps then 0 else index + 1
        (index, CDouble.add value
          (CDouble.mul (CDouble.mul scale (coefficient (j + 1))) (past (index * count + k)))))
      (head, start) =
      (BackwardRing.slotAt steps head n, start + ∑ j ∈ Finset.range n,
        scale * coefficient (j + 1) * past
          (BackwardRing.slotAt steps head (j + 1) * count + k)) := by
  induction n with
  | zero => simp [BackwardRing.slotAt]
  | succ n ih =>
      rw [List.range_succ, List.foldl_append, ih, Finset.sum_range_succ, ← add_assoc]
      simp only [List.foldl_cons, List.foldl_nil, ExactDouble.add_eq, ExactDouble.mul_eq]
      rfl

/-- The response adds the scaled sum over what the ring holds. -/
theorem historyResponse_eq (hConvert : ∀ x : BitVec 64, (CDouble.ofU64 x : K) = x.toNat)
    {u : ℕ → K} (hTracks : RingTracks state count (u :: log))
    (hCoefficients : state.coefficients = some (fractionalMemoryCoefficient state.config.order))
    (hSteps : state.config.memorySteps < 2 ^ 64) (scale : K) {k : ℕ} (hK : k < count) :
    state.historyResponse u count scale k =
      u k + scale * grunwaldLetnikov state.config.order state.config.memorySteps (u :: log) k := by
  obtain ⟨history, hHistory, -, hHolds⟩ := id hTracks
  have hCount := hHolds.count_eq
  have hPos := hHolds.head_lt
  rw [List.length_map, List.length_cons] at hCount
  obtain ⟨older, hOlder⟩ : ∃ older, state.count = older + 1 := ⟨state.count - 1, by omega⟩
  have hPast : ∀ j < state.count,
      history.lane (BackwardRing.slotAt state.config.memorySteps state.head j * count + k) =
        (u :: log).getD j (fun _ => 0) k := by
    intro j hJ
    obtain ⟨other, hOther, hLane⟩ := hTracks.lane hJ hK fun _ => 0
    rw [hHistory] at hOther
    cases hOther
    exact hLane
  have hStart : (if CDouble.eq (CDouble.add CDouble.one (CDouble.mul scale
      (fractionalMemoryCoefficient state.config.order 0))) CDouble.one then u k
      else CDouble.mul (CDouble.add CDouble.one (CDouble.mul scale
        (fractionalMemoryCoefficient state.config.order 0))) (u k)) = u k + scale * u k := by
    simp only [fractionalMemoryCoefficient, ExactDouble.add_eq, ExactDouble.mul_eq,
      ExactDouble.one_eq, ExactDouble.eq_iff, mul_one]
    split
    case isTrue hOne =>
      have hZero : scale = 0 := by linear_combination hOne
      rw [hZero, zero_mul, add_zero]
    case isFalse => ring
  have hSum : grunwaldLetnikov state.config.order state.config.memorySteps (u :: log) k =
      u k + ∑ j ∈ Finset.range older, fractionalMemoryCoefficient state.config.order (j + 1) *
        history.lane (BackwardRing.slotAt state.config.memorySteps state.head (j + 1) *
          count + k) := by
    rw [grunwaldLetnikov, List.length_cons, ← hCount, hOlder, Finset.sum_range_succ', add_comm]
    congr 1
    · simp [binomial]
    · refine Finset.sum_congr rfl fun j hJ => ?_
      have hLt := Finset.mem_range.mp hJ
      rw [fractionalMemoryCoefficient_eq hConvert _ (by omega), hPast (j + 1) (by omega)]
  rw [FractionalMemoryState.historyResponse, if_neg (by omega), hCoefficients, hHistory]
  dsimp only [Option.getD_some, Option.map_some]
  rw [foldl_response, hStart, hSum, hOlder, Nat.add_sub_cancel]
  dsimp only
  rw [mul_add, Finset.mul_sum, add_assoc]
  simp only [mul_assoc]

omit [IsStrictOrderedRing K] in
/-- The response scale is that of the configuration, cached or not. -/
theorem responseScale_exact (hCaches : CachesHold state) (dt : K) :
    (state.responseScale dt).2 = FractionalMemoryState.scaleValue state.config dt ∧
      CachesHold (state.responseScale dt).1 := by
  have hFilled : CachesHold ({ state with
      responseScaleCache := some (dt, FractionalMemoryState.scaleValue state.config dt) } :
        FractionalMemoryState K) := by
    refine ⟨hCaches.steps, hCaches.coefficients, ?_⟩
    rintro _ _ ⟨⟩
    rfl
  rw [FractionalMemoryState.responseScale]
  cases hCache : state.responseScaleCache with
  | none => exact ⟨rfl, hFilled⟩
  | some cached =>
      obtain ⟨cachedDt, value⟩ := cached
      dsimp only
      split
      case isTrue hEq =>
        rw [ExactDouble.eq_iff] at hEq
        rw [← hEq]
        exact ⟨hCaches.cache cachedDt value hCache, hCaches⟩
      case isFalse => exact ⟨rfl, hFilled⟩

/-- What an application with its memory in order leaves, and what it responds. -/
theorem push_response (hConvert : ∀ x : BitVec 64, (CDouble.ofU64 x : K) = x.toNat)
    (hCaches : CachesHold state) (hRing : RingTracks state count log)
    (hCoefficients : state.coefficients = some (fractionalMemoryCoefficient state.config.order))
    (hSteps : state.config.memorySteps < 2 ^ 64) (u : ℕ → K) (dt : K) :
    let scaled := (state.push count u).responseScale dt
    CachesHold scaled.1 ∧ scaled.1.config = state.config ∧ scaled.1.capacity = state.capacity ∧
      RingTracks scaled.1 count (u :: log) ∧
      ∀ k < count, scaled.1.historyResponse u count scaled.2 k =
        u k + FractionalMemoryState.scaleValue state.config dt *
          grunwaldLetnikov state.config.order state.config.memorySteps (u :: log) k := by
  have hPushedCaches : CachesHold (state.push count u) := hCaches.of_frame rfl rfl rfl
  obtain ⟨hScale, hScaledCaches⟩ := responseScale_exact hPushedCaches dt
  obtain ⟨cache, hScaled⟩ := FractionalMemoryState.responseScale_cases dt (state.push count u)
  have hPushed := hRing.push u
  dsimp only
  rw [hScale]
  rw [hScaled] at hScaledCaches ⊢
  refine ⟨hScaledCaches, rfl, rfl, hPushed, fun k hK => ?_⟩
  exact @historyResponse_eq K _ _ _ _ _ { state.push count u with responseScaleCache :=
    cache } count
    log hConvert u hPushed hCoefficients hSteps _ k hK

/-- An application on memory which is not outdated: refused memory leaves the log or outdated
memory, and otherwise the ring takes up the field and the response is the sum. -/
theorem apply_cases {trace : FractionalMemoryTrace K} {heap : Heap} {runtime : SimRuntimeState K}
    {fields : List (SimField K)} {field : SimField K} {data : FieldData K}
    (hConvert : ∀ x : BitVec 64, (CDouble.ofU64 x : K) = x.toNat) (hTracked : trace.Tracked)
    (hArgument : trace.state.argument dt fields = some (field, data))
    (hFits : trace.state.config.memorySteps * (field.bytes / 8) * 8 < 2 ^ 64)
    (hFresh : ¬ (trace.stale = true ∧ trace.state.capacity = field.bytes / 8)) :
    (trace.step (.apply heap dt runtime fields)).Tracked ∧
      trace.Sound (.apply heap dt runtime fields) := by
  have hCount := (FractionalMemoryState.argument_positive hArgument).2
  dsimp only [FractionalMemoryTrace.step, FractionalMemoryTrace.Sound]
  rw [fractionalMemoryApply, hArgument]
  dsimp only
  generalize hLength : field.bytes / 8 = count at *
  rw [FractionalMemoryState.prepare]
  obtain ⟨hConfig, hCoefficients, hCache⟩ := resize_frame heap count trace.state
  rcases @resize_cases K _ heap count trace hTracked hCount hFits hFresh with
    ⟨hOk, hResized⟩ | ⟨hRefused, hOther, hGrant⟩
  · cases hRun : trace.state.resize heap count with
    | mk resized result =>
        rw [hRun] at hOk hResized
        dsimp only at hOk hResized
        obtain rfl := hOk
        obtain ⟨⟨coefficients, hPrepared⟩, hCaches, hFilled⟩ :=
          @prepareCoefficients_cases K _ heap resized hResized.caches
        dsimp only
        cases hRun' : resized.prepareCoefficients heap with
        | mk prepared result =>
            rw [hRun'] at hPrepared hCaches hFilled
            dsimp only at hPrepared hCaches hFilled
            have hRing : RingTracks prepared count (trace.kept count) := by
              rw [hPrepared]
              exact hResized.ring
            have hCapacity : prepared.capacity = count := by
              rw [hPrepared]
              exact hResized.capacity
            have hSame : prepared.config = trace.state.config := by
              rw [hPrepared]
              exact hResized.config
            cases result with
            | error failure =>
                refine ⟨⟨hCaches, fun _ _ => ?_⟩, fun _ _ _ hDone => (by cases hDone)⟩
                rw [hCapacity]
                exact hRing
            | ok code =>
                have hSteps : prepared.config.memorySteps < 2 ^ 64 := by
                  have hLe := Nat.le_mul_of_pos_right trace.state.config.memorySteps
                    (Nat.pos_of_ne_zero hCount)
                  rw [hSame]
                  omega
                have hFilled' : prepared.coefficients =
                    some (fractionalMemoryCoefficient prepared.config.order) := by
                  rw [hFilled rfl, hSame, hResized.config]
                obtain ⟨hScaledCaches, hScaledConfig, hScaledCapacity, hScaledRing, hResponse⟩ :=
                  push_response hConvert hCaches hRing hFilled' hSteps data.lane dt
                refine ⟨⟨hScaledCaches, fun _ _ => ?_⟩, fun other held hHeld _ => ?_⟩
                · dsimp only
                  rw [hScaledCapacity, hCapacity]
                  exact hScaledRing
                · obtain ⟨rfl, rfl⟩ := Prod.mk.inj (Option.some.inj hHeld)
                  rw [hLength]
                  refine ⟨hScaledRing.inside, _, if_pos (by rw [hSame]), fun k => ?_⟩
                  split
                  case isFalse hK => rfl
                  case isTrue hK =>
                    rw [hResponse k hK, hSame]
  · cases hRun : trace.state.resize heap count with
    | mk resized result =>
        rw [hRun] at hRefused hConfig hCoefficients hCache
        dsimp only at hRefused hConfig hCoefficients hCache
        rw [hRefused]
        refine ⟨⟨hTracked.caches.of_frame hConfig hCoefficients hCache, fun hStale => ?_⟩,
          fun _ _ _ hDone => (by cases hDone)⟩
        rw [if_neg hOther, hGrant] at hStale
        cases hStale

omit [IsStrictOrderedRing K] in
/-- An update keeps the coefficients of an order it keeps, and the ring of a number of steps it
keeps. -/
theorem update_cases {trace : FractionalMemoryTrace K} (hTracked : trace.Tracked)
    (config : Option (FractionalMemoryOperatorConfig K)) :
    (trace.step (.update config)).Tracked ∧ trace.Sound (.update config) := by
  obtain ⟨state, log, stale⟩ := trace
  have hSteps : 0 < (config.getD state.config).normalize.memorySteps :=
    FractionalMemoryState.normalize_steps _
  have hCaches : CachesHold (fractionalMemoryUpdate config state).1 := by
    refine ⟨hSteps, fun coefficients hKept => ?_, fun _ _ hCache => nomatch hCache⟩
    change (if _ then none else state.coefficients) = some coefficients at hKept
    split at hKept
    case isTrue => exact (nomatch hKept)
    case isFalse hSame =>
      rw [not_or, Bool.not_eq_true, CDouble.ne, Bool.not_eq_false', ExactDouble.eq_iff] at hSame
      rw [hTracked.caches.coefficients coefficients hKept, ← hSame.2]
      rfl
  dsimp only [FractionalMemoryTrace.step, FractionalMemoryTrace.Sound]
  have hConfig : (fractionalMemoryUpdate config state).1.config =
      (config.getD state.config).normalize := rfl
  rw [hConfig]
  by_cases hChanged : (config.getD state.config).normalize.memorySteps ≠ state.config.memorySteps
  · have hRestarted : (fractionalMemoryUpdate config state).1.history = none ∧
        (fractionalMemoryUpdate config state).1.capacity = 0 ∧
        (fractionalMemoryUpdate config state).1.count = 0 := by
      rw [fractionalMemoryUpdate]
      dsimp only
      rw [if_pos hChanged]
      exact ⟨rfl, rfl, rfl⟩
    rw [if_pos hChanged]
    exact ⟨⟨hCaches, fun _ hCapacity => absurd hRestarted.2.1 hCapacity⟩, fun _ => hRestarted⟩
  · have hSame : (fractionalMemoryUpdate config state).1 = { state with
        config := (config.getD state.config).normalize
        coefficients := (fractionalMemoryUpdate config state).1.coefficients
        responseScaleCache := none } := by
      rw [fractionalMemoryUpdate]
      dsimp only
      rw [if_neg hChanged]
    rw [if_neg hChanged]
    refine ⟨⟨hCaches, fun hStale hCapacity => ?_⟩, fun hOther => absurd hOther hChanged⟩
    rw [hSame] at hCapacity ⊢
    obtain ⟨history, hHistory, hBytes, hHolds⟩ := hTracked.ring hStale hCapacity
    have hEq := not_not.mp hChanged
    refine ⟨history, hHistory, ?_, ?_⟩
    · show history.bytes = (config.getD state.config).normalize.memorySteps * state.capacity * 8
      rw [hEq]
      exact hBytes
    · show BackwardRing.Holds (config.getD state.config).normalize.memorySteps _ _ _ _
      rw [hEq]
      exact hHolds

/-- In every run in which the size of the history can be computed, and no application goes to
a length whose memory was given up for memory that was then refused, each application adds the
scaled sum over the fields before it, inside its ring, and updates of the number of steps start
over. -/
theorem fractionalMemory_grunwaldLetnikov
    (hConvert : ∀ x : BitVec 64, (CDouble.ofU64 x : K) = x.toNat)
    (config : FractionalMemoryOperatorConfig K) {calls : List (FractionalMemoryEvent K)}
    (hSafe : Run.EachCall FractionalMemoryTrace.step FractionalMemoryTrace.Safe
      (FractionalMemoryTrace.start config) calls) :
    Run.EachCall FractionalMemoryTrace.step FractionalMemoryTrace.Sound
      (FractionalMemoryTrace.start config) calls := by
  have hStep : ∀ (trace : FractionalMemoryTrace K) (call : FractionalMemoryEvent K), trace.Tracked →
      trace.Safe call → (trace.step call).Tracked ∧ trace.Sound call := by
    intro trace call hTracked hCall
    cases call with
    | update config => exact update_cases hTracked config
    | apply heap dt runtime fields =>
        cases hArgument : trace.state.argument dt fields with
        | none =>
            have hMemory : (fractionalMemoryApply heap dt fields runtime trace.state).memory =
                trace.state := by
              rw [fractionalMemoryApply, hArgument]
            constructor
            · rw [FractionalMemoryTrace.step, hArgument, hMemory]
              exact hTracked
            · intro field data hHeld
              rw [hArgument] at hHeld
              cases hHeld
        | some found =>
            obtain ⟨hFits, hFresh⟩ := hCall found.1 found.2 hArgument
            exact apply_cases hConvert hTracked hArgument hFits hFresh
  exact Run.EachCall.imp_of_invariant FractionalMemoryTrace.Tracked
    (fun trace call hTracked hCall => (hStep trace call hTracked hCall).2)
    (fun trace call hTracked hCall => (hStep trace call hTracked hCall).1) (tracked_start config)
    hSafe

end Exact

/-! ### Memory given up and refused -/

/-- A real field of some elements, which are zero. -/
def zeroField (count : ℕ) : SimField ℚ :=
  SimField.ofElementSize ⟨[count], [1], true⟩ 8 (.words fun _ => 0)

/-- A runtime state in which nothing happened yet. -/
def freshRuntime : SimRuntimeState ℚ := ⟨0, 0, 0, 0, false, [], [], 0⟩

/-- An application with the timestep one to fields of one and of two elements. -/
def applied (heap : Heap) : FractionalMemoryEvent ℚ :=
  .apply heap 1 freshRuntime [zeroField 1, zeroField 2]

/-- A configuration for one of the fields. -/
def halfOrder (fieldIndex steps : ℕ) : FractionalMemoryOperatorConfig ℚ :=
  ⟨fieldIndex, 1 / 2, 1, steps⟩

/-- A length below the limits, where no memory was refused. -/
theorem safe_of_length {trace : FractionalMemoryTrace ℚ} {heap : Heap} {steps count : ℕ}
    (hSteps : trace.state.config.memorySteps = steps) (hStale : trace.stale = false)
    (hLength : (trace.state.argument 1 [zeroField 1, zeroField 2]).map (·.1.bytes / 8) = some count)
    (hFits : steps * count * 8 < 2 ^ 64) : trace.Safe (applied heap) := by
  intro field data hArgument
  rw [hArgument] at hLength
  rw [hSteps, show field.bytes / 8 = count from Option.some.inj hLength, hStale]
  exact ⟨hFits, fun hRefused => nomatch hRefused.1⟩

/-- A run on both fields, an update of the field between them. -/
theorem fractionalMemory_grunwaldLetnikov_fields :
    Run.EachCall FractionalMemoryTrace.step FractionalMemoryTrace.Sound
      (FractionalMemoryTrace.start (halfOrder 0 2))
      [applied ⟨fun _ => true⟩, .update (some (halfOrder 1 2)), applied ⟨fun _ => true⟩] :=
  fractionalMemory_grunwaldLetnikov (fun _ => rfl) (halfOrder 0 2)
    ⟨@safe_of_length _ _ 2 1 (by decide +kernel) (by decide +kernel)
        (by decide +kernel) (by decide), trivial,
      @safe_of_length _ _ 2 2 (by decide +kernel) (by decide +kernel)
        (by decide +kernel) (by decide), trivial⟩

/-- The operator moves to a field of another length, is refused memory for it, and moves back:
it writes where it no longer has memory. -/
theorem not_sound_after_refusal :
    ¬ ∀ (config : FractionalMemoryOperatorConfig ℚ) (calls : List (FractionalMemoryEvent ℚ)),
      Run.EachCall FractionalMemoryTrace.step FractionalMemoryTrace.Sound
        (FractionalMemoryTrace.start config) calls := by
  intro hSound
  have hCalls := hSound (halfOrder 0 1) [applied ⟨fun _ => true⟩, .update (some (halfOrder 1 1)),
    applied ⟨fun _ => false⟩, .update (some (halfOrder 0 1)), applied ⟨fun _ => true⟩]
  obtain ⟨-, -, -, -, hLast, -⟩ := hCalls
  generalize hTrace : FractionalMemoryTrace.step _ (.update (some (halfOrder 0 1))) = trace at hLast
  have hArgument : (trace.state.argument 1 [zeroField 1, zeroField 2]).isSome = true := by
    rw [← hTrace]
    decide +kernel
  have hDone : (fractionalMemoryApply ⟨fun _ => true⟩ 1 [zeroField 1, zeroField 2] freshRuntime
      trace.state).result.isOk = true := by
    rw [← hTrace]
    decide +kernel
  have hHistory : (fractionalMemoryApply ⟨fun _ => true⟩ 1 [zeroField 1, zeroField 2] freshRuntime
      trace.state).memory.history.isNone = true := by
    rw [← hTrace]
    decide +kernel
  have hOk : (fractionalMemoryApply ⟨fun _ => true⟩ 1 [zeroField 1, zeroField 2] freshRuntime
      trace.state).result = .ok () := by
    generalize (fractionalMemoryApply ⟨fun _ => true⟩ 1 [zeroField 1, zeroField 2] freshRuntime
      trace.state).result = result at hDone
    cases result with
    | ok code => rfl
    | error failure => exact (nomatch hDone)
  obtain ⟨found, hFound⟩ := Option.isSome_iff_exists.mp hArgument
  obtain ⟨⟨history, hSome, -⟩, -⟩ := hLast found.1 found.2 hFound hOk
  rw [hSome] at hHistory
  exact (nomatch hHistory)

end Oakfield
