import Oakfield.Field.Init
import Oakfield.Library.OverwritingFifo
import Mathlib.Algebra.Order.Ring.Nat
import Mathlib.Data.Nat.Bitwise
import Mathlib.Data.Nat.ModEq
import Mathlib.Logic.Function.Basic

/-! The ring buffer of the asynchronous logger, used by one thread at a time. -/
namespace Oakfield

open Library

inductive SimLogLevel where
  | trace
  | debug
  | info
  | warn
  | error
  | fatal
deriving DecidableEq, Repr

/-- `SIM_ASYNC_LOGGER_MESSAGE_MAX`. -/
def simAsyncLoggerMessageMax : ℕ := 255

/-- A record; the message is the bytes before the terminator. -/
structure SimAsyncLogRecord where
  timestampNs : ℕ
  threadId : ℕ
  level : SimLogLevel
  message : List UInt8
deriving DecidableEq

/-- `sizeof(SimAsyncLogRecord)`: a timestamp, an identifier, a level and the message. -/
def simAsyncLogRecordSize : ℕ := 8 + 4 + 4 + (simAsyncLoggerMessageMax + 1)

/-- A `SimAsyncLogger`; the counters are `size_t`. -/
structure SimAsyncLogger where
  records : Option (ℕ → SimAsyncLogRecord)
  capacity : ℕ
  head : ℕ
  tail : ℕ

/-- The doubling loop of `sim_async_logger_next_pow2`, in so many rounds. -/
def simAsyncLoggerNextPow2Loop (value : ℕ) : ℕ → ℕ → Option ℕ
  | 0, _ => none
  | fuel + 1, n =>
      if n < value then simAsyncLoggerNextPow2Loop value fuel (n <<< 1 % 2 ^ 64) else some n

/-- `sim_async_logger_next_pow2`. -/
def simAsyncLoggerNextPow2 (fuel value : ℕ) : Option ℕ :=
  if value = 0 then some 64
  else
    match simAsyncLoggerNextPow2Loop value fuel 1 with
    | none => none
    | some n => some (if n < 64 then 64 else n)

/-- `sim_async_logger_init`, `none` when the rounds do not suffice. -/
def simAsyncLoggerInit (heap : Heap) (fuel capacity : ℕ) :
    Option (Except SimError SimAsyncLogger) :=
  match simAsyncLoggerNextPow2 fuel capacity with
  | none => none
  | some capacity =>
      if heap.calloc capacity simAsyncLogRecordSize then
        some (.ok ⟨some fun _ => ⟨0, 0, .trace, []⟩, capacity, 0, 0⟩)
      else some (.error .outOfMemory)

/-- The record of a message, cut to what its buffer holds. -/
def simAsyncLogRecord (timestampNs threadId : ℕ) (level : SimLogLevel) (message : List UInt8) :
    SimAsyncLogRecord :=
  ⟨timestampNs, threadId, level, message.take simAsyncLoggerMessageMax⟩

/-- `sim_async_logger_log` at a time and on a thread; the message may be `NULL`. -/
def simAsyncLoggerLog (logger : SimAsyncLogger) (timestampNs threadId : ℕ) (level : SimLogLevel)
    (message : Option (List UInt8)) : Except SimError SimAsyncLogger :=
  match logger.records, message with
  | some records, some message =>
      let slot := logger.head
      let index := slot &&& (logger.capacity - 1)
      let tail :=
        if logger.capacity ≤ (slot + 2 ^ 64 - logger.tail) % 2 ^ 64 then
          (logger.tail + 1) % 2 ^ 64
        else logger.tail
      .ok ⟨some (Function.update records index
          (simAsyncLogRecord timestampNs threadId level message)),
        logger.capacity, (logger.head + 1) % 2 ^ 64, tail⟩
  | _, _ => .error .invalidArgument

/-- `sim_async_logger_pop`: its exchange succeeds, as no other thread moves the tail. -/
def simAsyncLoggerPop (logger : SimAsyncLogger) : Option SimAsyncLogRecord × SimAsyncLogger :=
  match logger.records with
  | none => (none, logger)
  | some records =>
      if logger.head ≤ logger.tail then (none, logger)
      else
        let index := logger.tail &&& (logger.capacity - 1)
        (some (records index), { logger with tail := (logger.tail + 1) % 2 ^ 64 })

/-- `sim_async_logger_clear`. -/
def simAsyncLoggerClear (logger : SimAsyncLogger) : SimAsyncLogger :=
  { logger with tail := logger.head }

/-- A call on an initialised logger. -/
inductive SimAsyncLoggerCall where
  | log (timestampNs threadId : ℕ) (level : SimLogLevel) (message : Option (List UInt8))
  | pop
  | clear

namespace SimAsyncLogger

/-- A call, and the record it hands out. A failed log call changes nothing. -/
def step (logger : SimAsyncLogger) :
    SimAsyncLoggerCall → Option SimAsyncLogRecord × SimAsyncLogger
  | .log timestampNs threadId level message =>
      match simAsyncLoggerLog logger timestampNs threadId level message with
      | .ok logger => (none, logger)
      | .error _ => (none, logger)
  | .pop => simAsyncLoggerPop logger
  | .clear => (none, simAsyncLoggerClear logger)

/-- The records handed out by the calls, and the logger after them. -/
def run : SimAsyncLogger → List SimAsyncLoggerCall →
    List (Option SimAsyncLogRecord) × SimAsyncLogger
  | logger, [] => ([], logger)
  | logger, call :: calls =>
      let next := logger.step call
      let rest := run next.2 calls
      (next.1 :: rest.1, rest.2)

/-- The records which pops would deliver one after the other. -/
def deliverable : ℕ → SimAsyncLogger → List SimAsyncLogRecord
  | 0, _ => []
  | pops + 1, logger =>
      match simAsyncLoggerPop logger with
      | (none, _) => []
      | (some entry, logger) => entry :: deliverable pops logger

end SimAsyncLogger

/-! ### Capacities -/

/-- Doubling ends at a power of two, after at most one round for each bit. -/
theorem simAsyncLoggerNextPow2Loop_some {value k : ℕ} (hValue : value ≤ 2 ^ 63) (hBits : k ≤ 63) :
    ∃ j ≤ 63, value ≤ 2 ^ j ∧ ∀ fuel, 64 ≤ k + fuel →
      simAsyncLoggerNextPow2Loop value fuel (2 ^ k) = some (2 ^ j) := by
  induction hLeft : 63 - k generalizing k with
  | zero =>
      obtain rfl : k = 63 := by omega
      refine ⟨63, Nat.le_refl _, hValue, ?_⟩
      rintro (_ | fuel) hFuel
      · omega
      · rw [simAsyncLoggerNextPow2Loop, if_neg (Nat.not_lt.mpr hValue)]
  | succ left ih =>
      by_cases hMore : 2 ^ k < value
      · obtain ⟨j, hJ, hAbove, hLoop⟩ := ih (k := k + 1) (by omega) (by omega)
        refine ⟨j, hJ, hAbove, ?_⟩
        have hShift : 2 ^ k <<< 1 % 2 ^ 64 = 2 ^ (k + 1) := by
          rw [Nat.shiftLeft_eq, ← Nat.pow_succ,
            Nat.mod_eq_of_lt (Nat.pow_lt_pow_right (by omega) (by omega))]
        rintro (_ | fuel) hFuel
        · omega
        · rw [simAsyncLoggerNextPow2Loop, if_pos hMore, hShift]
          exact hLoop fuel (by omega)
      · refine ⟨k, hBits, Nat.not_lt.mp hMore, ?_⟩
        rintro (_ | fuel) hFuel
        · omega
        · rw [simAsyncLoggerNextPow2Loop, if_neg hMore]

/-- Above `2 ^ 63` the doubled word becomes zero and the loop never ends. -/
theorem simAsyncLoggerNextPow2Loop_none {value : ℕ} (hValue : 2 ^ 63 < value) (fuel n : ℕ)
    (hWord : n = 0 ∨ ∃ k ≤ 63, n = 2 ^ k) : simAsyncLoggerNextPow2Loop value fuel n = none := by
  induction fuel generalizing n with
  | zero => rfl
  | succ fuel ih =>
      rw [simAsyncLoggerNextPow2Loop]
      rcases hWord with rfl | ⟨k, hBits, rfl⟩
      · rw [if_pos (Nat.lt_of_le_of_lt (Nat.zero_le _) hValue)]
        exact ih _ (.inl rfl)
      · have hLess : 2 ^ k ≤ 2 ^ 63 := Nat.pow_le_pow_right (by omega) hBits
        rw [if_pos (Nat.lt_of_le_of_lt hLess hValue)]
        apply ih
        rw [Nat.shiftLeft_eq, ← Nat.pow_succ]
        by_cases hLast : k = 63
        · exact .inl (by rw [hLast]; rfl)
        · refine .inr ⟨k + 1, by omega, Nat.mod_eq_of_lt ?_⟩
          exact Nat.pow_lt_pow_right (by omega) (by omega)

theorem simAsyncLoggerInit_none (heap : Heap) {requested : ℕ} (hRequested : 2 ^ 63 < requested)
    (fuel : ℕ) : simAsyncLoggerInit heap fuel requested = none := by
  have hLoop := simAsyncLoggerNextPow2Loop_none hRequested fuel 1 (.inr ⟨0, by omega, rfl⟩)
  rw [simAsyncLoggerInit, simAsyncLoggerNextPow2, if_neg (by omega), hLoop]

theorem simAsyncLoggerNextPow2_some {value : ℕ} (hValue : value ≤ 2 ^ 63) :
    ∃ j, 6 ≤ j ∧ j ≤ 63 ∧ value ≤ 2 ^ j ∧
      ∀ fuel, 64 ≤ fuel → simAsyncLoggerNextPow2 fuel value = some (2 ^ j) := by
  by_cases hZero : value = 0
  · refine ⟨6, by omega, by omega, by omega, fun fuel _ => ?_⟩
    rw [simAsyncLoggerNextPow2, if_pos hZero]
    rfl
  · obtain ⟨j, hJ, hAbove, hLoop⟩ := simAsyncLoggerNextPow2Loop_some (k := 0) hValue (by omega)
    have hResult : ∀ fuel, 64 ≤ fuel →
        simAsyncLoggerNextPow2 fuel value = some (if 2 ^ j < 64 then 64 else 2 ^ j) := by
      intro fuel hFuel
      rw [simAsyncLoggerNextPow2, if_neg hZero, show 1 = 2 ^ 0 from rfl,
        hLoop fuel (by omega)]
    by_cases hSmall : 2 ^ j < 64
    · refine ⟨6, by omega, by omega, by omega, fun fuel hFuel => ?_⟩
      rw [hResult fuel hFuel, if_pos hSmall]
      rfl
    · refine ⟨j, ?_, hJ, hAbove, fun fuel hFuel => ?_⟩
      · exact (Nat.pow_le_pow_iff_right (by omega)).mp (Nat.not_lt.mp hSmall)
      · rw [hResult fuel hFuel, if_neg hSmall]

/-! ### The ring -/

/-- The call on the queue of records. -/
def SimAsyncLoggerCall.onQueue : SimAsyncLoggerCall → OverwritingFifo.Call SimAsyncLogRecord
  | .log timestampNs threadId level (some message) =>
      .push (simAsyncLogRecord timestampNs threadId level message)
  | .log _ _ _ none => .refused
  | .pop => .pop
  | .clear => .clear

namespace SimAsyncLogger

open OverwritingFifo OverwritingFifo.Fifo

/-- How many records of a queue the ring holds. -/
def held (capacity : ℕ) (queue : Fifo SimAsyncLogRecord) : ℕ := min queue.unread.length capacity

/-- The ring holds the records of a queue: record `p` stays at `p % capacity` until it is
overwritten, and the counters are the positions in the history, as words. -/
structure Represents (logger : SimAsyncLogger) (queue : Fifo SimAsyncLogRecord) : Prop where
  ordered : queue.Ordered
  capacity : ∃ bits, 6 ≤ bits ∧ bits ≤ 63 ∧ logger.capacity = 2 ^ bits
  head : logger.head = queue.pushed.length % 2 ^ 64
  tail : logger.tail = (queue.pushed.length - held logger.capacity queue) % 2 ^ 64
  cells : ∃ cells, logger.records = some cells ∧ ∀ p entry, queue.pushed[p]? = some entry →
    queue.pushed.length ≤ p + held logger.capacity queue →
      cells (p % logger.capacity) = entry

variable {logger : SimAsyncLogger} {queue : Fifo SimAsyncLogRecord}

/-- Masking a counter gives the place of its position, also after it has wrapped. -/
theorem mask_eq {capacity : ℕ} (hCapacity : ∃ bits, 6 ≤ bits ∧ bits ≤ 63 ∧ capacity = 2 ^ bits)
    (position : ℕ) : position % 2 ^ 64 &&& (capacity - 1) = position % capacity := by
  obtain ⟨bits, -, hBits, rfl⟩ := hCapacity
  rw [Nat.and_two_pow_sub_one_eq_mod,
    Nat.mod_mod_of_dvd _ (Nat.pow_dvd_pow 2 (Nat.le_trans hBits (by omega)))]

theorem Represents.capacity_bounds (hRing : logger.Represents queue) :
    64 ≤ logger.capacity ∧ logger.capacity ≤ 2 ^ 63 := by
  obtain ⟨bits, hLow, hHigh, hCapacity⟩ := hRing.capacity
  have hLeast : 2 ^ 6 ≤ 2 ^ bits := Nat.pow_le_pow_right (by omega) hLow
  rw [hCapacity]
  exact ⟨hLeast, Nat.pow_le_pow_right (by omega) hHigh⟩

theorem Represents.log (hRing : logger.Represents queue) (timestampNs threadId : ℕ)
    (level : SimLogLevel) (message : List UInt8) :
    ∃ after, simAsyncLoggerLog logger timestampNs threadId level (some message) = .ok after ∧
      after.capacity = logger.capacity ∧
      after.Represents (queue.step logger.capacity
        (.push (simAsyncLogRecord timestampNs threadId level message))).2 := by
  obtain ⟨cells, hCells, hKept⟩ := hRing.cells
  obtain ⟨hLow, hHigh⟩ := hRing.capacity_bounds
  have hLength := hRing.ordered.length_le
  have hHead := hRing.head
  have hTail := hRing.tail
  unfold held at hTail hKept
  unfold simAsyncLoggerLog
  rw [hCells]
  refine ⟨_, rfl, rfl, ?_⟩
  constructor
  case ordered => exact hRing.ordered.step _
  case capacity => exact hRing.capacity
  case head =>
    dsimp only [Fifo.step]
    rw [hHead, List.length_append, Nat.mod_add_mod]
    rfl
  case tail =>
    dsimp only [Fifo.step, held]
    rw [List.length_append, List.length_append, List.length_singleton]
    generalize queue.unread.length = unread at *
    generalize queue.pushed.length = pushed at *
    by_cases hFull : logger.capacity ≤ (logger.head + 2 ^ 64 - logger.tail) % 2 ^ 64
    · rw [if_pos hFull]
      omega
    · rw [if_neg hFull]
      omega
  case cells =>
    refine ⟨_, rfl, fun p entry hEntry hRecent => ?_⟩
    dsimp only [Fifo.step, held] at hEntry hRecent ⊢
    rw [List.length_append, List.length_append, List.length_singleton] at hRecent
    rw [hHead, mask_eq hRing.capacity]
    obtain ⟨hLt, -⟩ := List.getElem?_eq_some_iff.mp hEntry
    rw [List.length_append, List.length_singleton, Nat.lt_succ_iff_lt_or_eq] at hLt
    rcases hLt with hOld | rfl
    · have hPlace : p % logger.capacity ≠ queue.pushed.length % logger.capacity := by
        intro hSame
        have hDvd := (Nat.modEq_iff_dvd' (Nat.le_of_lt hOld)).mp hSame
        have hFar := Nat.le_of_dvd (by omega) hDvd
        omega
      rw [List.getElem?_append_left hOld] at hEntry
      rw [Function.update_of_ne hPlace]
      exact hKept p entry hEntry (by omega)
    · rw [List.getElem?_concat_length, Option.some.injEq] at hEntry
      rw [Function.update_self, hEntry]

/-- While the counters are in phase, a pop hands out the oldest record held. -/
theorem Represents.pop (hRing : logger.Represents queue) (hPhase : logger.tail ≤ logger.head) :
    (simAsyncLoggerPop logger).1 = (queue.step logger.capacity .pop).1 ∧
      (simAsyncLoggerPop logger).2.capacity = logger.capacity ∧
      (simAsyncLoggerPop logger).2.tail ≤ (simAsyncLoggerPop logger).2.head ∧
      (simAsyncLoggerPop logger).2.Represents (queue.step logger.capacity .pop).2 := by
  obtain ⟨cells, hCells, hKept⟩ := hRing.cells
  obtain ⟨hLow, hHigh⟩ := hRing.capacity_bounds
  have hLength := hRing.ordered.length_le
  have hHead := hRing.head
  have hTail := hRing.tail
  have hRecent := @Ordered.recent_eq _ logger.capacity _ hRing.ordered
  have hHeld := length_recent logger.capacity queue.unread
  unfold held at hTail hKept
  rw [simAsyncLoggerPop, hCells, Fifo.step]
  dsimp only
  cases hOldest : recent logger.capacity queue.unread with
  | nil =>
      rw [hOldest, List.length_nil] at hHeld
      rw [if_pos (by omega)]
      exact ⟨rfl, rfl, hPhase, hRing⟩
  | cons entry rest =>
      rw [hOldest, List.length_cons] at hHeld hRecent
      rw [if_neg (by omega)]
      have hFirst : queue.pushed[queue.pushed.length - (rest.length + 1)]? = some entry := by
        rw [← Nat.add_zero (queue.pushed.length - (rest.length + 1)), ← List.getElem?_drop,
          ← hRecent]
        rfl
      refine ⟨?_, rfl, ?_, ?_⟩
      · rw [hTail, mask_eq hRing.capacity, ← hHeld, hKept _ entry hFirst (by omega)]
      · dsimp only
        omega
      · constructor
        case ordered =>
          have hStep := @Ordered.step _ logger.capacity _ hRing.ordered .pop
          rw [Fifo.step, hOldest] at hStep
          exact hStep
        case capacity => exact hRing.capacity
        case head => exact hHead
        case tail =>
          dsimp only [held]
          omega
        case cells =>
          refine ⟨cells, rfl, fun p other hOther hLater => ?_⟩
          dsimp only [held] at hOther hLater
          exact hKept p other hOther (by omega)

/-- Once the head has wrapped and the tail has not, a pop is refused although records are
held. -/
theorem Represents.pop_wrapped (hRing : logger.Represents queue)
    (hWrapped : logger.head < logger.tail) :
    simAsyncLoggerPop logger = (none, logger) ∧ recent logger.capacity queue.unread ≠ [] := by
  obtain ⟨cells, hCells, -⟩ := hRing.cells
  have hHead := hRing.head
  have hTail := hRing.tail
  constructor
  · rw [simAsyncLoggerPop, hCells]
    exact if_pos (Nat.le_of_lt hWrapped)
  · intro hNone
    have hHeld := length_recent logger.capacity queue.unread
    rw [hNone, List.length_nil] at hHeld
    rw [held, ← hHeld, Nat.sub_zero] at hTail
    omega

theorem Represents.clear (hRing : logger.Represents queue) :
    (simAsyncLoggerClear logger).Represents (queue.step logger.capacity .clear).2 where
  ordered := hRing.ordered.step .clear
  capacity := hRing.capacity
  head := hRing.head
  tail := by
    dsimp only [simAsyncLoggerClear, Fifo.step, held]
    rw [hRing.head, List.length_nil, Nat.zero_min, Nat.sub_zero]
  cells := by
    obtain ⟨cells, hCells, hKept⟩ := hRing.cells
    refine ⟨cells, hCells, fun p entry hEntry hRecent => ?_⟩
    obtain ⟨hLt, -⟩ := List.getElem?_eq_some_iff.mp hEntry
    dsimp only [Fifo.step, held] at hLt hRecent
    rw [List.length_nil, Nat.zero_min] at hRecent
    omega

/-- A call in phase answers as the queue does, and keeps the ring. -/
theorem Represents.step (hRing : logger.Represents queue) (call : SimAsyncLoggerCall)
    (hPhase : call = .pop → logger.tail ≤ logger.head) :
    (logger.step call).1 = (queue.step logger.capacity call.onQueue).1 ∧
      (logger.step call).2.capacity = logger.capacity ∧
      (logger.step call).2.Represents (queue.step logger.capacity call.onQueue).2 := by
  cases call with
  | pop =>
      obtain ⟨hAnswer, hCapacity, -, hNext⟩ := hRing.pop (hPhase rfl)
      exact ⟨hAnswer, hCapacity, hNext⟩
  | clear => exact ⟨rfl, rfl, hRing.clear⟩
  | log timestampNs threadId level message =>
      cases message with
      | none =>
          have hRefused : simAsyncLoggerLog logger timestampNs threadId level none =
              .error .invalidArgument := by
            unfold simAsyncLoggerLog
            cases logger.records <;> rfl
          rw [SimAsyncLogger.step, hRefused]
          exact ⟨rfl, rfl, hRing⟩
      | some message =>
          obtain ⟨after, hLog, hCapacity, hNext⟩ := hRing.log timestampNs threadId level message
          rw [SimAsyncLogger.step, hLog]
          exact ⟨rfl, hCapacity, hNext⟩

/-- No pop is called while the head has wrapped and the tail has not. -/
def CountersInPhase : SimAsyncLogger → List SimAsyncLoggerCall → Prop
  | _, [] => True
  | logger, call :: calls =>
      (call = .pop → logger.tail ≤ logger.head) ∧ CountersInPhase (logger.step call).2 calls

theorem Represents.run (hRing : logger.Represents queue) {calls : List SimAsyncLoggerCall}
    (hPhase : logger.CountersInPhase calls) :
    (logger.run calls).1 = (queue.run logger.capacity (calls.map (·.onQueue))).1 ∧
      (logger.run calls).2.capacity = logger.capacity ∧
      (logger.run calls).2.Represents
        (queue.run logger.capacity (calls.map (·.onQueue))).2 := by
  induction calls generalizing logger queue with
  | nil => exact ⟨rfl, rfl, hRing⟩
  | cons call calls ih =>
      obtain ⟨hAnswer, hCapacity, hNext⟩ := hRing.step call hPhase.1
      obtain ⟨hAnswers, hSame, hAfter⟩ := ih hNext hPhase.2
      rw [hCapacity] at hAnswers hSame hAfter
      rw [List.map_cons, Fifo.run, SimAsyncLogger.run]
      refine ⟨?_, hSame, hAfter⟩
      dsimp only
      rw [hAnswer, hAnswers]

/-- Popping again and again delivers the records held. -/
theorem Represents.deliverable_eq (hRing : logger.Represents queue)
    (hPhase : logger.tail ≤ logger.head) {pops : ℕ}
    (hPops : (recent logger.capacity queue.unread).length ≤ pops) :
    logger.deliverable pops = recent logger.capacity queue.unread := by
  induction pops generalizing logger queue with
  | zero => exact (List.eq_nil_of_length_eq_zero (Nat.le_zero.mp hPops)).symm
  | succ pops ih =>
      obtain ⟨hAnswer, hCapacity, hStays, hNext⟩ := hRing.pop hPhase
      have hHeld := length_recent logger.capacity queue.unread
      rw [Fifo.step] at hAnswer hNext
      rw [deliverable]
      generalize simAsyncLoggerPop logger = popped at *
      obtain ⟨answer, after⟩ := popped
      dsimp only at *
      cases hOldest : recent logger.capacity queue.unread with
      | nil =>
          rw [hOldest] at hAnswer
          rw [hAnswer]
      | cons entry rest =>
          rw [hOldest] at hAnswer hNext hHeld hPops
          rw [List.length_cons] at hHeld hPops
          have hRest : recent logger.capacity rest = rest := recent_of_length_le (by omega)
          have hLater := ih hNext hStays
          rw [hCapacity] at hLater
          dsimp only at hLater
          rw [hRest] at hLater
          rw [hAnswer]
          dsimp only
          rw [hLater (by omega)]

end SimAsyncLogger

open OverwritingFifo SimAsyncLogger

theorem simAsyncLoggerInit_some (heap : Heap) {requested : ℕ} (hRequested : requested ≤ 2 ^ 63) :
    ∃ outcome, (∀ fuel, 64 ≤ fuel → simAsyncLoggerInit heap fuel requested = some outcome) ∧
      ∀ logger, outcome = .ok logger →
        requested ≤ logger.capacity ∧ logger.Represents Fifo.empty := by
  obtain ⟨bits, hLow, hHigh, hAbove, hResult⟩ := simAsyncLoggerNextPow2_some hRequested
  by_cases hGranted : heap.calloc (2 ^ bits) simAsyncLogRecordSize = true
  · refine ⟨.ok ⟨some fun _ => ⟨0, 0, .trace, []⟩, 2 ^ bits, 0, 0⟩, ?_, ?_⟩
    · intro fuel hFuel
      rw [simAsyncLoggerInit, hResult fuel hFuel]
      dsimp only
      rw [if_pos hGranted]
    · rintro logger hLogger
      obtain rfl := Except.ok.inj hLogger
      refine ⟨hAbove, Fifo.ordered_empty, ⟨bits, hLow, hHigh, rfl⟩, rfl, rfl, _, rfl, ?_⟩
      intro p entry hEntry
      exact (nomatch hEntry)
  · refine ⟨.error .outOfMemory, ?_, fun logger hLogger => nomatch hLogger⟩
    intro fuel hFuel
    rw [simAsyncLoggerInit, hResult fuel hFuel]
    dsimp only
    rw [if_neg hGranted]

/-- Initialisation ends for every request up to `2 ^ 63`. A created logger behaves as a queue
which gives up its oldest records: of those logged after the last one popped or cleared it
delivers the last, as many as the ring holds, in the order logged and each at most once. -/
theorem simAsyncLogger_fifo (heap : Heap) {requested : ℕ} (hRequested : requested ≤ 2 ^ 63) :
    ∃ outcome, (∀ fuel, 64 ≤ fuel → simAsyncLoggerInit heap fuel requested = some outcome) ∧
      ∀ logger, outcome = .ok logger →
        (∃ bits, logger.capacity = 2 ^ bits) ∧ max 64 requested ≤ logger.capacity ∧
        ∀ calls, logger.CountersInPhase calls →
          let queue := Fifo.empty.run logger.capacity (calls.map (·.onQueue))
          (logger.run calls).1 = queue.1 ∧
          (queue.1.filterMap id).Sublist queue.2.pushed ∧
          ((logger.run calls).2.tail ≤ (logger.run calls).2.head →
            (logger.run calls).2.deliverable logger.capacity =
              recent logger.capacity queue.2.unread) := by
  obtain ⟨outcome, hInit, hRing⟩ := simAsyncLoggerInit_some heap hRequested
  refine ⟨outcome, hInit, fun logger hLogger => ?_⟩
  obtain ⟨hAbove, hRing⟩ := hRing logger hLogger
  obtain ⟨bits, -, -, hCapacity⟩ := hRing.capacity
  refine ⟨⟨bits, hCapacity⟩, Nat.max_le.mpr ⟨hRing.capacity_bounds.1, hAbove⟩, ?_⟩
  intro calls hPhase
  obtain ⟨hAnswers, hSame, hAfter⟩ := hRing.run hPhase
  refine ⟨hAnswers, ?_, fun hEnd => ?_⟩
  · have hPopped := @Fifo.popped_run _ logger.capacity Fifo.empty
      (calls.map (·.onQueue))
    rw [Fifo.empty, List.nil_append] at hPopped
    rw [Fifo.empty, ← hPopped]
    exact hAfter.ordered.sublist
  · have hHeld : (recent (logger.run calls).2.capacity
        (Fifo.empty.run logger.capacity (calls.map (·.onQueue))).2.unread).length ≤
          logger.capacity := by
      rw [hSame, length_recent]
      exact Nat.min_le_right _ _
    have hDeliver := hAfter.deliverable_eq hEnd hHeld
    rwa [hSame] at hDeliver

theorem simAsyncLogger_fifo_hundred :
    ∃ outcome, simAsyncLoggerInit ⟨fun _ => true⟩ 64 100 = some outcome ∧
      ∀ logger, outcome = .ok logger → 100 ≤ logger.capacity := by
  obtain ⟨outcome, hInit, hLogger⟩ :=
    simAsyncLogger_fifo ⟨fun _ => true⟩ (show 100 ≤ 2 ^ 63 by decide)
  refine ⟨outcome, hInit 64 (by decide), fun logger hOk => ?_⟩
  exact Nat.le_trans (by decide) (hLogger logger hOk).2.1

/-- What was logged and neither popped nor cleared, the overwritten records among it. -/
def remaining : List SimAsyncLoggerCall → List (Option SimAsyncLogRecord) →
    List SimAsyncLogRecord → List SimAsyncLogRecord
  | .log timestampNs threadId level (some message) :: calls, _ :: answers, records =>
      remaining calls answers
        (records ++ [simAsyncLogRecord timestampNs threadId level message])
  | .pop :: calls, some entry :: answers, records =>
      remaining calls answers (records.erase entry)
  | .clear :: calls, _ :: answers, _ => remaining calls answers []
  | _ :: calls, _ :: answers, records => remaining calls answers records
  | _, _, records => records

/-- After 65 log calls and a pop 64 records are neither popped nor cleared, but the first of
them is overwritten: only 63 are delivered. -/
theorem overwritten_not_deliverable :
    ∃ logger, simAsyncLoggerInit ⟨fun _ => true⟩ 64 64 = some (.ok logger) ∧
      let calls := (List.range 65).map (fun time => .log time 0 .info (some [])) ++ [.pop]
      (logger.run calls).2.deliverable 64 ≠
        recent 64 (remaining calls (logger.run calls).1 []) := by
  refine ⟨_, rfl, ?_⟩
  decide +kernel

end Oakfield
