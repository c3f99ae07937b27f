import Mathlib.Data.List.Basic
import Mathlib.Data.Nat.Notation
import Mathlib.Data.Nat.ModEq
import Mathlib.Logic.Function.Basic

/-! The ring of recent step metrics in the runtime state. -/
namespace Oakfield.Context

variable {M : Type}

/-- The step metrics of a `SimRuntimeState`, over the type of one sample. -/
structure StepMetricsRing (M : Type) where
  stepMetrics : ℕ → M
  stepMetricsHead : ℕ
  stepMetricsCount : ℕ
  stepMetricsValid : Bool
  stepMetricsLatest : M

/-- The ring after initialisation or a reset, whatever its cells still hold. -/
def StepMetricsRing.cleared (cells : ℕ → M) (latest : M) : StepMetricsRing M :=
  ⟨cells, 0, 0, false, latest⟩

/-- `sim_runtime_state_record_step_metrics` with a ring of `history` cells, in the source
`SIM_STEP_METRIC_HISTORY`. -/
def simRuntimeStateRecordStepMetrics (history : ℕ) (state : StepMetricsRing M) (metrics : M) :
    StepMetricsRing M where
  stepMetrics := Function.update state.stepMetrics state.stepMetricsHead metrics
  stepMetricsHead := (state.stepMetricsHead + 1) % history
  stepMetricsCount :=
    if state.stepMetricsCount < history then state.stepMetricsCount + 1 else state.stepMetricsCount
  stepMetricsValid := true
  stepMetricsLatest := metrics

/-- `sim_runtime_state_latest_step_metrics`. -/
def simRuntimeStateLatestStepMetrics (state : StepMetricsRing M) : Option M :=
  if state.stepMetricsValid then some state.stepMetricsLatest else none

/-- `sim_runtime_state_copy_step_metrics`: the number of samples written, and the
destination. -/
def simRuntimeStateCopyStepMetrics (history : ℕ) (state : StepMetricsRing M) (dest : ℕ → M)
    (capacity : ℕ) : ℕ × (ℕ → M) :=
  if capacity = 0 ∨ state.stepMetricsCount = 0 then (0, dest)
  else
    let count := state.stepMetricsCount
    let toCopy := if capacity < count then capacity else count
    let startIndex := (state.stepMetricsHead + history - count) % history
    (toCopy, (List.range toCopy).foldl
      (fun dest i => Function.update dest i (state.stepMetrics ((startIndex + i) % history))) dest)

/-- What the ring keeps of the samples recorded so far: sample `j` stays at `j % history`
until `history` later ones have been recorded. -/
structure StepMetricsRing.Keeps (history : ℕ) (samples : List M) (state : StepMetricsRing M) :
    Prop where
  head : state.stepMetricsHead = samples.length % history
  count : state.stepMetricsCount = min samples.length history
  latest : simRuntimeStateLatestStepMetrics state = samples.getLast?
  cell : ∀ j m, samples[j]? = some m → samples.length ≤ j + history →
    state.stepMetrics (j % history) = m

theorem StepMetricsRing.keeps_cleared (history : ℕ) (cells : ℕ → M) (latest : M) :
    (StepMetricsRing.cleared cells latest).Keeps history [] where
  head := (Nat.zero_mod history).symm
  count := (Nat.zero_min history).symm
  latest := rfl
  cell j m hSample := by cases hSample

/-- Recording a sample adds it to those kept; it takes the cell of the oldest one when the
ring is full. -/
theorem StepMetricsRing.Keeps.record {history : ℕ} {samples : List M}
    {state : StepMetricsRing M} (hKeeps : state.Keeps history samples) (metrics : M) :
    (simRuntimeStateRecordStepMetrics history state metrics).Keeps history
      (samples ++ [metrics]) where
  head := by
    rw [simRuntimeStateRecordStepMetrics, hKeeps.head, List.length_append, Nat.mod_add_mod]
    rfl
  count := by
    rw [simRuntimeStateRecordStepMetrics, hKeeps.count, List.length_append, List.length_singleton]
    dsimp only
    split_ifs <;> omega
  latest := List.getLast?_concat.symm
  cell j m hSample hRecent := by
    rw [List.length_append, List.length_singleton] at hRecent
    rw [simRuntimeStateRecordStepMetrics, hKeeps.head]
    dsimp only
    obtain ⟨hLt, -⟩ := List.getElem?_eq_some_iff.mp hSample
    rw [List.length_append, List.length_singleton, Nat.lt_succ_iff_lt_or_eq] at hLt
    rcases hLt with hOld | rfl
    · have hCell : j % history ≠ samples.length % history := by
        intro hSame
        have hDvd : history ∣ samples.length -
          j := (Nat.modEq_iff_dvd' (Nat.le_of_lt hOld)).mp hSame
        have hFar := Nat.le_of_dvd (by omega) hDvd
        omega
      rw [List.getElem?_append_left hOld] at hSample
      rw [Function.update_of_ne hCell]
      exact hKeeps.cell j m hSample (by omega)
    · rw [List.getElem?_concat_length, Option.some.injEq] at hSample
      rw [Function.update_self, hSample]

theorem StepMetricsRing.Keeps.foldl {history : ℕ} {samples : List M}
    {state : StepMetricsRing M} (hKeeps : state.Keeps history samples) (later : List M) :
    (later.foldl (simRuntimeStateRecordStepMetrics history) state).Keeps history
      (samples ++ later) := by
  induction later generalizing state samples with
  | nil => rwa [List.append_nil]
  | cons metrics later ih =>
      rw [← List.singleton_append, ← List.append_assoc]
      exact ih (hKeeps.record metrics)

theorem foldl_update_apply (value : ℕ → M) (n : ℕ) (dest : ℕ → M) (i : ℕ) :
    (List.range n).foldl (fun dest i => Function.update dest i (value i)) dest i =
      if i < n then value i else dest i := by
  induction n with
  | zero => rfl
  | succ n ih =>
      rw [List.range_succ, List.foldl_append, List.foldl_cons, List.foldl_nil]
      by_cases hLast : i = n
      · rw [hLast, Function.update_self, if_pos (Nat.lt_succ_self n)]
      · rw [Function.update_of_ne hLast, ih]
        exact if_congr (by omega) rfl rfl

/-- The cells which a copy reads. -/
theorem start_index_mod (history n i : ℕ) :
    ((n % history + history - min n history) % history + i) % history =
      (n - min n history + i) % history := by
  rw [Nat.mod_add_mod]
  rcases Nat.lt_or_ge n history with hLess | hFull
  · rw [Nat.min_eq_left (Nat.le_of_lt hLess), Nat.mod_eq_of_lt hLess, Nat.add_sub_cancel_left,
      Nat.sub_self,
      Nat.zero_add, Nat.add_mod_left]
  · have hSplit : n + i = n - history + i + history := by omega
    rw [Nat.min_eq_right hFull, Nat.add_sub_cancel, Nat.mod_add_mod, hSplit, Nat.add_mod_right]

/-- A copy gives the oldest of the samples which are kept, in the order of recording. -/
theorem StepMetricsRing.Keeps.copy {history : ℕ} {samples : List M}
    {state : StepMetricsRing M} (hKeeps : state.Keeps history samples) (dest : ℕ → M)
    (capacity : ℕ) :
    (simRuntimeStateCopyStepMetrics history state dest capacity).1 =
        min capacity (min samples.length history) ∧
      ∀ i, (i < min capacity (min samples.length history) →
          samples[samples.length - min samples.length history + i]? =
            some ((simRuntimeStateCopyStepMetrics history state dest capacity).2 i)) ∧
        (min capacity (min samples.length history) ≤ i →
          (simRuntimeStateCopyStepMetrics history state dest capacity).2 i = dest i) := by
  unfold simRuntimeStateCopyStepMetrics
  rw [hKeeps.count, hKeeps.head]
  by_cases hNone : capacity = 0 ∨ min samples.length history = 0
  · rw [if_pos hNone]
    exact ⟨by omega, fun i => ⟨fun hCopied => by omega, fun _ => rfl⟩⟩
  · rw [if_neg hNone]
    dsimp only
    have hCount : (if capacity < min samples.length history then capacity
        else min samples.length history) = min capacity (min samples.length history) := by
      split_ifs <;> omega
    rw [hCount]
    refine ⟨rfl, fun i => ⟨fun hCopied => ?_, fun hRest => ?_⟩⟩
    · rw [foldl_update_apply, if_pos hCopied, start_index_mod]
      have hLt : samples.length - min samples.length history + i < samples.length := by omega
      rw [List.getElem?_eq_getElem hLt, Option.some.injEq]
      exact (hKeeps.cell _ _ (List.getElem?_eq_getElem hLt) (by omega)).symm
    · rw [foldl_update_apply, if_neg (by omega)]

/-- After any recordings the ring counts the samples up to its capacity and knows the last
one; a copy gives the first samples of those it keeps, and leaves the rest of the
destination alone. -/
theorem stepMetrics_history (history : ℕ) (cells : ℕ → M) (latest : M)
    (samples : List M) (state : StepMetricsRing M)
    (hRun : state = samples.foldl (simRuntimeStateRecordStepMetrics history)
      (StepMetricsRing.cleared cells latest)) :
    state.stepMetricsCount = min samples.length history ∧
      simRuntimeStateLatestStepMetrics state = samples.getLast? ∧
      ∀ dest capacity count out,
        simRuntimeStateCopyStepMetrics history state dest capacity = (count, out) →
          count = min capacity state.stepMetricsCount ∧
          (List.range count).map out =
            (samples.drop (samples.length - state.stepMetricsCount)).take capacity ∧
          ∀ i, count ≤ i → out i = dest i := by
  have hKeeps : state.Keeps history samples :=
    hRun ▸ (StepMetricsRing.keeps_cleared history cells latest).foldl samples
  refine ⟨hKeeps.count, hKeeps.latest, fun dest capacity count out hCopy => ?_⟩
  obtain ⟨hCount, hValues⟩ := hKeeps.copy dest capacity
  rw [hCopy] at hCount hValues
  dsimp only at hCount hValues
  rw [hKeeps.count]
  refine ⟨hCount, ?_, fun i hRest => (hValues i).2 (hCount ▸ hRest)⟩
  apply List.ext_getElem?
  intro i
  rw [List.getElem?_map, List.getElem?_take, List.getElem?_drop]
  by_cases hCopied : i < count
  · rw [List.getElem?_range hCopied, if_pos (by omega), (hValues i).1 (by omega)]
    rfl
  · rw [List.getElem?_eq_none (by rw [List.length_range]; omega), Option.map_none]
    split_ifs with hCapacity
    · exact (List.getElem?_eq_none (by omega)).symm
    · rfl

/-- Three samples in a ring of two cells, of which one is copied. -/
theorem stepMetrics_history_wrapped :
    (simRuntimeStateCopyStepMetrics 2
      ([5, 6, 7].foldl (simRuntimeStateRecordStepMetrics 2) (.cleared (fun _ => 0) 0))
      (fun _ => 0) 1).1 = 1 ∧
    (List.range 1).map (simRuntimeStateCopyStepMetrics 2
      ([5, 6, 7].foldl (simRuntimeStateRecordStepMetrics 2) (.cleared (fun _ => 0) 0))
      (fun _ => 0) 1).2 = [6] := by
  obtain ⟨-, -, hCopy⟩ := stepMetrics_history 2 (fun _ => 0) 0 [5, 6, 7] _ rfl
  obtain ⟨-, hSamples, -⟩ := hCopy (fun _ => 0) 1 1 _ rfl
  exact ⟨rfl, hSamples⟩

end Oakfield.Context
