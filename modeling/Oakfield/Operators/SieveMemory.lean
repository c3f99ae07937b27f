import Oakfield.Operators.SegmentedSieve

/-! What the loops of the sieve operators do to the fields: elements of the flag field
become zero and nothing else changes, also where the fields are the same one. -/
namespace Oakfield

open KernelIR Library.Loop

variable {D : Type} [CDouble D] {before middle after other : List (SimField D)} {k : ℕ}
  {cleared cleared' : ℕ → Prop}

/-- The elements at `cleared` of context field `k` become zero, the others stay, and so
does everything else. -/
structure Cleared (k : ℕ) (cleared : ℕ → Prop) (before after : List (SimField D)) : Prop where
  others : ∀ j, j ≠ k → after[j]? = before[j]?
  target : ∀ field data, before[k]? = some field → field.data = some data → ∃ data',
    after[k]? = some { field with data := some data' } ∧ ∀ i,
      (cleared i → simOperatorIntegerTruncate (data'.word i) field.domain = 0) ∧
        (¬cleared i → simOperatorIntegerTruncate (data'.word i) field.domain =
          simOperatorIntegerTruncate (data.word i) field.domain)

theorem truncate_zero (domain : SimScalarDomain) : simOperatorIntegerTruncate 0 domain = 0 := by
  unfold simOperatorIntegerTruncate
  split
  · rfl
  split
  · rfl
  · exact BitVec.zero_and

namespace Cleared

theorem refl (fields : List (SimField D)) : Cleared k (fun _ => False) fields fields := by
  constructor
  case others => exact fun _ _ => rfl
  case target =>
    intro field data hField hData
    refine ⟨data, ?_, fun i => ⟨False.elim, fun _ => rfl⟩⟩
    rw [hField, ← hData]

theorem trans (hFirst : Cleared k cleared before middle) (hSecond : Cleared k cleared' middle after) :
    Cleared k (fun i => cleared i ∨ cleared' i) before after := by
  constructor
  case others => exact fun j hOther => (hSecond.others j hOther).trans (hFirst.others j hOther)
  case target =>
    intro field data hField hData
    obtain ⟨data', hMiddle, hElements⟩ := hFirst.target field data hField hData
    obtain ⟨data'', hAfter, hElements'⟩ := hSecond.target _ data' hMiddle rfl
    refine ⟨data'', hAfter, fun i => ⟨fun hEither => ?_, fun hNeither => ?_⟩⟩
    · by_cases hLater : cleared' i
      · exact (hElements' i).1 hLater
      · exact ((hElements' i).2 hLater).trans ((hElements i).1 (hEither.resolve_right hLater))
    · obtain ⟨hNot, hNot'⟩ := not_or.mp hNeither
      exact ((hElements' i).2 hNot').trans ((hElements i).2 hNot)

theorem congr (hCleared : Cleared k cleared before after) (hSame : ∀ i, cleared' i ↔ cleared i) :
    Cleared k cleared' before after := by
  have hEq : cleared' = cleared := funext fun i => propext (hSame i)
  rw [hEq]
  exact hCleared

/-- An element which is zero already counts as cleared. -/
theorem insert (hCleared : Cleared k cleared before after) {index : ℕ}
    (hZero : ∀ field data, before[k]? = some field → field.data = some data →
      simOperatorIntegerTruncate (data.word index) field.domain = 0) :
    Cleared k (fun i => cleared i ∨ i = index) before after := by
  constructor
  case others => exact hCleared.others
  case target =>
    intro field data hField hData
    obtain ⟨data', hAfter, hElements⟩ := hCleared.target field data hField hData
    refine ⟨data', hAfter, fun i => ⟨fun hEither => ?_, fun hNeither => ?_⟩⟩
    · by_cases hOld : cleared i
      · exact (hElements i).1 hOld
      · obtain rfl := hEither.resolve_left hOld
        exact ((hElements i).2 hOld).trans (hZero field data hField hData)
    · exact (hElements i).2 (not_or.mp hNeither).1

end Cleared

/-! ### Single elements -/

omit [CDouble D] in
theorem contextData_eq {field : SimField D} {data : FieldData D} (hField : before[k]? = some field)
    (hBuffer : field.buffer = some data) : contextData before k = some data := by
  rw [contextData, hField]
  exact hBuffer

omit [CDouble D] in
theorem data_of_buffer {field : SimField D} {data : FieldData D} (hBuffer : field.buffer = some data) :
    field.initialized = true ∧ field.data = some data := by
  rw [SimField.buffer] at hBuffer
  split at hBuffer
  case isTrue => cases hBuffer
  case isFalse hInit => exact ⟨by simpa using hInit, hBuffer⟩

/-- Storing a zero clears one element. -/
theorem cleared_setWord {field : SimField D} {data : FieldData D} (hField : before[k]? = some field)
    (hBuffer : field.buffer = some data) (index : ℕ) :
    Cleared k (· = index) before (setContextData before k (data.setWord index 0)) := by
  constructor
  case others =>
    intro j hOther
    exact List.getElem?_modify_ne _ _ (Ne.symm hOther)
  case target =>
    intro field' data' hField' hData'
    obtain rfl := Option.some.inj (hField.symm.trans hField')
    obtain rfl := Option.some.inj ((data_of_buffer hBuffer).2.symm.trans hData')
    refine ⟨data.setWord index 0, ?_, fun i => ⟨fun hIndex => ?_, fun hOther => ?_⟩⟩
    · rw [setContextData, List.getElem?_modify_eq, hField]
      rfl
    · rw [FieldData.word_setWord, if_pos hIndex]
      exact truncate_zero _
    · rw [FieldData.word_setWord, if_neg hOther]

omit [CDouble D] in
theorem buffer_setData {field : SimField D} (hInit : field.initialized = true) (data : FieldData D) :
    ({ field with data := some data } : SimField D).buffer = some data := by
  rw [SimField.buffer, if_neg (by simp [hInit])]

/-- A field after elements of context field `k` were cleared. -/
theorem Cleared.field (hCleared : Cleared k cleared before after) {j : ℕ} {field : SimField D}
    {data : FieldData D} (hField : before[j]? = some field) (hBuffer : field.buffer = some data) :
    ∃ data', after[j]? = some { field with data := some data' } ∧ ∀ i,
      (j = k ∧ cleared i → simOperatorIntegerTruncate (data'.word i) field.domain = 0) ∧
        (¬(j = k ∧ cleared i) → simOperatorIntegerTruncate (data'.word i) field.domain =
          simOperatorIntegerTruncate (data.word i) field.domain) := by
  have hData := (data_of_buffer hBuffer).2
  by_cases hSame : j = k
  · subst hSame
    obtain ⟨data', hAfter, hElements⟩ := hCleared.target field data hField hData
    refine ⟨data', hAfter, fun i => ⟨fun hIndex => (hElements i).1 hIndex.2, fun hNot => ?_⟩⟩
    exact (hElements i).2 fun hIndex => hNot ⟨rfl, hIndex⟩
  · refine ⟨data, ?_, fun i => ⟨fun hIndex => absurd hIndex.1 hSame, fun _ => rfl⟩⟩
    rw [hCleared.others j hSame, hField, ← hData]

/-- An element that was not cleared is read as before. -/
theorem Cleared.readElement (hCleared : Cleared k cleared before after) {j : ℕ} {field : SimField D}
    {data : FieldData D} (hField : before[j]? = some field) (hBuffer : field.buffer = some data)
    (hDomain : HasIntegerElements field.domain) {i : ℕ} (hNot : ¬cleared i) :
    readElement after j field.domain i =
      some (simOperatorIntegerTruncate (data.word i) field.domain) := by
  obtain ⟨data', hAfter, hElements⟩ := hCleared.field hField hBuffer
  rw [Oakfield.readElement, contextData_eq hAfter (buffer_setData (data_of_buffer hBuffer).1 data'),
    Option.bind_some, hDomain.read_eq, (hElements i).2 fun hIndex => hNot hIndex.2]

/-! ### Marking element by element -/

section Marking

variable {candidateField flagsField : ℕ} {candidate flags : SimField D}
  {candidateData flagsData : FieldData D} (hCandidate : before[candidateField]? = some candidate)
  (hCandidateData : candidate.buffer = some candidateData) (hFlags : before[flagsField]? = some flags)
  (hFlagsData : flags.buffer = some flagsData) (hCandidateDomain : HasIntegerElements candidate.domain)
  (hFlagsDomain : HasIntegerElements flags.domain) (hit : Word → Bool)

include hCandidate hCandidateData hFlags hFlagsData hCandidateDomain hFlagsDomain

/-- One iteration extends the cleared part by its element. -/
theorem markElement_step {index : ℕ}
    (hCleared : Cleared flagsField (fun i => i < index ∧
      hit (simOperatorIntegerTruncate (candidateData.word i) candidate.domain) = true) before middle) :
    ∃ after, markElement candidateField flagsField candidate.domain flags.domain hit index middle =
        some (.ok (), after) ∧
      Cleared flagsField (fun i => i < index + 1 ∧
        hit (simOperatorIntegerTruncate (candidateData.word i) candidate.domain) = true)
        before after := by
  have hFresh : ¬(index < index ∧
      hit (simOperatorIntegerTruncate (candidateData.word index) candidate.domain) = true) :=
    fun h => Nat.lt_irrefl index h.1
  have hFlagRead := hCleared.readElement hFlags hFlagsData hFlagsDomain hFresh
  have hCandidateRead := hCleared.readElement hCandidate hCandidateData hCandidateDomain hFresh
  have hGrow : ∀ i, (i < index + 1 ∧
      hit (simOperatorIntegerTruncate (candidateData.word i) candidate.domain) = true) ↔
        (i < index ∧ hit (simOperatorIntegerTruncate (candidateData.word i) candidate.domain) = true) ∨
          (i = index ∧
            hit (simOperatorIntegerTruncate (candidateData.word index) candidate.domain) = true) := by
    intro i
    constructor
    · rintro ⟨hLt, hHit⟩
      rcases Nat.lt_succ_iff_lt_or_eq.mp hLt with hOld | rfl
      · exact Or.inl ⟨hOld, hHit⟩
      · exact Or.inr ⟨rfl, hHit⟩
    · rintro (⟨hOld, hHit⟩ | ⟨rfl, hHit⟩)
      · exact ⟨Nat.lt_succ_of_lt hOld, hHit⟩
      · exact ⟨Nat.lt_succ_self i, hHit⟩
  unfold markElement
  rw [hFlagRead]
  dsimp only
  by_cases hZero : simOperatorIntegerTruncate (flagsData.word index) flags.domain = 0
  · rw [if_pos hZero]
    refine ⟨middle, rfl, ?_⟩
    by_cases hHit : hit (simOperatorIntegerTruncate (candidateData.word index) candidate.domain) = true
    · have hOld : ∀ field data, before[flagsField]? = some field → field.data = some data →
          simOperatorIntegerTruncate (data.word index) field.domain = 0 := by
        intro field data hField hData
        obtain rfl := Option.some.inj (hFlags.symm.trans hField)
        obtain rfl := Option.some.inj ((data_of_buffer hFlagsData).2.symm.trans hData)
        exact hZero
      exact (hCleared.insert hOld).congr fun i => by rw [hGrow, and_iff_left hHit]
    · exact hCleared.congr fun i => by rw [hGrow, or_iff_left fun h => hHit h.2]
  · rw [if_neg hZero, hCandidateRead]
    dsimp only
    by_cases hHit : hit (simOperatorIntegerTruncate (candidateData.word index) candidate.domain) = true
    · rw [hHit, if_neg (by decide)]
      obtain ⟨hInit, hData⟩ := data_of_buffer hFlagsData
      obtain ⟨data', hMiddle, -⟩ := hCleared.target flags flagsData hFlags hData
      have hBuffer := buffer_setData hInit data'
      have hWrite : writeElement middle flagsField flags.domain index 0 =
          some (setContextData middle flagsField (data'.setWord index 0)) := by
        rw [writeElement, contextData_eq hMiddle hBuffer, Option.bind_some, hFlagsDomain.write_zero]
        rfl
      rw [hWrite]
      refine ⟨_, rfl, ?_⟩
      have hBoth := hCleared.trans (cleared_setWord hMiddle hBuffer index)
      exact hBoth.congr fun i => by rw [hGrow, and_iff_left hHit]
    · rw [Bool.eq_false_of_not_eq_true hHit]
      exact ⟨middle, rfl, hCleared.congr fun i => by rw [hGrow, or_iff_left fun h => hHit h.2]⟩

/-- The loop clears the elements whose candidates are hit. -/
theorem markElements_cleared :
    ∃ after, markElements candidateField flagsField candidate flags hit before = some (.ok (), after) ∧
      Cleared flagsField (fun i => i < SimField.elementCount candidate.shape ∧
        hit (simOperatorIntegerTruncate (candidateData.word i) candidate.domain) = true)
        before after := by
  unfold markElements
  rw [hFlagsDomain.exact, contextData_eq hFlags hFlagsData]
  dsimp only
  rw [if_pos rfl, if_neg (by simp)]
  apply forEach_range_total (P := fun n fields => Cleared flagsField (fun i => i < n ∧
    hit (simOperatorIntegerTruncate (candidateData.word i) candidate.domain) = true) before fields)
  · intro index middle _ hCleared
    exact markElement_step hCandidate hCandidateData hFlags hFlagsData hCandidateDomain hFlagsDomain
      hit hCleared
  · exact (Cleared.refl before).congr fun i => by simp

end Marking

/-! ### Strides -/

/-- The strided loop clears every element of its stride, if its index does not wrap. -/
theorem clearStride_cleared {flagsField count prime : ℕ} (hFits : count + prime ≤ 2 ^ 64)
    {fuel index : ℕ} (hFuel : count ≤ index + fuel) (hPrime : 0 < prime) {flags : SimField D}
    {flagsData : FieldData D} (hFlags : before[flagsField]? = some flags)
    (hFlagsData : flags.buffer = some flagsData) :
    ∃ after, clearStride flagsField count prime (fuel + 1) index before = some after ∧
      Cleared flagsField (fun i => i < count ∧ index ≤ i ∧ prime ∣ i - index) before after := by
  induction fuel generalizing index before flags flagsData with
  | zero =>
      rw [clearStride, if_neg (by omega)]
      exact ⟨before, rfl, (Cleared.refl before).congr fun i => by simp; omega⟩
  | succ fuel ih =>
      rw [clearStride]
      by_cases hLt : index < count
      · have hInit := (data_of_buffer hFlagsData).1
        have hStored : (setContextData before flagsField (flagsData.setWord index 0))[flagsField]? =
            some { flags with data := some (flagsData.setWord index 0) } := by
          rw [setContextData, List.getElem?_modify_eq, hFlags]
          rfl
        have hBuffer := buffer_setData hInit (flagsData.setWord index 0)
        have hLater : count ≤ index + prime + fuel := by omega
        obtain ⟨after, hRun, hRest⟩ := ih hLater hStored hBuffer
        rw [if_pos hLt, contextData_eq hFlags hFlagsData, Nat.mod_eq_of_lt (by omega)]
        refine ⟨after, hRun, ((cleared_setWord hFlags hFlagsData index).trans hRest).congr fun i => ?_⟩
        constructor
        · rintro ⟨hCount, hLe, hDvd⟩
          rcases Nat.eq_or_lt_of_le hLe with rfl | hGt
          · exact Or.inl rfl
          · have hFar : prime ≤ i - index := Nat.le_of_dvd (by omega) hDvd
            refine Or.inr ⟨hCount, by omega, ?_⟩
            rw [← Nat.sub_sub]
            exact Nat.dvd_sub hDvd (dvd_refl prime)
        · rintro (rfl | ⟨hCount, hLe, hDvd⟩)
          · exact ⟨hLt, Nat.le_refl _, by simp⟩
          · refine ⟨hCount, by omega, ?_⟩
            rw [show i - index = (i - (index + prime)) + prime by omega]
            exact Nat.dvd_add hDvd (dvd_refl prime)
      · rw [if_neg hLt]
        exact ⟨before, rfl, (Cleared.refl before).congr fun i => by simp; omega⟩

end Oakfield
