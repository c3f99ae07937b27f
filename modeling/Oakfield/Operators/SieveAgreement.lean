import Oakfield.Operators.SieveArithmetic

/-! One batched sieve pass is the single passes of its primes, in any order. -/
namespace Oakfield

open KernelIR Library.Loop

variable {D : Type} [CDouble D] {before middle after : List (SimField D)}

/-- The value of an element, as an integer. -/
def elementValue (domain : SimScalarDomain) (data : FieldData D) (i : ℕ) : ℤ :=
  domain.intValue (data.word i)

/-- The elements whose candidates are struck out by one of the primes. -/
def Struck (candidate : SimField D) (data : FieldData D) (primes : List Word) (i : ℕ) : Prop :=
  i < SimField.elementCount candidate.shape ∧
    ∃ prime ∈ primes, Strikes prime.toNat (elementValue candidate.domain data i)

theorem struck_nil (candidate : SimField D) (data : FieldData D) (i : ℕ) :
    ¬Struck candidate data [] i := by
  rintro ⟨-, prime, hMem, -⟩
  cases hMem

theorem struck_append (candidate : SimField D) (data : FieldData D)
    (left right : List Word) (i : ℕ) :
    Struck candidate data (left ++ right) i ↔
      Struck candidate data left i ∨ Struck candidate data right i := by
  simp only [Struck, List.mem_append, or_and_right, exists_or, and_or_left]

omit [CDouble D] in
/-- A field with an integer domain carries it, so it is a valid one. -/
theorem validate_domain {field : SimField D} (hInteger : field.domain.kind = .integer) :
    field.domain.validate = true := by
  unfold SimField.domain at hInteger ⊢
  by_cases hInit : (!field.initialized) = true
  · rw [if_pos hInit] at hInteger
    cases hInteger
  by_cases hValid : (field.scalarDomain.validate && field.scalarDomain.kind != .unknown) = true
  · rw [if_neg hInit, if_pos hValid]
    exact ((Bool.and_eq_true _ _).mp hValid).1
  rw [if_neg hInit, if_neg hValid] at hInteger
  unfold SimField.domainOfRepresentation at hInteger
  split_ifs at hInteger <;> cases hInteger

omit [CDouble D] in
theorem hasIntegerElements_domain {field : SimField D}
    (hExact : simOperatorDomainIsExactInteger field.domain = true) :
    HasIntegerElements field.domain := by
  apply hasIntegerElements_of_validate hExact
  apply validate_domain
  simp only [simOperatorDomainIsExactInteger, SimScalarDomain.isInteger, Bool.and_eq_true,
    beq_iff_eq] at hExact
  exact hExact.1

/-! ### Unit ranges -/

section UnitRange

variable {flagsField : ℕ} {candidate flags : SimField D} {data flagsData : FieldData D}
  {rangeStart rangeEnd : ℕ} (hDomain : HasIntegerElements candidate.domain)
  (hFlagsDomain : HasIntegerElements flags.domain)
  (hFits : SimField.elementCount candidate.shape * (candidate.domain.bitWidth / 8) < 2 ^ 64)
  (hDetect : segmentedSieveMarkBatchDetectUnitRange data candidate.domain
    (SimField.elementCount candidate.shape) = some (rangeStart, rangeEnd))

include hDomain hFits hDetect

/-- The index of a stride does not wrap around. -/
theorem stride_fits {prime : ℕ} (hDouble : 2 * prime ≤ rangeEnd) :
    SimField.elementCount candidate.shape + prime ≤ 2 ^ 64 := by
  obtain ⟨hEnd, hCount, hElements⟩ := detectUnitRange_some hDomain hDetect
  by_cases hEmpty : SimField.elementCount candidate.shape = 0
  · omega
  have hLast := hElements (SimField.elementCount candidate.shape - 1) (by omega)
  have hHigh := intValue_lt hDomain (data.word (SimField.elementCount candidate.shape - 1))
  rw [hLast] at hHigh
  generalize SimField.elementCount candidate.shape = count at *
  rcases hDomain with hIs | hIs | hIs | hIs | hIs | hIs
  all_goals
    rw [hIs] at hHigh hFits
    simp [simScalarDomainI8, simScalarDomainI32, simScalarDomainI64, simScalarDomainU8,
      simScalarDomainU32, simScalarDomainU64] at hHigh hFits
    omega

include hFlagsDomain

theorem clearMultiples_cleared (prime : Word) (hFlags : before[flagsField]? = some flags)
    (hFlagsData : flags.buffer = some flagsData) :
    ∃ after, clearMultiples flagsField flags.domain rangeStart rangeEnd
        (SimField.elementCount candidate.shape) prime before = some (.ok (), after) ∧
      Cleared flagsField (Struck candidate data [prime]) before after := by
  obtain ⟨hEnd, hCount, hElements⟩ := detectUnitRange_some hDomain hDetect
  have hHits : ∀ i < SimField.elementCount candidate.shape,
      (∃ startIndex, segmentedSieveMarkBatchFirstHit rangeStart rangeEnd prime.toNat =
        some startIndex ∧ startIndex ≤ i ∧ prime.toNat ∣ i - startIndex) ↔
      Struck candidate data [prime] i := by
    intro i hI
    rw [firstHit_dvd_iff hEnd (by omega)]
    simp only [Struck, hI, true_and, List.mem_singleton, exists_eq_left, Strikes, elementValue,
      hElements i hI]
    norm_cast
  unfold clearMultiples
  cases hFound : segmentedSieveMarkBatchFirstHit rangeStart rangeEnd prime.toNat with
  | none =>
      refine ⟨before, rfl, (Cleared.refl before).congr fun i => ?_⟩
      rw [iff_false]
      intro hStruck
      obtain ⟨startIndex, hSome, -⟩ := (hHits i hStruck.1).mpr hStruck
      rw [hFound] at hSome
      cases hSome
  | some startIndex =>
      obtain ⟨hPrime, hDouble⟩ := firstHit_double_le hEnd hFound
      have hNoWrap := stride_fits hDomain hFits hDetect hDouble
      have hFuel : SimField.elementCount candidate.shape ≤
          startIndex + SimField.elementCount candidate.shape := Nat.le_add_left _ _
      obtain ⟨after, hRun, hCleared⟩ := clearStride_cleared hNoWrap hFuel
        (by omega) hFlags hFlagsData
      have hKnown : flags.domain = simScalarDomainI8 ∨ flags.domain = simScalarDomainU8 ∨
          flags.domain = simScalarDomainI32 ∨ flags.domain = simScalarDomainU32 ∨
          flags.domain = simScalarDomainI64 ∨ flags.domain = simScalarDomainU64 := by
        unfold HasIntegerElements at hFlagsDomain
        tauto
      dsimp only
      rw [if_pos hKnown, hRun]
      refine ⟨after, rfl, hCleared.congr fun i => ?_⟩
      constructor
      · intro hStruck
        obtain ⟨startIndex', hSome, hLe, hDvd⟩ := (hHits i hStruck.1).mpr hStruck
        obtain rfl := Option.some.inj (hFound.symm.trans hSome)
        exact ⟨hStruck.1, hLe, hDvd⟩
      · rintro ⟨hI, hLe, hDvd⟩
        exact (hHits i hI).mp ⟨startIndex, hFound, hLe, hDvd⟩

/-- The strided passes strike out the multiples of all primes. -/
theorem forEach_clearMultiples_cleared (primes : List Word)
    (hFlags : before[flagsField]? = some flags) (hFlagsData : flags.buffer = some flagsData) :
    ∃ after, forEach (clearMultiples flagsField flags.domain rangeStart rangeEnd
        (SimField.elementCount candidate.shape)) primes before = some (.ok (), after) ∧
      Cleared flagsField (Struck candidate data primes) before after := by
  induction primes generalizing before flags flagsData with
  | nil =>
      refine ⟨before, rfl, (Cleared.refl before).congr fun i => ?_⟩
      exact iff_false_intro (struck_nil candidate data i)
  | cons prime rest ih =>
      obtain ⟨middle, hFirst, hCleared⟩ := clearMultiples_cleared hDomain hFlagsDomain hFits hDetect
        prime hFlags hFlagsData
      obtain ⟨hInit, hData⟩ := data_of_buffer hFlagsData
      obtain ⟨flagsData', hMiddle, -⟩ := hCleared.target flags flagsData hFlags hData
      have hSameDomain : HasIntegerElements
        ({ flags with data := some flagsData' } : SimField D).domain :=
        hFlagsDomain
      obtain ⟨after, hRest, hCleared'⟩ := ih hSameDomain hMiddle (buffer_setData hInit flagsData')
      refine ⟨after, ?_, (hCleared.trans hCleared').congr fun i => ?_⟩
      · rw [forEach_cons_ok hFirst]
        exact hRest
      · exact struck_append candidate data [prime] rest i

end UnitRange

/-! ### Single passes -/

/-- Candidates and flags which both operators accept. -/
structure Markable (fields : List (SimField D)) (candidateField flagsField : ℕ)
    (candidate flags : SimField D) (data flagsData : FieldData D) : Prop where
  candidateAt : fields[candidateField]? = some candidate
  candidateBuffer : candidate.buffer = some data
  candidateReal : candidate.storageIsComplex = false
  candidateExact : simOperatorDomainIsExactInteger candidate.domain = true
  flagsAt : fields[flagsField]? = some flags
  flagsBuffer : flags.buffer = some flagsData
  flagsReal : flags.storageIsComplex = false
  flagsExact : simOperatorDomainIsExactInteger flags.domain = true
  sameCount : SimField.elementCount candidate.shape = SimField.elementCount flags.shape

namespace Markable

variable {candidateField flagsField : ℕ} {candidate flags : SimField D}
  {data flagsData : FieldData D}

/-- Both fields stay acceptable, and the candidates which were not cleared keep their values. -/
theorem cleared {part : ℕ → Prop}
    (hMarkable : Markable before candidateField flagsField candidate flags data flagsData)
    (hCleared : Cleared flagsField part before after) :
    ∃ data' flagsData', Markable after candidateField flagsField
        { candidate with data := some data' }
          { flags with data := some flagsData' } data' flagsData' ∧
      ∀ i, ¬part i →
        elementValue candidate.domain data' i = elementValue candidate.domain data i := by
  have hDomain := hasIntegerElements_domain hMarkable.candidateExact
  obtain ⟨data', hCandidate, hElements⟩ :=
    hCleared.field hMarkable.candidateAt hMarkable.candidateBuffer
  obtain ⟨flagsData', hFlags, -⟩ := hCleared.field hMarkable.flagsAt hMarkable.flagsBuffer
  have hStays : Markable after candidateField flagsField { candidate with data := some data' }
      { flags with data := some flagsData' } data' flagsData' :=
    { candidateAt := hCandidate
      candidateBuffer := buffer_setData (data_of_buffer hMarkable.candidateBuffer).1 data'
      candidateReal := hMarkable.candidateReal
      candidateExact := hMarkable.candidateExact
      flagsAt := hFlags
      flagsBuffer := buffer_setData (data_of_buffer hMarkable.flagsBuffer).1 flagsData'
      flagsReal := hMarkable.flagsReal
      flagsExact := hMarkable.flagsExact
      sameCount := hMarkable.sameCount }
  refine ⟨data', flagsData', hStays, fun i hNot => ?_⟩
  have hWord := (hElements i).2 fun hIndex => hNot hIndex.2
  rw [elementValue, elementValue, ← hDomain.intValue_truncate, hWord, hDomain.intValue_truncate]

/-- A single pass strikes out the multiples of its prime. -/
theorem mark (hMarkable : Markable before candidateField flagsField candidate flags data flagsData)
    {prime raw : Word} (hRaw : segmentedSieveMarkPrimeToDomainRaw prime
    candidate.domain = some raw) :
    ∃ after, segmentedSieveMarkApply ⟨candidateField, flagsField, prime⟩ before =
        some (.ok (), after) ∧
      Cleared flagsField (Struck candidate data [prime]) before after := by
  have hDomain := hasIntegerElements_domain hMarkable.candidateExact
  have hValid : segmentedSieveMarkValidateFields (some candidate) (some flags) prime = .ok () := by
    simp [segmentedSieveMarkValidateFields, hMarkable.sameCount, hMarkable.candidateReal,
      hMarkable.flagsReal, hMarkable.candidateExact, segmentedSieveMarkFlagDomainSupported,
      hMarkable.flagsExact, hRaw]
  obtain ⟨after, hRun, hCleared⟩ := markElements_cleared hMarkable.candidateAt
    hMarkable.candidateBuffer hMarkable.flagsAt hMarkable.flagsBuffer hDomain
    (hasIntegerElements_domain hMarkable.flagsExact)
    fun candidateRaw => segmentedSieveMarkCandidateHits candidateRaw raw candidate.domain
  refine ⟨after, ?_, hCleared.congr fun i => ?_⟩
  · unfold segmentedSieveMarkApply
    rw [hMarkable.candidateAt, hMarkable.flagsAt]
    dsimp only
    rw [hValid, hRaw, hMarkable.candidateBuffer]
    exact hRun
  · rw [candidateHits_iff hDomain, hDomain.intValue_truncate, strikes_primeToDomainRaw hDomain hRaw]
    simp [Struck, elementValue]

end Markable

/-- The values of a field of primes, as `uint64_t`. -/
def listedPrimes (primes : SimField D) : List Word :=
  match primes.buffer with
  | none => []
  | some data =>
      (List.range (SimField.elementCount primes.shape)).map fun i =>
        BitVec.ofInt 64 (elementValue primes.domain data i)

theorem readPositivePrime_some {data : FieldData D} {domain : SimScalarDomain}
    (hDomain : HasIntegerElements domain) {index : ℕ} {prime : Word}
    (hRead : segmentedSieveMarkBatchReadPositivePrime data domain index = some prime) :
    prime = BitVec.ofInt 64 (elementValue domain data index) := by
  unfold segmentedSieveMarkBatchReadPositivePrime at hRead
  rw [hDomain.exact, if_neg (by decide), hDomain.read_eq] at hRead
  dsimp only at hRead
  rw [elementValue, ← hDomain.intValue_truncate]
  cases hSigned : domain.isSigned with
  | true =>
      rw [hSigned, if_pos rfl] at hRead
      split_ifs at hRead
      cases hRead
      rw [← hDomain.toInt_asI64 hSigned, BitVec.ofInt_toInt]
  | false =>
      rw [hSigned, if_neg Bool.false_ne_true] at hRead
      split_ifs at hRead
      cases hRead
      rw [← hDomain.toNat_truncate hSigned, BitVec.ofInt_natCast, BitVec.ofNat_toNat,
        BitVec.setWidth_eq]

theorem readPrimes_some {data : FieldData D} {primesDomain candidateDomain : SimScalarDomain}
    (hDomain : HasIntegerElements primesDomain) {indices : List ℕ} {listed : List (Word × Word)}
    (hRead : readPrimes data primesDomain candidateDomain indices = some listed) :
    (∀ prime ∈ listed, segmentedSieveMarkPrimeToDomainRaw prime.1 candidateDomain = some prime.2) ∧
      listed.map Prod.fst =
        indices.map fun i => BitVec.ofInt 64 (elementValue primesDomain data i) := by
  induction indices generalizing listed with
  | nil =>
      cases hRead
      exact ⟨fun _ hMem => (nomatch hMem), rfl⟩
  | cons index rest ih =>
      rw [readPrimes] at hRead
      split at hRead
      case h_1 => cases hRead
      case h_2 prime hPrime =>
        split at hRead
        case h_1 => cases hRead
        case h_2 raw hRaw =>
          obtain ⟨later, hLater, rfl⟩ := Option.map_eq_some_iff.mp hRead
          obtain ⟨hAccepted, hListed⟩ := ih hLater
          constructor
          · intro entry hMem
            rcases List.mem_cons.mp hMem with rfl | hOld
            · exact hRaw
            · exact hAccepted entry hOld
          · rw [List.map_cons, List.map_cons, hListed, readPositivePrime_some hDomain hPrime]

/-- A filled cache holds the listed primes, all of them accepted. -/
theorem ensurePrimeCache_ok {heap : Heap} {candidate primes : SimField D}
    {state state' : SieveBatchState} {listed : List (Word × Word)}
    (hExact : simOperatorDomainIsExactInteger primes.domain = true)
    (hCache : segmentedSieveMarkBatchEnsurePrimeCache heap candidate primes state =
      (.ok listed, state')) :
    (∀ prime ∈ listed,
      segmentedSieveMarkPrimeToDomainRaw prime.1 candidate.domain = some prime.2) ∧
        listed.map Prod.fst = listedPrimes primes := by
  unfold segmentedSieveMarkBatchEnsurePrimeCache at hCache
  unfold listedPrimes
  dsimp only at hCache
  by_cases hNone : SimField.elementCount primes.shape = 0
  · rw [if_pos hNone] at hCache
    cases hCache
    refine ⟨fun _ hMem => (nomatch hMem), ?_⟩
    rw [hNone]
    cases primes.buffer <;> rfl
  · rw [if_neg hNone] at hCache
    cases hBuffer : primes.buffer with
    | none =>
        rw [hBuffer] at hCache
        cases hCache
    | some data =>
        rw [hBuffer] at hCache
        dsimp only at hCache
        split at hCache
        case isTrue => cases hCache
        case isFalse =>
          split at hCache
          case h_1 => cases hCache
          case h_2 found hRead =>
            cases hCache
            exact readPrimes_some (hasIntegerElements_domain hExact) hRead

/-- The loop over the elements strikes out the multiples of all primes. -/
theorem Markable.elements {config : SimSegmentedSieveMarkBatchOperatorConfig}
    {candidate flags : SimField D} {data flagsData : FieldData D}
    (hMarkable : Markable before config.candidateField config.flagsField candidate flags data
      flagsData) {listed : List (Word × Word)}
    (hAccepted : ∀ prime ∈ listed,
      segmentedSieveMarkPrimeToDomainRaw prime.1 candidate.domain = some prime.2) :
    ∃ after, segmentedSieveMarkBatchElements config candidate flags listed before =
        some (.ok (), after) ∧
      Cleared config.flagsField (Struck candidate data (listed.map Prod.fst)) before after := by
  have hDomain := hasIntegerElements_domain hMarkable.candidateExact
  obtain ⟨after, hRun, hCleared⟩ := markElements_cleared hMarkable.candidateAt
    hMarkable.candidateBuffer hMarkable.flagsAt hMarkable.flagsBuffer hDomain
    (hasIntegerElements_domain hMarkable.flagsExact) fun raw =>
      listed.any fun prime => segmentedSieveMarkBatchCandidateHits raw prime.2 candidate.domain
  refine ⟨after, hRun, hCleared.congr fun i => and_congr_right fun _ => ?_⟩
  rw [List.any_eq_true]
  constructor
  · rintro ⟨prime, hPrime, hStrikes⟩
    obtain ⟨entry, hMem, rfl⟩ := List.mem_map.mp hPrime
    refine ⟨entry, hMem, ?_⟩
    rw [segmentedSieveMarkBatchCandidateHits, candidateHits_iff hDomain, hDomain.intValue_truncate,
      strikes_primeToDomainRaw hDomain (hAccepted entry hMem)]
    exact hStrikes
  · rintro ⟨entry, hMem, hHits⟩
    rw [segmentedSieveMarkBatchCandidateHits, candidateHits_iff hDomain, hDomain.intValue_truncate,
      strikes_primeToDomainRaw hDomain (hAccepted entry hMem)] at hHits
    exact ⟨entry.1, List.mem_map_of_mem hMem, hHits⟩

theorem Markable.unitRange {config : SimSegmentedSieveMarkBatchOperatorConfig}
    {candidate flags : SimField D} {data flagsData : FieldData D}
    (hMarkable : Markable before config.candidateField config.flagsField candidate flags data
      flagsData)
    (hFits : SimField.elementCount candidate.shape * (candidate.domain.bitWidth / 8) < 2 ^ 64)
    {rangeStart rangeEnd : ℕ}
    (hDetect : segmentedSieveMarkBatchDetectUnitRange data candidate.domain
      (SimField.elementCount candidate.shape) = some (rangeStart, rangeEnd)) (primes : List Word) :
    ∃ after, segmentedSieveMarkBatchApplyUnitRangeIntegerFlags config.flagsField flags.domain
        rangeStart rangeEnd (SimField.elementCount candidate.shape) primes before =
        some (.ok (), after) ∧
      Cleared config.flagsField (Struck candidate data primes) before after := by
  obtain ⟨after, hRun, hCleared⟩ := forEach_clearMultiples_cleared
    (hasIntegerElements_domain hMarkable.candidateExact)
    (hasIntegerElements_domain hMarkable.flagsExact) hFits hDetect primes hMarkable.flagsAt
    hMarkable.flagsBuffer
  refine ⟨after, ?_, hCleared⟩
  unfold segmentedSieveMarkBatchApplyUnitRangeIntegerFlags
  rw [contextData_eq hMarkable.flagsAt hMarkable.flagsBuffer, hMarkable.flagsExact]
  exact hRun

omit [CDouble D] in
theorem batchValidateFields_ok {candidate primes flags : SimField D}
    (hValid : segmentedSieveMarkBatchValidateFields (some candidate) (some primes) (some flags) =
      .ok ()) :
    candidate.storageIsComplex = false ∧ flags.storageIsComplex = false ∧
      SimField.elementCount candidate.shape = SimField.elementCount flags.shape ∧
      simOperatorDomainIsExactInteger candidate.domain = true ∧
      simOperatorDomainIsExactInteger primes.domain = true ∧
      simOperatorDomainIsExactInteger flags.domain = true := by
  unfold segmentedSieveMarkBatchValidateFields at hValid
  dsimp only at hValid
  split_ifs at hValid with hComplex hCount hDomains
  simp [segmentedSieveMarkBatchFlagDomainSupported] at hComplex hDomains
  exact ⟨hComplex.1.1, hComplex.2, not_not.mp hCount, hDomains.1.1, hDomains.1.2, hDomains.2⟩

omit [CDouble D] in
theorem contextData_eq_none {k : ℕ} {field : SimField D} (hField : before[k]? = some field)
    (hBuffer : field.buffer = none) : contextData before k = none := by
  rw [contextData, hField]
  exact hBuffer

/-- What a loop over the primes does: it fails and leaves the fields as they were, or strikes
out the multiples of all primes. -/
def BatchMarked (config : SimSegmentedSieveMarkBatchOperatorConfig) (candidate flags : SimField D)
    (data : FieldData D) (primes : List Word) (fields : List (SimField D)) :
    Except SimError Unit → List (SimField D) → Prop
  | .error _, after => after = fields
  | .ok (), after => ∃ flagsData,
      Markable fields config.candidateField config.flagsField candidate flags data flagsData ∧
        Cleared config.flagsField (Struck candidate data primes) fields after

section Batch

variable {config : SimSegmentedSieveMarkBatchOperatorConfig} {candidate primes flags : SimField D}
  {data : FieldData D} {listed : List (Word × Word)}
  (hCandidate : before[config.candidateField]? = some candidate)
  (hFlags : before[config.flagsField]? = some flags)
  (hValid : segmentedSieveMarkBatchValidateFields (some candidate) (some primes)
    (some flags) = .ok ())
  (hBuffer : candidate.buffer = some data)
  (hAccepted : ∀ prime ∈ listed,
    segmentedSieveMarkPrimeToDomainRaw prime.1 candidate.domain = some prime.2)

include hCandidate hFlags hValid hBuffer hAccepted

/-- The element loop fails at once, or strikes out the multiples of all primes. -/
theorem batchElements_outcome :
    (flags.buffer = none ∧ segmentedSieveMarkBatchElements config candidate flags listed before =
      some (.error .invalidArgument, before)) ∨
    ∃ flagsData after, Markable before config.candidateField config.flagsField candidate flags data
        flagsData ∧
      segmentedSieveMarkBatchElements config candidate flags listed before = some (.ok (), after) ∧
      Cleared config.flagsField (Struck candidate data (listed.map Prod.fst)) before after := by
  obtain ⟨hCandidateReal, hFlagsReal, hCount, hExact, -, hFlagsExact⟩ :=
    batchValidateFields_ok hValid
  cases hFlagsBuffer : flags.buffer with
  | none =>
      left
      refine ⟨rfl, ?_⟩
      unfold segmentedSieveMarkBatchElements markElements
      rw [contextData_eq_none hFlags hFlagsBuffer, hFlagsExact]
      rfl
  | some flagsData =>
      right
      have hMarkable : Markable before config.candidateField config.flagsField candidate flags data
          flagsData :=
        ⟨hCandidate, hBuffer, hCandidateReal, hExact, hFlags, hFlagsBuffer, hFlagsReal, hFlagsExact,
          hCount⟩
      obtain ⟨after, hRun, hCleared⟩ := hMarkable.elements hAccepted
      exact ⟨flagsData, after, hMarkable, hRun, hCleared⟩

/-- The element loop fails and leaves the fields, or strikes out the multiples. -/
theorem batchElements_marked :
    ∃ result after, segmentedSieveMarkBatchElements config candidate flags listed before =
        some (result, after) ∧
      BatchMarked config candidate flags data (listed.map Prod.fst) before result after := by
  rcases batchElements_outcome hCandidate hFlags hValid hBuffer hAccepted with
    ⟨-, hRun⟩ | ⟨flagsData, after, hMarkable, hRun, hCleared⟩
  · exact ⟨_, _, hRun, rfl⟩
  · exact ⟨_, _, hRun, flagsData, hMarkable, hCleared⟩

/-- So does the fast path. -/
theorem unitRange_marked {rangeStart rangeEnd : ℕ}
    (hFits : SimField.elementCount candidate.shape * (candidate.domain.bitWidth / 8) < 2 ^ 64)
    (hDetect : segmentedSieveMarkBatchDetectUnitRange data candidate.domain
      (SimField.elementCount candidate.shape) = some (rangeStart, rangeEnd)) :
    ∃ result after,
      segmentedSieveMarkBatchApplyUnitRangeIntegerFlags config.flagsField flags.domain rangeStart
          rangeEnd (SimField.elementCount candidate.shape) (listed.map Prod.fst) before =
        some (result, after) ∧
      BatchMarked config candidate flags data (listed.map Prod.fst) before result after := by
  rcases batchElements_outcome hCandidate hFlags hValid hBuffer hAccepted with
    ⟨hNone, -⟩ | ⟨flagsData, -, hMarkable, -⟩
  · refine ⟨.error .invalidArgument, before, ?_, rfl⟩
    unfold segmentedSieveMarkBatchApplyUnitRangeIntegerFlags
    rw [contextData_eq_none hFlags hNone]
    rfl
  · obtain ⟨after, hRun, hCleared⟩ := hMarkable.unitRange hFits hDetect (listed.map Prod.fst)
    exact ⟨_, _, hRun, flagsData, hMarkable, hCleared⟩

end Batch

section Agreement

variable {config : SimSegmentedSieveMarkBatchOperatorConfig} {candidate primes flags : SimField D}
  {listed : List (Word × Word)} (hCandidate : before[config.candidateField]? = some candidate)
  (hPrimes : before[config.primesField]? = some primes)
  (hAccepted : ∀ prime ∈ listed,
    segmentedSieveMarkPrimeToDomainRaw prime.1 candidate.domain = some prime.2)
  (hListed : listed.map Prod.fst = listedPrimes primes)

include hAccepted hListed

include hCandidate hPrimes

end Agreement

/-- What a batch does: it fails and leaves the fields as they were, or has nothing to do, or
strikes out the multiples of all listed primes. -/
def BatchOutcome (config : SimSegmentedSieveMarkBatchOperatorConfig) (fields : List (SimField D)) :
    Except SimError Unit → List (SimField D) → Prop
  | .error _, after => after = fields
  | .ok (), after => ∃ candidate primes flags heap state listed state',
      fields[config.candidateField]? = some candidate ∧
      fields[config.primesField]? = some primes ∧ fields[config.flagsField]? = some flags ∧
      segmentedSieveMarkBatchValidateFields (some candidate) (some primes) (some flags) = .ok () ∧
      segmentedSieveMarkBatchEnsurePrimeCache heap candidate primes state = (.ok listed, state') ∧
      ((after = fields ∧ (listed = [] ∨ SimField.elementCount candidate.shape = 0)) ∨
        ∃ data, BatchMarked config candidate flags data (listed.map Prod.fst) fields (.ok ()) after)

theorem batchApply_outcome (heap : Heap) (config : SimSegmentedSieveMarkBatchOperatorConfig)
    (state : SieveBatchState)
    (hFits : ∀ candidate, before[config.candidateField]? = some candidate →
      SimField.elementCount candidate.shape * (candidate.domain.bitWidth / 8) < 2 ^ 64) :
    ∃ result after, (segmentedSieveMarkBatchApply heap config state before).1 =
      some (result, after) ∧ BatchOutcome config before result after := by
  unfold segmentedSieveMarkBatchApply
  cases hValid : segmentedSieveMarkBatchValidateFields before[config.candidateField]?
    before[config.primesField]? before[config.flagsField]? with
  | error failure => exact ⟨_, _, rfl, rfl⟩
  | ok u =>
      dsimp only
      cases hCandidate : before[config.candidateField]? with
      | none => exact ⟨_, _, rfl, rfl⟩
      | some candidate =>
          cases hPrimes : before[config.primesField]? with
          | none => exact ⟨_, _, rfl, rfl⟩
          | some primes =>
              cases hFlags : before[config.flagsField]? with
              | none => exact ⟨_, _, rfl, rfl⟩
              | some flags =>
                  rw [hCandidate, hPrimes, hFlags] at hValid
                  have hFlagsExact := (batchValidateFields_ok hValid).2.2.2.2.2
                  have hPrimesExact := (batchValidateFields_ok hValid).2.2.2.2.1
                  dsimp only
                  cases hCache : segmentedSieveMarkBatchEnsurePrimeCache heap candidate
                    primes state with
                  | mk cached state' =>
                    cases cached with
                    | error failure => exact ⟨_, _, rfl, rfl⟩
                    | ok listed =>
                        obtain ⟨hAccepted, -⟩ := ensurePrimeCache_ok hPrimesExact hCache
                        have hDone : ∀ after, ((after = before ∧
                            (listed = [] ∨ SimField.elementCount candidate.shape = 0)) ∨
                            ∃ data, BatchMarked config candidate flags data (listed.map Prod.fst)
                              before (.ok ()) after) → BatchOutcome config before (.ok ()) after :=
                          fun after hAfter =>
                            ⟨candidate, primes, flags, heap, state, listed, state',
                            hCandidate, hPrimes, hFlags, hValid, hCache, hAfter⟩
                        cases listed with
                        | nil => exact ⟨_, _, rfl, hDone _ (.inl ⟨rfl, .inl rfl⟩)⟩
                        | cons first rest =>
                            cases hBuffer : candidate.buffer with
                            | none => exact ⟨_, _, rfl, rfl⟩
                            | some data =>
                                dsimp only
                                split
                                case isTrue hEmpty =>
                                  exact ⟨_, _, rfl, hDone _ (.inl ⟨rfl, .inr hEmpty⟩)⟩
                                case isFalse =>
                                  have hMarked : ∀ result after, BatchMarked config candidate flags
                                      data ((first :: rest).map Prod.fst) before result after →
                                        BatchOutcome config before result after := by
                                    rintro (failure | ⟨⟩) after hAfter
                                    · exact hAfter
                                    · exact hDone after (.inr ⟨data, hAfter⟩)
                                  obtain ⟨result, slow, hSlow, hSlowMarked⟩ := batchElements_marked
                                    hCandidate hFlags hValid hBuffer hAccepted
                                  rw [hFlagsExact]
                                  cases hDetect : segmentedSieveMarkBatchDetectUnitRange data
                                    candidate.domain (SimField.elementCount candidate.shape) with
                                  | none => exact ⟨_, _, hSlow, hMarked _ _ hSlowMarked⟩
                                  | some range =>
                                      obtain ⟨result, fast, hFast, hFastMarked⟩ := unitRange_marked
                                        hCandidate hFlags hValid hBuffer hAccepted
                                        (hFits candidate hCandidate) hDetect
                                      exact ⟨_, _, hFast, hMarked _ _ hFastMarked⟩

def sieveField (count : ℕ) (words : ℕ → Word) : SimField ℤ where
  initialized := true
  shape := [count]
  strides := [1]
  elementSize := 8
  data := some (.words words)
  complexMode := false
  repr := ⟨.physical, .realScalar⟩
  scalarDomain := simScalarDomainU64

/-- Four candidates from 4 on, the primes 2 and 3, and flags which are all set. -/
def sieveFields : List (SimField ℤ) :=
  [sieveField 4 fun i => BitVec.ofNat 64 (4 + i), sieveField 2 fun i => BitVec.ofNat 64 (2 + i),
    sieveField 4 fun _ => 1]

end Oakfield
