import Mathlib.Data.Nat.Prime.Basic
import Oakfield.Operators.SieveAgreement

/-! A batched sieve pass by divisibility, and by primality when all small primes are listed. -/
namespace Oakfield

open KernelIR

variable {D : Type} [CDouble D] {before after : List (SimField D)}

/-! ### The listed values -/

/-- A value which is read as a prime is the value of its element, and at least two. -/
theorem readPositivePrime_value {data : FieldData D} {domain : SimScalarDomain}
    (hDomain : HasIntegerElements domain) {index : ℕ} {prime : Word}
    (hRead : segmentedSieveMarkBatchReadPositivePrime data domain index = some prime) :
    (prime.toNat : ℤ) = elementValue domain data index ∧ 2 ≤ elementValue domain data index := by
  unfold segmentedSieveMarkBatchReadPositivePrime at hRead
  rw [hDomain.exact, if_neg (by decide), hDomain.read_eq] at hRead
  dsimp only at hRead
  rw [elementValue, ← hDomain.intValue_truncate]
  cases hSigned : domain.isSigned with
  | true =>
      rw [hSigned, if_pos rfl] at hRead
      split_ifs at hRead with hSmall
      cases hRead
      rw [← hDomain.toInt_asI64 hSigned]
      have hWord := toInt_eq (simOperatorIntegerAsI64
        (simOperatorIntegerTruncate (data.word index) domain) domain)
      have hLt := (simOperatorIntegerAsI64
        (simOperatorIntegerTruncate (data.word index) domain) domain).isLt
      split_ifs at hWord <;> omega
  | false =>
      rw [hSigned, if_neg Bool.false_ne_true] at hRead
      split_ifs at hRead with hSmall
      cases hRead
      rw [← hDomain.toNat_truncate hSigned]
      omega

theorem readPrimes_values {data : FieldData D} {primesDomain candidateDomain : SimScalarDomain}
    (hDomain : HasIntegerElements primesDomain) {indices : List ℕ} {listed : List (Word × Word)}
    (hRead : readPrimes data primesDomain candidateDomain indices = some listed) {index : ℕ}
    (hIndex : index ∈ indices) :
    ((BitVec.ofInt 64 (elementValue primesDomain data index)).toNat : ℤ) =
        elementValue primesDomain data index ∧ 2 ≤ elementValue primesDomain data index := by
  induction indices generalizing listed with
  | nil => exact (nomatch hIndex)
  | cons first rest ih =>
      rw [readPrimes] at hRead
      split at hRead
      case h_1 => cases hRead
      case h_2 prime hPrime =>
        split at hRead
        case h_1 => cases hRead
        case h_2 raw hRaw =>
          obtain ⟨later, hLater, rfl⟩ := Option.map_eq_some_iff.mp hRead
          rcases List.mem_cons.mp hIndex with rfl | hRest
          · rw [← readPositivePrime_some hDomain hPrime]
            exact readPositivePrime_value hDomain hPrime
          · exact ih hLater hRest

section Cache

variable {heap : Heap} {candidate primes : SimField D} {state state' : SieveBatchState}
variable {listed : List (Word × Word)} {data primesData : FieldData D}

/-- The elements of a filled cache are values which were accepted as primes. -/
theorem ensurePrimeCache_values (hExact : simOperatorDomainIsExactInteger primes.domain = true)
    (hBuffer : primes.buffer = some primesData)
    (hCache : segmentedSieveMarkBatchEnsurePrimeCache heap candidate primes state =
      (.ok listed, state')) {j : ℕ} (hJ : j < SimField.elementCount primes.shape) :
    ((BitVec.ofInt 64 (elementValue primes.domain primesData j)).toNat : ℤ) =
        elementValue primes.domain primesData j ∧
      2 ≤ elementValue primes.domain primesData j := by
  unfold segmentedSieveMarkBatchEnsurePrimeCache at hCache
  dsimp only at hCache
  rw [if_neg (by omega), hBuffer] at hCache
  dsimp only at hCache
  split at hCache
  case isTrue => cases hCache
  case isFalse =>
    split at hCache
    case h_1 => cases hCache
    case h_2 found hRead =>
      exact readPrimes_values (hasIntegerElements_domain hExact) hRead (List.mem_range.mpr hJ)

/-- What the cached primes strike out, by the values of the elements of their field. -/
theorem struck_listedPrimes_iff (hExact : simOperatorDomainIsExactInteger primes.domain = true)
    (hBuffer : primes.buffer = some primesData)
    (hCache : segmentedSieveMarkBatchEnsurePrimeCache heap candidate primes state =
      (.ok listed, state')) (i : ℕ) :
    Struck candidate data (listedPrimes primes) i ↔
      i < SimField.elementCount candidate.shape ∧
        ∃ j < SimField.elementCount primes.shape,
          Strikes (elementValue primes.domain primesData j)
            (elementValue candidate.domain data i) := by
  rw [Struck, listedPrimes, hBuffer]
  simp only [List.mem_map, List.mem_range]
  refine and_congr_right fun _ => ⟨?_, ?_⟩
  · rintro ⟨prime, ⟨j, hJ, rfl⟩, hStrikes⟩
    rw [(ensurePrimeCache_values hExact hBuffer hCache hJ).1] at hStrikes
    exact ⟨j, hJ, hStrikes⟩
  · rintro ⟨j, hJ, hStrikes⟩
    refine ⟨_, ⟨j, hJ, rfl⟩, ?_⟩
    rwa [(ensurePrimeCache_values hExact hBuffer hCache hJ).1]

end Cache

/-! ### Divisibility and primality -/

/-- A value above one is prime when no listed prime strikes it out, and the list has all primes
up to its square root. -/
theorem prime_iff_not_strikes {value : ℤ} (hValue : 2 ≤ value) {listed : ℤ → Prop}
    (hAll : ∀ p : ℕ, p.Prime → (p : ℤ) * p ≤ value → listed p) :
    (∀ p, listed p → ¬ Strikes p value) ↔ value.toNat.Prime := by
  have hNat : (value.toNat : ℤ) = value := Int.toNat_of_nonneg (by omega)
  constructor
  · intro hNone
    by_contra hComposite
    have hFactor := Nat.minFac_prime (show value.toNat ≠ 1 by omega)
    have hDvd := Nat.minFac_dvd value.toNat
    have hSquare := Nat.minFac_sq_le_self (by omega) hComposite
    have hSmall : (value.toNat.minFac : ℤ) * value.toNat.minFac ≤ value := by
      have hCast : ((value.toNat.minFac ^ 2 : ℕ) : ℤ) ≤ value.toNat := Int.ofNat_le.mpr hSquare
      rwa [hNat, Nat.pow_two, Int.natCast_mul] at hCast
    refine hNone value.toNat.minFac (hAll _ hFactor hSmall) ⟨?_, ?_, ?_⟩
    · exact_mod_cast hFactor.one_lt
    · have hLe := Nat.minFac_le (n := value.toNat) (by omega)
      have hNe : value.toNat.minFac ≠ value.toNat := by
        intro hSame
        exact hComposite (hSame ▸ hFactor)
      omega
    · rw [← hNat]
      exact Int.natCast_dvd_natCast.mpr hDvd
  · rintro hPrime p - ⟨hOne, hLess, hDvd⟩
    have hDvdNat : p.toNat ∣ value.toNat := by
      rw [← Int.natCast_dvd_natCast, hNat, Int.toNat_of_nonneg (by omega)]
      exact hDvd
    rcases (Nat.dvd_prime hPrime).mp hDvdNat with hUnit | hSelf <;> omega

/-- Of values above one, a divisor which is not the value itself is below it. -/
theorem strikes_iff {prime value : ℤ} (hPrime : 2 ≤ prime) (hValue : 2 ≤ value) :
    Strikes prime value ↔ prime ∣ value ∧ prime ≠ value := by
  constructor
  · rintro ⟨-, hLess, hDvd⟩
    exact ⟨hDvd, by omega⟩
  · rintro ⟨hDvd, hNe⟩
    have hLe := Int.le_of_dvd (by omega) hDvd
    exact ⟨by omega, by omega, hDvd⟩

theorem elementValue_of_truncate_zero {domain : SimScalarDomain}
    (hDomain : HasIntegerElements domain)
    {data : FieldData D} {i : ℕ} (hZero : simOperatorIntegerTruncate (data.word i) domain = 0) :
    elementValue domain data i = 0 := by
  rw [elementValue, ← hDomain.intValue_truncate, hZero]
  rcases id hDomain with rfl | rfl | rfl | rfl | rfl | rfl <;> rfl

/-- A batch which succeeds clears the flags of the candidates struck out by a listed value. -/
theorem segmentedSieveMarkBatchApply_cleared (heap : Heap)
    (config : SimSegmentedSieveMarkBatchOperatorConfig) (state : SieveBatchState)
    {candidate primes : SimField D} {data primesData : FieldData D}
    (hFits : SimField.elementCount candidate.shape * (candidate.domain.bitWidth / 8) < 2 ^ 64)
    (hCandidate : before[config.candidateField]? = some candidate)
    (hPrimes : before[config.primesField]? = some primes)
    (hData : candidate.buffer = some data) (hPrimesData : primes.buffer = some primesData)
    (hRun : (segmentedSieveMarkBatchApply heap config state before).1 = some (.ok (), after)) :
    Cleared config.flagsField (fun i => i < SimField.elementCount candidate.shape ∧
      ∃ j < SimField.elementCount primes.shape,
        Strikes (elementValue primes.domain primesData j) (elementValue candidate.domain data i))
      before after ∧
    (∀ j < SimField.elementCount primes.shape, 2 ≤ elementValue primes.domain primesData j) ∧
    ∀ flags, before[config.flagsField]? = some flags →
      simOperatorDomainIsExactInteger flags.domain = true := by
  have hFits' : ∀ field, before[config.candidateField]? = some field →
      SimField.elementCount field.shape * (field.domain.bitWidth / 8) < 2 ^ 64 := by
    intro field hField
    obtain rfl := Option.some.inj (hCandidate.symm.trans hField)
    exact hFits
  obtain ⟨result, after', hSame, hOutcome⟩ := batchApply_outcome heap config state hFits'
  obtain ⟨rfl, rfl⟩ := Prod.mk.inj (Option.some.inj (hRun.symm.trans hSame))
  obtain ⟨candidate', primes', flags, heap, state, listed, state', hCandidate', hPrimes', hFlags,
    hValid, hCache, hDone⟩ := hOutcome
  obtain rfl := Option.some.inj (hCandidate.symm.trans hCandidate')
  obtain rfl := Option.some.inj (hPrimes.symm.trans hPrimes')
  obtain ⟨-, -, -, -, hExact, hFlagsExact⟩ := batchValidateFields_ok hValid
  have hListed := (ensurePrimeCache_ok hExact hCache).2
  refine ⟨?_, fun j hJ => (ensurePrimeCache_values hExact hPrimesData hCache hJ).2,
    fun flags' hFlags' => Option.some.inj (hFlags.symm.trans hFlags') ▸ hFlagsExact⟩
  refine Cleared.congr ?_ fun i => (struck_listedPrimes_iff hExact hPrimesData hCache i).symm
  rw [← hListed]
  rcases hDone with ⟨rfl, hNothing⟩ | ⟨data', flagsData, hMarkable, hCleared⟩
  · refine (Cleared.refl _).congr fun i => iff_false_intro ?_
    rcases hNothing with rfl | hEmpty
    · exact struck_nil candidate data i
    · rintro ⟨hLt, -⟩
      omega
  · obtain rfl := Option.some.inj (hData.symm.trans hMarkable.candidateBuffer)
    exact hCleared

/-- After a batch which succeeds, the flags of the candidates which a listed value divides
and is not, are zero and the others keep their values; when every prime up to the square root
of the largest candidate is listed, the flags which were set are those of the primes. -/
theorem segmentedSieveMarkBatchApply_primes (heap : Heap)
    (config : SimSegmentedSieveMarkBatchOperatorConfig) (state : SieveBatchState)
    {candidate primes flags : SimField D} {data primesData flagsData : FieldData D}
    (hFits : SimField.elementCount candidate.shape * (candidate.domain.bitWidth / 8) < 2 ^ 64)
    (hCandidate : before[config.candidateField]? = some candidate)
    (hPrimes : before[config.primesField]? = some primes)
    (hFlags : before[config.flagsField]? = some flags)
    (hData : candidate.buffer = some data) (hPrimesData : primes.buffer = some primesData)
    (hFlagsData : flags.buffer = some flagsData)
    (hRun : (segmentedSieveMarkBatchApply heap config state before).1 = some (.ok (), after))
    (hValues : ∀ i < SimField.elementCount candidate.shape,
      2 ≤ elementValue candidate.domain data i) :
    ∃ flagsData', after[config.flagsField]? = some { flags with data := some flagsData' } ∧
      (∀ i < SimField.elementCount candidate.shape,
        ((∃ j < SimField.elementCount primes.shape,
            elementValue primes.domain primesData j ∣ elementValue candidate.domain data i ∧
            elementValue primes.domain primesData j ≠ elementValue candidate.domain data i) →
          elementValue flags.domain flagsData' i = 0) ∧
        ((¬ ∃ j < SimField.elementCount primes.shape,
            elementValue primes.domain primesData j ∣ elementValue candidate.domain data i ∧
            elementValue primes.domain primesData j ≠ elementValue candidate.domain data i) →
          elementValue flags.domain flagsData' i = elementValue flags.domain flagsData i)) ∧
      ((∀ p : ℕ, p.Prime → (∃ i < SimField.elementCount candidate.shape,
          (p : ℤ) * p ≤ elementValue candidate.domain data i) →
          ∃ j < SimField.elementCount primes.shape,
            elementValue primes.domain primesData j = p) →
        (∀ i < SimField.elementCount candidate.shape, elementValue flags.domain flagsData i ≠ 0) →
        ∀ i < SimField.elementCount candidate.shape,
          (elementValue flags.domain flagsData' i ≠ 0 ↔
            (elementValue candidate.domain data i).toNat.Prime)) := by
  obtain ⟨hCleared, hAccepted, hExact⟩ := segmentedSieveMarkBatchApply_cleared heap config state
    hFits hCandidate hPrimes hData hPrimesData hRun
  have hDomain := hasIntegerElements_domain (hExact flags hFlags)
  obtain ⟨flagsData', hAfter, hElements⟩ := hCleared.field hFlags hFlagsData
  have hZero : ∀ i < SimField.elementCount candidate.shape,
      (∃ j < SimField.elementCount primes.shape,
        Strikes (elementValue primes.domain primesData j) (elementValue candidate.domain data i)) →
      elementValue flags.domain flagsData' i = 0 := fun i hI hStruck =>
    elementValue_of_truncate_zero hDomain ((hElements i).1 ⟨rfl, hI, hStruck⟩)
  have hKept : ∀ i, (¬ ∃ j < SimField.elementCount primes.shape,
        Strikes (elementValue primes.domain primesData j) (elementValue candidate.domain data i)) →
      elementValue flags.domain flagsData' i = elementValue flags.domain flagsData i := by
    intro i hNot
    rw [elementValue, elementValue, ← hDomain.intValue_truncate,
      (hElements i).2 fun hStruck => hNot hStruck.2.2, hDomain.intValue_truncate]
  have hStrikes : ∀ i < SimField.elementCount candidate.shape,
      ((∃ j < SimField.elementCount primes.shape,
        Strikes (elementValue primes.domain primesData j) (elementValue candidate.domain data i)) ↔
      ∃ j < SimField.elementCount primes.shape,
        elementValue primes.domain primesData j ∣ elementValue candidate.domain data i ∧
        elementValue primes.domain primesData j ≠ elementValue candidate.domain data i) := by
    intro i hI
    refine exists_congr fun j => and_congr_right fun hJ => ?_
    exact strikes_iff (hAccepted j hJ) (hValues i hI)
  refine ⟨flagsData', hAfter, fun i hI => ?_, fun hAll hSet i hI => ?_⟩
  · rw [← hStrikes i hI]
    exact ⟨hZero i hI, hKept i⟩
  · have hPrimality := @prime_iff_not_strikes _ (hValues i hI)
      (fun p => ∃ j < SimField.elementCount primes.shape,
        elementValue primes.domain primesData j = p)
      fun p hPrime hSquare => hAll p hPrime ⟨i, hI, hSquare⟩
    rw [← hPrimality]
    constructor
    · rintro hFlag p ⟨j, hJ, rfl⟩ hStruck
      exact hFlag (hZero i hI ⟨j, hJ, hStruck⟩)
    · intro hNone
      rw [hKept i]
      · exact hSet i hI
      · rintro ⟨j, hJ, hStruck⟩
        exact hNone _ ⟨j, hJ, rfl⟩ hStruck

theorem segmentedSieveMarkBatchApply_primes_seven :
    ∃ after flagsData', (segmentedSieveMarkBatchApply ⟨fun _ => true⟩ ⟨0, 1, 2⟩ ⟨0⟩
        sieveFields).1 = some (.ok (), after) ∧
      after[2]? = some { sieveField 4 (fun _ => 1) with data := some flagsData' } ∧
      elementValue simScalarDomainU64 flagsData' 0 = 0 := by
  have hRun : (segmentedSieveMarkBatchApply ⟨fun _ => true⟩ ⟨0, 1, 2⟩ ⟨0⟩ sieveFields).1 =
      some (.ok (), _) := rfl
  obtain ⟨flagsData', hAfter, hStruck, -⟩ := segmentedSieveMarkBatchApply_primes
    ⟨fun _ => true⟩ ⟨0, 1, 2⟩ ⟨0⟩ (by decide)
    (show sieveFields[0]? = some (sieveField 4 fun i => BitVec.ofNat 64 (4 + i)) from rfl)
    (show sieveFields[1]? = some (sieveField 2 fun i => BitVec.ofNat 64 (2 + i)) from rfl)
    (show sieveFields[2]? = some (sieveField 4 fun _ => 1) from rfl) rfl rfl rfl hRun (by decide)
  exact ⟨_, flagsData', hRun, hAfter, (hStruck 0 (by decide)).1
    ⟨0, by decide, by decide, by decide⟩⟩

end Oakfield
