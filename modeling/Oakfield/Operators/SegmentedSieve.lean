import Oakfield.Context.Execute
import Oakfield.Field.Init
import Oakfield.Field.Representation
import Oakfield.Operators.IntegerElements

/-! The sieve operators: marking the multiples of one prime, and of all primes of a
field at once. The three fields may be the same one. -/
namespace Oakfield

open KernelIR CDouble Library.Loop

variable {D : Type} [CDouble D]

/-! ### Elements of context fields -/

omit [CDouble D] in
/-- The buffer of a context field, read where the field now is. -/
def contextData (fields : List (SimField D)) (k : ℕ) : Option (FieldData D) :=
  fields[k]?.bind SimField.buffer

omit [CDouble D] in
def setContextData (fields : List (SimField D)) (k : ℕ) (data : FieldData D) : List (SimField D) :=
  fields.modify k fun field => { field with data := some data }

def readElement (fields : List (SimField D)) (k : ℕ) (domain : SimScalarDomain) (index : ℕ) :
    Option Word :=
  (contextData fields k).bind fun data => simOperatorIntegerRead data domain index

def writeElement (fields : List (SimField D)) (k : ℕ) (domain : SimScalarDomain) (index : ℕ)
    (raw : Word) : Option (List (SimField D)) :=
  (contextData fields k).bind fun data =>
    (simOperatorIntegerWrite data domain index raw).map (setContextData fields k)

/-- Outcome of an application: a result and the fields it leaves; `none` is undefined. -/
abbrev SieveRun (D : Type) := Option (Except SimError Unit × List (SimField D))

/-- `SimSegmentedSieveMarkOperatorConfig`. -/
structure SimSegmentedSieveMarkOperatorConfig where
  candidateField : ℕ
  flagsField : ℕ
  prime : Word
deriving DecidableEq, Repr

/-- `SimSegmentedSieveMarkBatchOperatorConfig`. -/
structure SimSegmentedSieveMarkBatchOperatorConfig where
  candidateField : ℕ
  primesField : ℕ
  flagsField : ℕ
deriving DecidableEq, Repr

/-! ### Primes and candidates -/

/-- A prime as raw bits of the candidates' domain. -/
def segmentedSieveMarkPrimeToDomainRaw (prime : Word) (domain : SimScalarDomain) : Option Word :=
  if !simOperatorDomainIsExactInteger domain || decide (prime.toNat < 2) then none
  else if domain.isSigned then
    if (domain.bitWidth = 32 ∧ 2 ^ 31 - 1 < prime.toNat) ∨
        (domain.bitWidth = 64 ∧ 2 ^ 63 - 1 < prime.toNat) then none
    else simOperatorIntegerRawFromSigned prime domain
  else simOperatorIntegerRawFromUnsigned prime domain

/-- The copy of the batch operator. -/
def segmentedSieveMarkBatchPrimeToCandidateRaw (prime : Word) (domain : SimScalarDomain) :
    Option Word :=
  segmentedSieveMarkPrimeToDomainRaw prime domain

def segmentedSieveMarkCandidateHits (candidateRaw primeRaw : Word) (domain : SimScalarDomain) :
    Bool :=
  if !simOperatorDomainIsExactInteger domain then false
  else if simOperatorIntegerCompare candidateRaw primeRaw domain ≤ 0 then false
  else if domain.isSigned then
    let candidate := simOperatorIntegerAsI64 candidateRaw domain
    let prime := simOperatorIntegerAsI64 primeRaw domain
    if prime.toInt ≤ 1 then false else candidate.toInt.tmod prime.toInt == 0
  else
    let candidate := simOperatorIntegerTruncate candidateRaw domain
    let prime := simOperatorIntegerTruncate primeRaw domain
    if prime.toNat ≤ 1 then false else candidate.toNat % prime.toNat == 0

/-- The copy of the batch operator. -/
def segmentedSieveMarkBatchCandidateHits (candidateRaw primeRaw : Word)
    (domain : SimScalarDomain) : Bool :=
  segmentedSieveMarkCandidateHits candidateRaw primeRaw domain

def segmentedSieveMarkFlagDomainSupported (domain : SimScalarDomain) : Bool :=
  simOperatorDomainIsExactInteger domain || domain == simScalarDomainF64

def segmentedSieveMarkBatchFlagDomainSupported (domain : SimScalarDomain) : Bool :=
  simOperatorDomainIsExactInteger domain

/-! ### Element by element -/

/-- One iteration over integer flags: an element that is still set is cleared if its
candidate is hit. -/
def markElement (candidateField flagsField : ℕ) (candidateDomain flagsDomain : SimScalarDomain)
    (hit : Word → Bool) (index : ℕ) (fields : List (SimField D)) : SieveRun D :=
  match readElement fields flagsField flagsDomain index with
  | none => some (.error .invalidArgument, fields)
  | some flagRaw =>
      if flagRaw = 0 then some (.ok (), fields)
      else
        match readElement fields candidateField candidateDomain index with
        | none => some (.error .invalidArgument, fields)
        | some candidateRaw =>
            if !hit candidateRaw then some (.ok (), fields)
            else
              match writeElement fields flagsField flagsDomain index 0 with
              | none => some (.error .invalidArgument, fields)
              | some fields => some (.ok (), fields)

/-- One iteration over flags of type `double`. -/
def markRealElement (candidateField flagsField : ℕ) (candidateDomain : SimScalarDomain)
    (hit : Word → Bool) (index : ℕ) (fields : List (SimField D)) : SieveRun D :=
  match fields[flagsField]?.bind SimField.realData with
  | none => some (.error .invalidArgument, fields)
  | some flags =>
      if eq (flags.lane index) zero then some (.ok (), fields)
      else
        match readElement fields candidateField candidateDomain index with
        | none => some (.error .invalidArgument, fields)
        | some candidateRaw =>
            if !hit candidateRaw then some (.ok (), fields)
            else some (.ok (), setContextData fields flagsField (flags.setLane index zero))

/-- The loop over all elements, for integer flags or for `double` ones. -/
def markElements (candidateField flagsField : ℕ) (candidate flags : SimField D)
    (hit : Word → Bool) (fields : List (SimField D)) : SieveRun D :=
  let count := SimField.elementCount candidate.shape
  if simOperatorDomainIsExactInteger flags.domain then
    if (contextData fields flagsField).isNone then some (.error .invalidArgument, fields)
    else
      forEach (markElement candidateField flagsField candidate.domain flags.domain hit)
        (List.range count) fields
  else if flags.realData.isNone then some (.error .invalidArgument, fields)
  else
    forEach (markRealElement candidateField flagsField candidate.domain hit) (List.range count) fields

/-! ### One prime -/

def segmentedSieveMarkValidateFields (candidate flags : Option (SimField D)) (prime : Word) :
    Except SimError Unit :=
  match candidate, flags with
  | some candidate, some flags =>
      if SimField.elementCount candidate.shape ≠ SimField.elementCount flags.shape then
        .error .invalidArgument
      else if candidate.storageIsComplex || flags.storageIsComplex then .error .typeMismatch
      else if !simOperatorDomainIsExactInteger candidate.domain ||
          !segmentedSieveMarkFlagDomainSupported flags.domain then .error .typeMismatch
      else if (segmentedSieveMarkPrimeToDomainRaw prime candidate.domain).isNone then
        .error .invalidArgument
      else .ok ()
  | _, _ => .error .invalidArgument

def segmentedSieveMarkApply (config : SimSegmentedSieveMarkOperatorConfig)
    (fields : List (SimField D)) : SieveRun D :=
  match segmentedSieveMarkValidateFields fields[config.candidateField]? fields[config.flagsField]?
    config.prime with
  | .error failure => some (.error failure, fields)
  | .ok () =>
      match fields[config.candidateField]?, fields[config.flagsField]? with
      | some candidate, some flags =>
          match segmentedSieveMarkPrimeToDomainRaw config.prime candidate.domain with
          | none => some (.error .invalidArgument, fields)
          | some primeRaw =>
              if candidate.buffer.isNone then some (.error .invalidArgument, fields)
              else
                markElements config.candidateField config.flagsField candidate flags
                  (fun raw => segmentedSieveMarkCandidateHits raw primeRaw candidate.domain) fields
      | _, _ => some (.error .invalidArgument, fields)

/-! ### All primes of a field -/

def segmentedSieveMarkBatchValidateFields (candidate primes flags : Option (SimField D)) :
    Except SimError Unit :=
  match candidate, primes, flags with
  | some candidate, some primes, some flags =>
      if candidate.storageIsComplex || primes.storageIsComplex || flags.storageIsComplex then
        .error .typeMismatch
      else if SimField.elementCount candidate.shape ≠ SimField.elementCount flags.shape then
        .error .invalidArgument
      else if !simOperatorDomainIsExactInteger candidate.domain ||
          !simOperatorDomainIsExactInteger primes.domain ||
          !segmentedSieveMarkBatchFlagDomainSupported flags.domain then .error .typeMismatch
      else .ok ()
  | _, _, _ => .error .invalidArgument

def segmentedSieveMarkBatchReadPositivePrime (data : FieldData D) (domain : SimScalarDomain)
    (index : ℕ) : Option Word :=
  if !simOperatorDomainIsExactInteger domain then none
  else
    match simOperatorIntegerRead data domain index with
    | none => none
    | some raw =>
        if domain.isSigned then
          let value := simOperatorIntegerAsI64 raw domain
          if value.toInt < 2 then none else some value
        else
          let raw := simOperatorIntegerTruncate raw domain
          if raw.toNat < 2 then none else some raw

/-- Private state of the batch operator. Of the two arrays only the capacity is kept from
one application to the next: every entry is written before it is used. -/
structure SieveBatchState where
  primeCacheCapacity : ℕ
deriving DecidableEq, Repr

/-- The loop of `segmented_sieve_mark_batch_ensure_prime_cache`, from an index on. -/
def readPrimes (data : FieldData D) (primesDomain candidateDomain : SimScalarDomain) :
    List ℕ → Option (List (Word × Word))
  | [] => some []
  | index :: rest =>
      match segmentedSieveMarkBatchReadPositivePrime data primesDomain index with
      | none => none
      | some prime =>
          match segmentedSieveMarkBatchPrimeToCandidateRaw prime candidateDomain with
          | none => none
          | some raw => (readPrimes data primesDomain candidateDomain rest).map ((prime, raw) :: ·)

/-- `segmented_sieve_mark_batch_ensure_prime_cache`: values and raw bits of the primes
listed by the field. -/
def segmentedSieveMarkBatchEnsurePrimeCache (heap : Heap) (candidate primes : SimField D)
    (state : SieveBatchState) : Except SimError (List (Word × Word)) × SieveBatchState :=
  let primeCount := SimField.elementCount primes.shape
  if primeCount = 0 then (.ok [], state)
  else
    match primes.buffer with
    | none => (.error .invalidArgument, state)
    | some data =>
        if state.primeCacheCapacity < primeCount && !heap.grants (primeCount * 8 % 2 ^ 64) then
          (.error .outOfMemory, state)
        else
          let state := ⟨max state.primeCacheCapacity primeCount⟩
          match readPrimes data primes.domain candidate.domain (List.range primeCount) with
          | none => (.error .invalidArgument, state)
          | some listed => (.ok listed, state)

/-! ### Unit ranges -/

def segmentedSieveMarkBatchNonnegativeValue (raw : Word) (domain : SimScalarDomain) : Option ℕ :=
  if !simOperatorDomainIsExactInteger domain then none
  else if domain.isSigned then
    let value := simOperatorIntegerAsI64 raw domain
    if value.toInt < 0 then none else some value.toNat
  else some (simOperatorIntegerTruncate raw domain).toNat

/-- The loop of the detection after the first element: every value is the successor of
the one before, in `uint64_t`. -/
def detectUnitRangeLoop (data : FieldData D) (domain : SimScalarDomain) :
    List ℕ → ℕ → Option ℕ
  | [], prev => some prev
  | index :: rest, prev =>
      match (simOperatorIntegerRead data domain index).bind
        (segmentedSieveMarkBatchNonnegativeValue · domain) with
      | none => none
      | some value =>
          if prev = 2 ^ 64 - 1 ∨ value ≠ prev + 1 then none
          else detectUnitRangeLoop data domain rest value

/-- `segmented_sieve_mark_batch_detect_unit_range`: start and end of the range. -/
def segmentedSieveMarkBatchDetectUnitRange (data : FieldData D) (domain : SimScalarDomain)
    (count : ℕ) : Option (ℕ × ℕ) :=
  if count = 0 then none
  else
    match (simOperatorIntegerRead data domain 0).bind
      (segmentedSieveMarkBatchNonnegativeValue · domain) with
    | none => none
    | some start =>
        (detectUnitRangeLoop data domain ((List.range (count - 1)).map (· + 1)) start).map (start, ·)

/-- The index of the first multiple of a prime above it, in `uint64_t`. -/
def segmentedSieveMarkBatchFirstHit (rangeStart rangeEnd prime : ℕ) : Option ℕ :=
  if prime < 2 ∨ rangeEnd < rangeStart then none
  else if rangeEnd ≤ prime then none
  else if rangeStart ≤ prime ∧ prime = 2 ^ 64 - 1 then none
  else
    let firstValue := if rangeStart ≤ prime then prime + 1 else rangeStart
    let remainder := firstValue % prime
    let delta := prime - remainder
    if remainder ≠ 0 ∧ 2 ^ 64 - 1 - firstValue < delta then none
    else
      let firstValue := if remainder ≠ 0 then firstValue + delta else firstValue
      if rangeEnd < firstValue ∨ firstValue < rangeStart then none
      else some (firstValue - rangeStart)

/-- The strided loop, whose index is a `uint64_t`. `fuel` bounds the iterations; an
index which wraps around could go on forever. -/
def clearStride (flagsField count prime : ℕ) : ℕ → ℕ → List (SimField D) → Option (List (SimField D))
  | 0, _, _ => none
  | fuel + 1, index, fields =>
      if index < count then
        match contextData fields flagsField with
        | none => none
        | some data =>
            clearStride flagsField count prime fuel ((index + prime) % 2 ^ 64)
              (setContextData fields flagsField (data.setWord index 0))
      else some fields

/-- One iteration of `segmented_sieve_mark_batch_apply_unit_range_integer_flags`. The six
typed loops store the same zero. -/
def clearMultiples (flagsField : ℕ) (flagsDomain : SimScalarDomain) (rangeStart rangeEnd count : ℕ)
    (prime : Word) (fields : List (SimField D)) : SieveRun D :=
  match segmentedSieveMarkBatchFirstHit rangeStart rangeEnd prime.toNat with
  | none => some (.ok (), fields)
  | some startIndex =>
      if flagsDomain = simScalarDomainI8 ∨ flagsDomain = simScalarDomainU8 ∨
          flagsDomain = simScalarDomainI32 ∨ flagsDomain = simScalarDomainU32 ∨
          flagsDomain = simScalarDomainI64 ∨ flagsDomain = simScalarDomainU64 then
        (clearStride flagsField count prime.toNat (count + 1) startIndex fields).map (.ok (), ·)
      else some (.error .invalidArgument, fields)

def segmentedSieveMarkBatchApplyUnitRangeIntegerFlags (flagsField : ℕ)
    (flagsDomain : SimScalarDomain) (rangeStart rangeEnd count : ℕ) (primes : List Word)
    (fields : List (SimField D)) : SieveRun D :=
  if (contextData fields flagsField).isNone || !simOperatorDomainIsExactInteger flagsDomain then
    some (.error .invalidArgument, fields)
  else forEach (clearMultiples flagsField flagsDomain rangeStart rangeEnd count) primes fields

/-- The loop over the elements, which stops at the first prime that hits. -/
def segmentedSieveMarkBatchElements (config : SimSegmentedSieveMarkBatchOperatorConfig)
    (candidate flags : SimField D) (primes : List (Word × Word)) (fields : List (SimField D)) :
    SieveRun D :=
  markElements config.candidateField config.flagsField candidate flags
    (fun raw => primes.any fun prime =>
      segmentedSieveMarkBatchCandidateHits raw prime.2 candidate.domain) fields

/-- `segmented_sieve_mark_batch_apply`. -/
def segmentedSieveMarkBatchApply (heap : Heap) (config : SimSegmentedSieveMarkBatchOperatorConfig)
    (state : SieveBatchState) (fields : List (SimField D)) : SieveRun D × SieveBatchState :=
  match segmentedSieveMarkBatchValidateFields fields[config.candidateField]?
    fields[config.primesField]? fields[config.flagsField]? with
  | .error failure => (some (.error failure, fields), state)
  | .ok () =>
      match fields[config.candidateField]?, fields[config.primesField]?,
        fields[config.flagsField]? with
      | some candidate, some primes, some flags =>
          match segmentedSieveMarkBatchEnsurePrimeCache heap candidate primes state with
          | (.error failure, state) => (some (.error failure, fields), state)
          | (.ok [], state) => (some (.ok (), fields), state)
          | (.ok (first :: rest), state) =>
              let count := SimField.elementCount candidate.shape
              match candidate.buffer with
              | none => (some (.error .invalidArgument, fields), state)
              | some data =>
                  if count = 0 then (some (.ok (), fields), state)
                  else
                    match segmentedSieveMarkBatchDetectUnitRange data candidate.domain count,
                      simOperatorDomainIsExactInteger flags.domain with
                    | some (rangeStart, rangeEnd), true =>
                        (segmentedSieveMarkBatchApplyUnitRangeIntegerFlags config.flagsField
                          flags.domain rangeStart rangeEnd count ((first :: rest).map Prod.fst)
                          fields, state)
                    | _, _ =>
                        (segmentedSieveMarkBatchElements config candidate flags (first :: rest)
                          fields, state)
      | _, _, _ => (some (.error .invalidArgument, fields), state)

end Oakfield
