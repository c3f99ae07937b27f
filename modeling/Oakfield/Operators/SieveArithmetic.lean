import Oakfield.Operators.SieveMemory

/-! The arithmetic of the sieve operators: which candidates a prime strikes out, over
words of every width and at the ends of their ranges. -/
namespace Oakfield

open KernelIR

variable {D : Type} [CDouble D] {domain : SimScalarDomain}

/-- A prime strikes out its proper multiples. -/
def Strikes (prime value : ℤ) : Prop := 1 < prime ∧ prime < value ∧ prime ∣ value

theorem candidateHits_iff (hDomain : HasIntegerElements domain) (candidateRaw primeRaw : Word) :
    segmentedSieveMarkCandidateHits candidateRaw primeRaw domain = true ↔
      Strikes (domain.intValue primeRaw) (domain.intValue candidateRaw) := by
  unfold segmentedSieveMarkCandidateHits Strikes
  rw [hDomain.exact, if_neg (by decide)]
  by_cases hLe : simOperatorIntegerCompare candidateRaw primeRaw domain ≤ 0
  · rw [if_pos hLe]
    rw [hDomain.compare_le_iff] at hLe
    constructor
    · exact fun hFalse => nomatch hFalse
    · exact fun hStrikes => absurd hStrikes.2.1 (Int.not_lt.mpr hLe)
  · rw [if_neg hLe]
    rw [hDomain.compare_le_iff, Int.not_le] at hLe
    cases hSigned : domain.isSigned with
    | true =>
        rw [if_pos rfl]
        dsimp only
        rw [hDomain.toInt_asI64 hSigned, hDomain.toInt_asI64 hSigned]
        split
        case isTrue hSmall =>
          constructor
          · exact fun hFalse => nomatch hFalse
          · exact fun hStrikes => absurd hStrikes.1 (Int.not_lt.mpr hSmall)
        case isFalse hLarge =>
          rw [beq_iff_eq, ← Int.dvd_iff_tmod_eq_zero]
          exact ⟨fun hDvd => ⟨Int.not_le.mp hLarge, hLe, hDvd⟩, fun hStrikes => hStrikes.2.2⟩
    | false =>
        rw [if_neg Bool.false_ne_true]
        dsimp only
        rw [← hDomain.toNat_truncate hSigned candidateRaw, ← hDomain.toNat_truncate hSigned primeRaw]
          at hLe ⊢
        split
        case isTrue hSmall =>
          constructor
          · exact fun hFalse => nomatch hFalse
          · exact fun hStrikes => absurd hStrikes.1 (by omega)
        case isFalse hLarge =>
          rw [beq_iff_eq, ← Nat.dvd_iff_mod_eq_zero, Int.natCast_dvd_natCast]
          exact ⟨fun hDvd => ⟨by omega, hLe, hDvd⟩, fun hStrikes => hStrikes.2.2⟩

/-- Values of a domain fit in its range. -/
theorem intValue_lt (hDomain : HasIntegerElements domain) (raw : Word) :
    domain.intValue raw < 2 ^ (if domain.isSigned then domain.bitWidth - 1 else domain.bitWidth) := by
  have hPos := hDomain.isMachineInteger.2.1
  unfold SimScalarDomain.intValue Library.FixedWidth.wordValue
  cases domain.isSigned with
  | true => exact (Library.FixedWidth.wrap_signed_bounds hPos _).2
  | false => exact (Library.FixedWidth.wrap_unsigned_bounds _).2

theorem toInt_eq (prime : Word) : prime.toInt =
    if prime.toNat < 2 ^ 63 then (prime.toNat : ℤ) else (prime.toNat : ℤ) - 2 ^ 64 := by
  rw [BitVec.toInt_eq_toNat_cond]
  split <;> split <;> omega

/-- An accepted prime is its own value in the candidates' domain. A signed 8-bit domain
also accepts the words next to `2 ^ 64`, which are negative there. -/
theorem intValue_primeToDomainRaw (hDomain : HasIntegerElements domain) {prime raw : Word}
    (hRaw : segmentedSieveMarkPrimeToDomainRaw prime domain = some raw) :
    domain.intValue raw = prime.toNat ∨
      (domain = simScalarDomainI8 ∧ domain.intValue raw < 0 ∧ 2 ^ 63 ≤ prime.toNat) := by
  have hMachine := hDomain.isMachineInteger
  have hInt := toInt_eq prime
  unfold segmentedSieveMarkPrimeToDomainRaw at hRaw
  rw [hDomain.exact] at hRaw
  split at hRaw
  case isTrue => cases hRaw
  case isFalse hPrime =>
    cases hSigned : domain.isSigned with
    | true =>
        rw [hSigned, if_pos rfl] at hRaw
        split at hRaw
        case isTrue => cases hRaw
        case isFalse hRange =>
          unfold simOperatorIntegerRawFromSigned at hRaw
          rw [hDomain.exact, hSigned] at hRaw
          split_ifs at hRaw with hBoth hNarrow hMiddle
          cases hRaw
          rw [hDomain.intValue_truncate, intValue_eq_wrap_toInt hMachine]
          unfold SimScalarDomain.wrap
          rw [hSigned]
          rcases id hDomain with rfl | rfl | rfl | rfl | rfl | rfl
          · have hBounds : -2 ^ 7 ≤ prime.toInt ∧ prime.toInt < 2 ^ 7 := by
              simp [simScalarDomainI8] at hNarrow
              omega
            rw [Library.FixedWidth.wrap_signed_eq_self (by decide) hBounds.1 hBounds.2]
            by_cases hLow : prime.toNat < 2 ^ 63
            · exact Or.inl (by rw [hInt, if_pos hLow])
            · rw [if_neg hLow] at hInt
              have := prime.isLt
              exact Or.inr ⟨rfl, by omega, by omega⟩
          · have hBounds : prime.toNat < 2 ^ 31 := by
              simp [simScalarDomainI32] at hRange
              omega
            rw [if_pos (by omega)] at hInt
            rw [hInt]
            left
            apply Library.FixedWidth.wrap_signed_eq_self (by decide)
            · simp [simScalarDomainI32]
            · simp [simScalarDomainI32]
              omega
          · have hBounds : prime.toNat < 2 ^ 63 := by
              simp [simScalarDomainI64] at hRange
              omega
            rw [if_pos hBounds] at hInt
            rw [hInt]
            left
            apply Library.FixedWidth.wrap_signed_eq_self (by decide)
            · simp [simScalarDomainI64]
            · simp [simScalarDomainI64]
              omega
          all_goals cases hSigned
    | false =>
        rw [hSigned, if_neg Bool.false_ne_true] at hRaw
        unfold simOperatorIntegerRawFromUnsigned at hRaw
        rw [hDomain.exact, hSigned] at hRaw
        split_ifs at hRaw with hBoth hNarrow hMiddle
        cases hRaw
        left
        rw [hDomain.intValue_truncate, SimScalarDomain.intValue, Library.FixedWidth.wordValue, hSigned]
        apply Library.FixedWidth.wrap_unsigned_eq_self (by omega)
        have := prime.isLt
        rcases id hDomain with rfl | rfl | rfl | rfl | rfl | rfl
        · cases hSigned
        · cases hSigned
        · cases hSigned
        · simp [simScalarDomainU8] at hNarrow ⊢
          omega
        · simp [simScalarDomainU32] at hMiddle ⊢
          omega
        · simp [simScalarDomainU64]
          omega

/-- An accepted prime strikes the same candidates as its raw bits. -/
theorem strikes_primeToDomainRaw (hDomain : HasIntegerElements domain) {prime raw : Word}
    (hRaw : segmentedSieveMarkPrimeToDomainRaw prime domain = some raw) (candidateRaw : Word) :
    Strikes (domain.intValue raw) (domain.intValue candidateRaw) ↔
      Strikes prime.toNat (domain.intValue candidateRaw) := by
  rcases intValue_primeToDomainRaw hDomain hRaw with hValue | ⟨rfl, hNegative, hLarge⟩
  · rw [hValue]
  · have hHigh : simScalarDomainI8.intValue candidateRaw < 2 ^ 7 := intValue_lt hDomain candidateRaw
    constructor
    · exact fun hStrikes => absurd hStrikes.1 (by omega)
    · exact fun hStrikes => absurd hStrikes.2.1 (by omega)

/-! ### The first multiple in a range -/

/-- The least multiple from a value on. -/
def nextMultiple (prime first : ℕ) : ℕ :=
  if first % prime ≠ 0 then first + (prime - first % prime) else first

variable {prime first rangeStart rangeEnd value : ℕ}

theorem dvd_nextMultiple (hPos : 0 < prime) : prime ∣ nextMultiple prime first := by
  unfold nextMultiple
  split
  case isTrue =>
    have hRemainder := Nat.mod_lt first hPos
    have hSplit := Nat.div_add_mod first prime
    refine ⟨first / prime + 1, ?_⟩
    rw [Nat.mul_add, Nat.mul_one]
    omega
  case isFalse hZero => exact Nat.dvd_of_mod_eq_zero (not_not.mp hZero)

theorem le_nextMultiple : first ≤ nextMultiple prime first := by
  unfold nextMultiple
  split <;> omega

theorem nextMultiple_le (hDvd : prime ∣ value) (hLe : first ≤ value) :
    nextMultiple prime first ≤ value := by
  unfold nextMultiple
  split
  case isFalse => exact hLe
  case isTrue hRemainder =>
    obtain ⟨quotient, rfl⟩ := hDvd
    have hSplit := Nat.div_add_mod first prime
    have hLt : first / prime < quotient := by
      apply Nat.lt_of_mul_lt_mul_left (a := prime)
      omega
    have hNext := Nat.mul_le_mul_left prime hLt
    rw [Nat.mul_succ] at hNext
    omega

/-- The computation in `uint64_t` finds the first proper multiple in the range. -/
theorem firstHit_eq (hEnd : rangeEnd < 2 ^ 64) :
    segmentedSieveMarkBatchFirstHit rangeStart rangeEnd prime =
      if 1 < prime ∧ nextMultiple prime (max rangeStart (prime + 1)) ≤ rangeEnd then
        some (nextMultiple prime (max rangeStart (prime + 1)) - rangeStart)
      else none := by
  have hAbove := @le_nextMultiple prime (max rangeStart (prime + 1))
  have hFirst : (if rangeStart ≤ prime then prime + 1 else rangeStart) =
      max rangeStart (prime + 1) := by split <;> omega
  unfold segmentedSieveMarkBatchFirstHit
  dsimp only
  rw [hFirst]
  by_cases hSmall : prime < 2 ∨ rangeEnd < rangeStart
  · rw [if_pos hSmall, if_neg (by omega)]
  by_cases hProper : rangeEnd ≤ prime
  · rw [if_neg hSmall, if_pos hProper, if_neg (by omega)]
  rw [if_neg hSmall, if_neg hProper, if_neg (by omega)]
  unfold nextMultiple at hAbove ⊢
  by_cases hRemainder : max rangeStart (prime + 1) % prime = 0
  · simp only [hRemainder, ne_eq, not_true_eq_false, false_and, if_false] at hAbove ⊢
    split <;> split <;> first | rfl | omega
  · simp only [hRemainder, ne_eq, not_false_eq_true, true_and, if_true] at hAbove ⊢
    have hDelta := Nat.mod_lt (max rangeStart (prime + 1)) (show 0 < prime by omega)
    by_cases hWrap : 2 ^ 64 - 1 - max rangeStart (prime + 1) <
        prime - max rangeStart (prime + 1) % prime
    · rw [if_pos hWrap, if_neg (by omega)]
    · rw [if_neg hWrap]
      split <;> split <;> first | rfl | omega

/-- The stride from the first hit meets exactly the proper multiples in the range. -/
theorem firstHit_dvd_iff (hEnd : rangeEnd < 2 ^ 64) {i : ℕ} (hRange : rangeStart + i ≤ rangeEnd) :
    (∃ startIndex, segmentedSieveMarkBatchFirstHit rangeStart rangeEnd prime = some startIndex ∧
      startIndex ≤ i ∧ prime ∣ i - startIndex) ↔
      1 < prime ∧ prime < rangeStart + i ∧ prime ∣ rangeStart + i := by
  have hAbove := @le_nextMultiple prime (max rangeStart (prime + 1))
  rw [firstHit_eq hEnd]
  constructor
  · rintro ⟨startIndex, hFound, hLe, hDvd⟩
    split_ifs at hFound with hBoth
    cases hFound
    have hMultiple := @dvd_nextMultiple prime (max rangeStart (prime + 1)) (by omega)
    refine ⟨hBoth.1, by omega, ?_⟩
    have hSum := Nat.dvd_add hMultiple hDvd
    rwa [show nextMultiple prime (max rangeStart (prime + 1)) +
      (i - (nextMultiple prime (max rangeStart (prime + 1)) - rangeStart)) = rangeStart + i by omega]
      at hSum
  · rintro ⟨hPrime, hProper, hDvd⟩
    have hMultiple := @dvd_nextMultiple prime (max rangeStart (prime + 1)) (by omega)
    have hLeast := @nextMultiple_le prime (max rangeStart (prime + 1)) (rangeStart + i) hDvd (by omega)
    refine ⟨_, if_pos ⟨hPrime, by omega⟩, by omega, ?_⟩
    have hDifference := Nat.dvd_sub hDvd hMultiple
    rwa [show rangeStart + i - nextMultiple prime (max rangeStart (prime + 1)) =
      i - (nextMultiple prime (max rangeStart (prime + 1)) - rangeStart) by omega] at hDifference

/-- Twice a prime with a hit fits in the range. -/
theorem firstHit_double_le (hEnd : rangeEnd < 2 ^ 64) {startIndex : ℕ}
    (hFound : segmentedSieveMarkBatchFirstHit rangeStart rangeEnd prime = some startIndex) :
    1 < prime ∧ 2 * prime ≤ rangeEnd := by
  have hAbove := @le_nextMultiple prime (max rangeStart (prime + 1))
  rw [firstHit_eq hEnd] at hFound
  split_ifs at hFound with hBoth
  obtain ⟨quotient, hQuotient⟩ :=
    @dvd_nextMultiple prime (max rangeStart (prime + 1)) (by omega)
  have hTwo : 2 ≤ quotient := by
    by_contra hLess
    have hLe := Nat.mul_le_mul_left prime (show quotient ≤ 1 by omega)
    omega
  have hLe := Nat.mul_le_mul_left prime hTwo
  exact ⟨hBoth.1, by omega⟩

/-! ### Detected ranges -/

variable {data : FieldData D} {count : ℕ}

theorem nonnegativeValue_some (hDomain : HasIntegerElements domain) {index : ℕ}
    (hValue : (simOperatorIntegerRead data domain index).bind
      (segmentedSieveMarkBatchNonnegativeValue · domain) = some value) :
    domain.intValue (data.word index) = value ∧ value < 2 ^ 64 := by
  rw [hDomain.read_eq, Option.bind_some] at hValue
  unfold segmentedSieveMarkBatchNonnegativeValue at hValue
  rw [hDomain.exact, if_neg (by decide)] at hValue
  cases hSigned : domain.isSigned with
  | true =>
      rw [hSigned, if_pos rfl] at hValue
      dsimp only at hValue
      split at hValue
      case isTrue => cases hValue
      case isFalse hNonneg =>
        cases hValue
        rw [Int.not_lt] at hNonneg
        rw [← hDomain.intValue_truncate, ← hDomain.toInt_asI64 hSigned]
        have hNat := toNat_of_toInt_nonneg hNonneg
        exact ⟨by omega, BitVec.isLt _⟩
  | false =>
      rw [hSigned, if_neg Bool.false_ne_true] at hValue
      cases hValue
      rw [hDomain.toNat_truncate hSigned, hDomain.intValue_truncate]
      exact ⟨rfl, BitVec.isLt _⟩

theorem detectUnitRangeLoop_some (hDomain : HasIntegerElements domain) {n index prev last : ℕ}
    (hPrev : prev < 2 ^ 64)
    (hLoop : detectUnitRangeLoop data domain (List.range' index n) prev = some last) :
    last = prev + n ∧ last < 2 ^ 64 ∧
      ∀ i < n, domain.intValue (data.word (index + i)) = (prev + 1 + i : ℕ) := by
  induction n generalizing index prev with
  | zero =>
      cases hLoop
      exact ⟨rfl, hPrev, fun i hLt => absurd hLt (Nat.not_lt_zero i)⟩
  | succ n ih =>
      rw [List.range'_succ, detectUnitRangeLoop] at hLoop
      split at hLoop
      case h_1 => cases hLoop
      case h_2 value hValue =>
        obtain ⟨hElement, hLt⟩ := nonnegativeValue_some hDomain hValue
        split at hLoop
        case isTrue => cases hLoop
        case isFalse hNext =>
          obtain ⟨-, hSucc⟩ := not_or.mp hNext
          obtain rfl := not_not.mp hSucc
          obtain ⟨hLast, hBound, hRest⟩ := ih hLt hLoop
          refine ⟨by omega, hBound, fun i hI => ?_⟩
          cases i with
          | zero => exact hElement
          | succ i =>
              rw [Nat.add_succ, ← Nat.succ_add, hRest i (Nat.lt_of_succ_lt_succ hI)]
              congr 1
              omega

/-- A detected range lists the successors of its start, up to its end. -/
theorem detectUnitRange_some (hDomain : HasIntegerElements domain)
    (hDetect : segmentedSieveMarkBatchDetectUnitRange data domain count =
      some (rangeStart, rangeEnd)) :
    rangeEnd < 2 ^ 64 ∧ rangeEnd + 1 = rangeStart + count ∧
      ∀ i < count, domain.intValue (data.word i) = (rangeStart + i : ℕ) := by
  unfold segmentedSieveMarkBatchDetectUnitRange at hDetect
  split at hDetect
  case isTrue => cases hDetect
  case isFalse hCount =>
    split at hDetect
    case h_1 => cases hDetect
    case h_2 first hFirst =>
      obtain ⟨hElement, hLt⟩ := nonnegativeValue_some hDomain hFirst
      obtain ⟨last, hLoop, hRange⟩ := Option.map_eq_some_iff.mp hDetect
      cases hRange
      have hIndices : (List.range (count - 1)).map (· + 1) = List.range' 1 (count - 1) := by
        rw [List.range'_eq_map_range]
        exact List.map_congr_left fun i _ => Nat.add_comm i 1
      rw [hIndices] at hLoop
      obtain ⟨hLast, hBound, hRest⟩ := detectUnitRangeLoop_some hDomain hLt hLoop
      refine ⟨hBound, by omega, fun i hI => ?_⟩
      cases i with
      | zero => exact hElement
      | succ i =>
          rw [Nat.add_comm i 1, hRest i (by omega)]
          congr 1
          omega

end Oakfield
