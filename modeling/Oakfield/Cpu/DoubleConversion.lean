import Oakfield.Cpu.EvalInteger
import Oakfield.Library.Binary64

/-! The two conversions from IEEE doubles to integers of a scalar domain. -/
namespace Oakfield.Cpu

open KernelIR Library

/-- IEEE doubles. Casts of values outside the integer type, which C leaves undefined,
and the functions which the conversions do not use are those of `rest`. -/
@[reducible]
def ieeeDouble (rest : CDouble Binary64) : CDouble Binary64 :=
  { rest with
    lit := fun mantissa exponent => if mantissa = 0 then ⟨0⟩ else rest.lit mantissa exponent
    eq := Binary64.eq
    lt := Binary64.lt
    le := Binary64.le
    neg := Binary64.neg
    isfinite := Binary64.isFinite
    trunc := Binary64.trunc
    ofI64 := fun word => Binary64.ofInt word.toInt
    ofU64 := fun word => Binary64.ofNat word.toNat
    toI64 := fun x =>
      if x.isFinite ∧ -2 ^ 63 ≤ x.toInt ∧ x.toInt < 2 ^ 63 then BitVec.ofInt 64 x.toInt
      else rest.toI64 x
    toU64 := fun x =>
      if x.isFinite ∧ 0 ≤ x.toInt ∧ x.toInt < 2 ^ 64 then BitVec.ofInt 64 x.toInt
      else rest.toU64 x
    ofBits := fun word => ⟨word⟩
    toBits := Binary64.bits }

section

variable (rest : CDouble Binary64)

@[simp]
theorem ieee_isfinite (x : Binary64) :
    @CDouble.isfinite _ (ieeeDouble rest) x = x.isFinite := rfl

@[simp]
theorem ieee_trunc (x : Binary64) : @CDouble.trunc _ (ieeeDouble rest) x = x.trunc := rfl

@[simp]
theorem ieee_eq (x y : Binary64) : @CDouble.eq _ (ieeeDouble rest) x y = x.eq y := rfl

@[simp]
theorem ieee_lt (x y : Binary64) : @CDouble.lt _ (ieeeDouble rest) x y = x.lt y := rfl

@[simp]
theorem ieee_ofI64 (word : Word) :
    @CDouble.ofI64 _ (ieeeDouble rest) word = .ofInt word.toInt := rfl

@[simp]
theorem ieee_ofU64 (word : Word) :
    @CDouble.ofU64 _ (ieeeDouble rest) word = .ofNat word.toNat := rfl

@[simp]
theorem ieee_zero : @CDouble.zero _ (ieeeDouble rest) = ⟨0⟩ := rfl

end

/-- The inclusive range of an integer domain, from `rangeLow` to `rangeEnd - 1`. -/
def rangeLow (domain : SimScalarDomain) : ℤ :=
  if domain.isSigned then -2 ^ (domain.bitWidth - 1) else 0

def rangeEnd (domain : SimScalarDomain) : ℤ :=
  if domain.isSigned then 2 ^ (domain.bitWidth - 1) else 2 ^ domain.bitWidth

section

variable (rest : CDouble Binary64)

/-- `sim_ir_integer_raw_from_double` on IEEE doubles. -/
def coreFromDouble (value : Binary64) (domain : SimScalarDomain) : Option Word :=
  letI := ieeeDouble rest
  simIrIntegerRawFromDouble value domain

/-- `backend_cpu_integer_raw_from_double` on IEEE doubles. -/
def cpuFromDouble (value : Binary64) (domain : SimScalarDomain) : Option Word :=
  letI := ieeeDouble rest
  backendCpuIntegerRawFromDouble value domain

/-- `sim_ir_integer_raw_to_double` on IEEE doubles. -/
def coreToDouble (raw : Word) (domain : SimScalarDomain) : Binary64 :=
  letI := ieeeDouble rest
  simIrIntegerRawToDouble raw domain

/-- A conversion accepts the integers in the range of the domain, and its word has the
value of the double, also when it is converted back. -/
structure Exact (value : Binary64) (domain : SimScalarDomain) (converted : Option Word) : Prop where
  accepted : converted.isSome = true ↔
    ∃ z, value.Holds z ∧ rangeLow domain ≤ z ∧ z < rangeEnd domain
  decoded : ∀ raw, converted = some raw → value.Holds (domain.intValue raw)
  returned : ∀ raw, converted = some raw →
    Binary64.eq (coreToDouble rest raw domain) value = true

/-- Both copies of the conversion are exact, and they agree. -/
structure FromDoubleExact (value : Binary64) (domain : SimScalarDomain) : Prop where
  core : Exact rest value domain (coreFromDouble rest value domain)
  cpu : Exact rest value domain (cpuFromDouble rest value domain)
  agree : coreFromDouble rest value domain = cpuFromDouble rest value domain

end

variable {rest : CDouble Binary64} {value : Binary64} {domain : SimScalarDomain} {z : ℤ}

/-! ### The limits of the range checks -/

theorem log2_le_of_lt {n : ℕ} (hLt : n < 2 ^ 64) : n.log2 ≤ 1000 := by
  by_cases hZero : n = 0
  case pos => simp [hZero]
  case neg =>
    have hLog := (Nat.log2_lt hZero).mpr hLt
    omega

theorem ofI64_holds (word : Word) : (Binary64.ofInt word.toInt).Holds
    (Binary64.roundInt word.toInt) := by
  have hLow := BitVec.le_toInt word
  have hHigh := BitVec.toInt_lt (x := word)
  exact Binary64.ofInt_holds (log2_le_of_lt (by omega))

theorem ofU64_holds (word : Word) : (Binary64.ofNat word.toNat).Holds
    (Binary64.roundNat word.toNat) := by
  exact Binary64.ofNat_holds (log2_le_of_lt word.isLt)

/-- The largest 64-bit integers are rounded to the next power of two. -/
theorem limits_round :
    Binary64.roundInt (BitVec.ofInt 64 (-2 ^ 31)).toInt = -2 ^ 31 ∧
      Binary64.roundInt (BitVec.ofInt 64 (2 ^ 31 - 1)).toInt = 2 ^ 31 - 1 ∧
      Binary64.roundInt int64Min.toInt = -2 ^ 63 ∧ Binary64.roundInt int64Max.toInt = 2 ^ 63 ∧
      Binary64.roundNat (BitVec.ofNat 64 (2 ^ 32 - 1)).toNat = 2 ^ 32 - 1 ∧
      Binary64.roundNat uint64Max.toNat = 2 ^ 64 := by
  decide +kernel

/-- The largest integer which the range checks let pass. -/
def checkEnd (domain : SimScalarDomain) : ℤ :=
  if domain.bitWidth = 64 then rangeEnd domain else rangeEnd domain - 1

/-- The cast of a double which passed the range checks. -/
def castWord (rest : CDouble Binary64) (value : Binary64) (domain : SimScalarDomain) : Word :=
  letI := ieeeDouble rest
  if domain.isSigned then CDouble.toI64 value else CDouble.toU64 value

/-- The smaller double to which the range check of a domain compares. -/
def lowLimit (domain : SimScalarDomain) : Binary64 :=
  if domain.isSigned then
    if domain.bitWidth = 32 then .ofInt (BitVec.ofInt 64 (-2 ^ 31)).toInt
    else .ofInt int64Min.toInt
  else ⟨0⟩

/-- The larger double to which the range check of a domain compares. -/
def highLimit (domain : SimScalarDomain) : Binary64 :=
  if domain.isSigned then
    if domain.bitWidth = 32 then .ofInt (BitVec.ofInt 64 (2 ^ 31 - 1)).toInt
    else .ofInt int64Max.toInt
  else if domain.bitWidth = 32 then .ofNat (BitVec.ofNat 64 (2 ^ 32 - 1)).toNat
  else .ofNat uint64Max.toNat

theorem lowLimit_holds (hWidth : domain.bitWidth = 32 ∨ domain.bitWidth = 64) :
    (lowLimit domain).Holds (rangeLow domain) := by
  cases hSigned : domain.isSigned with
  | false => simpa [lowLimit, rangeLow, hSigned] using Binary64.zero_holds
  | true =>
      obtain h32 | h64 := hWidth
      case inl =>
        have hLow := ofI64_holds (BitVec.ofInt 64 (-2 ^ 31))
        rw [limits_round.1] at hLow
        simpa [lowLimit, rangeLow, hSigned, h32] using hLow
      case inr =>
        have hLow := ofI64_holds int64Min
        rw [limits_round.2.2.1] at hLow
        simpa [lowLimit, rangeLow, hSigned, h64] using hLow

theorem highLimit_holds (hWidth : domain.bitWidth = 32 ∨ domain.bitWidth = 64) :
    (highLimit domain).Holds (checkEnd domain) := by
  obtain ⟨-, hSigned32, -, hSigned64, hUnsigned32, hUnsigned64⟩ := limits_round
  cases hSigned : domain.isSigned with
  | true =>
      obtain h32 | h64 := hWidth
      case inl =>
        have hHigh := ofI64_holds (BitVec.ofInt 64 (2 ^ 31 - 1))
        rw [hSigned32] at hHigh
        simpa [highLimit, checkEnd, rangeEnd, hSigned, h32] using hHigh
      case inr =>
        have hHigh := ofI64_holds int64Max
        rw [hSigned64] at hHigh
        simpa [highLimit, checkEnd, rangeEnd, hSigned, h64] using hHigh
  | false =>
      obtain h32 | h64 := hWidth
      case inl =>
        have hHigh := ofU64_holds (BitVec.ofNat 64 (2 ^ 32 - 1))
        rw [hUnsigned32] at hHigh
        simpa [highLimit, checkEnd, rangeEnd, hSigned, h32] using hHigh
      case inr =>
        have hHigh := ofU64_holds uint64Max
        rw [hUnsigned64] at hHigh
        simpa [highLimit, checkEnd, rangeEnd, hSigned, h64] using hHigh

theorem lt_lowLimit (hWidth : domain.bitWidth = 32 ∨ domain.bitWidth = 64)
    (hHolds : value.Holds z) :
    Binary64.lt value (lowLimit domain) = decide (z < rangeLow domain) := by
  rw [Bool.eq_iff_iff, Binary64.lt_iff hHolds (lowLimit_holds hWidth), decide_eq_true_iff]

theorem highLimit_lt (hWidth : domain.bitWidth = 32 ∨ domain.bitWidth = 64)
    (hHolds : value.Holds z) :
    Binary64.lt (highLimit domain) value = decide (checkEnd domain < z) := by
  rw [Bool.eq_iff_iff, Binary64.lt_iff (highLimit_holds hWidth) hHolds, decide_eq_true_iff]

/-! ### What the conversions accept -/

/-- Doubles which are not integers are refused by both copies. -/
theorem refused_of_not_integral (hNot : ¬ value.Integral) :
    coreFromDouble rest value domain = none ∧ cpuFromDouble rest value domain = none := by
  have hRefused : (!value.isFinite || !Binary64.eq value.trunc value) = true := by
    by_cases hFinite : value.isFinite = true
    case pos =>
      have hTrunc : Binary64.eq value.trunc value ≠ true := by
        rw [Ne, Binary64.eq_trunc_iff hFinite, ← Binary64.integral_iff]
        exact hNot
      simp [hTrunc]
    case neg => simp [hFinite]
  unfold coreFromDouble cpuFromDouble simIrIntegerRawFromDouble backendCpuIntegerRawFromDouble
  simp only [CDouble.ne, Bool.or_assoc, ieee_isfinite, ieee_trunc, ieee_eq, hRefused, Bool.or_true,
    if_true, and_self]

/-- The word which a conversion returns for an integer that passes the check. -/
def acceptedWord (rest : CDouble Binary64) (value : Binary64) (domain : SimScalarDomain) (z : ℤ) :
    Option Word :=
  if rangeLow domain ≤ z ∧ z ≤ checkEnd domain then
    some (simIrIntegerTruncate (castWord rest value domain) domain)
  else none

theorem eq_trunc_of_holds (hHolds : value.Holds z) : Binary64.eq value.trunc value = true := by
  rw [Binary64.eq_trunc_iff hHolds.1, Binary64.toInt_of_holds hHolds]
  exact hHolds

/-- Range checks followed by a cast which succeeds on what they let pass. -/
theorem checked_eq {cast : Option Word} (hWidth : domain.bitWidth = 32 ∨ domain.bitWidth = 64)
    (hHolds : value.Holds z)
    (hCast : rangeLow domain ≤ z → z ≤ checkEnd domain →
      cast = some (simIrIntegerTruncate (castWord rest value domain) domain)) :
    (if Binary64.lt value (lowLimit domain) || Binary64.lt (highLimit domain) value then none
      else cast) = acceptedWord rest value domain z := by
  rw [acceptedWord, lt_lowLimit hWidth hHolds, highLimit_lt hWidth hHolds]
  by_cases hLow : rangeLow domain ≤ z
  case pos =>
    by_cases hHigh : z ≤ checkEnd domain
    case pos => simp [hLow, hHigh, hCast hLow hHigh]
    case neg => simp [hHigh, not_le.mp hHigh]
  case neg => simp [hLow, not_le.mp hLow]

theorem cpuFromDouble_of_holds (hInteger : domain.isInteger = true)
    (hWidth : domain.bitWidth = 32 ∨ domain.bitWidth = 64) (hHolds : value.Holds z) :
    cpuFromDouble rest value domain = acceptedWord rest value domain z := by
  rw [← checked_eq hWidth hHolds fun _ _ => rfl]
  unfold cpuFromDouble backendCpuIntegerRawFromDouble castWord lowLimit highLimit
  cases hSigned : domain.isSigned <;> obtain hBits | hBits := hWidth <;>
    simp [hInteger, CDouble.ne, eq_trunc_of_holds hHolds, hHolds.1, CDouble.gt, hBits, ite_or]

theorem castWord_signed (hSigned : domain.isSigned = true) (hHolds : value.Holds z)
    (hLow : -2 ^ 63 ≤ z) (hHigh : z < 2 ^ 63) :
    castWord rest value domain = BitVec.ofInt 64 z := by
  have hInt := Binary64.toInt_of_holds hHolds
  unfold castWord
  rw [if_pos hSigned]
  exact (if_pos ⟨hHolds.1, by rwa [hInt], by rwa [hInt]⟩).trans (by rw [hInt])

theorem castWord_unsigned (hUnsigned : domain.isSigned = false) (hHolds : value.Holds z)
    (hLow : 0 ≤ z) (hHigh : z < 2 ^ 64) :
    castWord rest value domain = BitVec.ofInt 64 z := by
  have hInt := Binary64.toInt_of_holds hHolds
  unfold castWord
  rw [if_neg (by simp [hUnsigned])]
  exact (if_pos ⟨hHolds.1, by rwa [hInt], by rwa [hInt]⟩).trans (by rw [hInt])

/-- A cast of an integer in a 32-bit range passes the second check of the core. -/
theorem rawFromSigned_of_holds (hInteger : domain.isInteger = true)
    (hSigned : domain.isSigned = true) (hWidth : domain.bitWidth = 32 ∨ domain.bitWidth = 64)
    (hHolds : value.Holds z) (hLow : rangeLow domain ≤ z) (hHigh : z ≤ checkEnd domain) :
    simIrIntegerRawFromSigned (castWord rest value domain) domain =
      some (simIrIntegerTruncate (castWord rest value domain) domain) := by
  obtain h32 | h64 := hWidth
  case inl =>
    simp only [rangeLow, checkEnd, rangeEnd, hSigned, h32, if_true] at hLow hHigh
    norm_num at hLow hHigh
    have hCast : (castWord rest value domain).toInt = z := by
      rw [castWord_signed hSigned hHolds (by omega) (by omega), BitVec.toInt_ofInt]
      exact Int.bmod_eq_of_le (by omega) (by omega)
    unfold simIrIntegerRawFromSigned
    rw [hCast, hInteger, hSigned, h32, if_neg (by simp), if_neg (by omega), if_neg (by simp),
      simIrIntegerFromI64]
  case inr => simp [simIrIntegerRawFromSigned, hInteger, hSigned, h64, simIrIntegerFromI64]

theorem rawFromUnsigned_of_holds (hInteger : domain.isInteger = true)
    (hUnsigned : domain.isSigned = false) (hWidth : domain.bitWidth = 32 ∨ domain.bitWidth = 64)
    (hHolds : value.Holds z) (hLow : rangeLow domain ≤ z) (hHigh : z ≤ checkEnd domain) :
    simIrIntegerRawFromUnsigned (castWord rest value domain) domain =
      some (simIrIntegerTruncate (castWord rest value domain) domain) := by
  obtain h32 | h64 := hWidth
  case inl =>
    simp only [rangeLow, checkEnd, rangeEnd, hUnsigned, h32, Bool.false_eq_true, if_false]
      at hLow hHigh
    norm_num at hLow hHigh
    have hCast : ((castWord rest value domain).toNat : ℤ) = z := by
      rw [castWord_unsigned hUnsigned hHolds (by omega) (by omega), BitVec.toNat_ofInt]
      omega
    unfold simIrIntegerRawFromUnsigned
    rw [hInteger, hUnsigned, h32, if_neg (by simp), if_neg (by omega), if_neg (by simp)]
  case inr => simp [simIrIntegerRawFromUnsigned, hInteger, hUnsigned, h64]

theorem coreFromDouble_of_holds (hInteger : domain.isInteger = true)
    (hWidth : domain.bitWidth = 32 ∨ domain.bitWidth = 64) (hHolds : value.Holds z) :
    coreFromDouble rest value domain = acceptedWord rest value domain z := by
  cases hSigned : domain.isSigned with
  | true =>
      rw [← checked_eq hWidth hHolds (rawFromSigned_of_holds hInteger hSigned hWidth hHolds)]
      unfold coreFromDouble simIrIntegerRawFromDouble castWord lowLimit highLimit
      obtain hBits | hBits := hWidth <;>
        simp [hInteger, CDouble.ne, eq_trunc_of_holds hHolds, hHolds.1, CDouble.gt, hSigned, hBits]
  | false =>
      rw [← checked_eq hWidth hHolds (rawFromUnsigned_of_holds hInteger hSigned hWidth hHolds)]
      unfold coreFromDouble simIrIntegerRawFromDouble castWord lowLimit highLimit
      obtain hBits | hBits := hWidth
      case inl =>
        simp [hInteger, CDouble.ne, eq_trunc_of_holds hHolds, hHolds.1, CDouble.gt, hSigned, hBits,
          ite_or]
      case inr =>
        simp [hInteger, CDouble.ne, eq_trunc_of_holds hHolds, hHolds.1, CDouble.gt, hSigned, hBits,
          ite_or]
        rfl

/-! ### What the words denote -/

theorem isMachineInteger (hInteger : domain.isInteger = true)
    (hWidth : domain.bitWidth = 32 ∨ domain.bitWidth = 64) : domain.IsMachineInteger :=
  ⟨hInteger, by omega, by omega⟩

theorem wrap_of_range (hWidth : domain.bitWidth = 32 ∨ domain.bitWidth = 64)
    (hLow : rangeLow domain ≤ z) (hHigh : z < rangeEnd domain) : domain.wrap z = z := by
  unfold SimScalarDomain.wrap
  unfold rangeLow at hLow
  unfold rangeEnd at hHigh
  cases hSigned : domain.isSigned with
  | true =>
      rw [if_pos hSigned] at hLow hHigh
      exact FixedWidth.wrap_signed_eq_self (by omega) hLow hHigh
  | false =>
      rw [if_neg (by simp [hSigned])] at hLow hHigh
      exact Int.emod_eq_of_lt hLow hHigh

theorem castWord_of_range (hWidth : domain.bitWidth = 32 ∨ domain.bitWidth = 64)
    (hHolds : value.Holds z) (hLow : rangeLow domain ≤ z) (hHigh : z < rangeEnd domain) :
    castWord rest value domain = BitVec.ofInt 64 z := by
  unfold rangeLow at hLow
  unfold rangeEnd at hHigh
  cases hSigned : domain.isSigned with
  | true =>
      rw [if_pos hSigned] at hLow hHigh
      obtain h32 | h64 := hWidth
      case inl =>
        norm_num [h32] at hLow hHigh
        exact castWord_signed hSigned hHolds (by omega) (by omega)
      case inr =>
        norm_num [h64] at hLow hHigh
        exact castWord_signed hSigned hHolds (by omega) (by omega)
  | false =>
      rw [if_neg (by simp [hSigned])] at hLow hHigh
      obtain h32 | h64 := hWidth
      case inl =>
        norm_num [h32] at hHigh
        exact castWord_unsigned hSigned hHolds hLow (by omega)
      case inr =>
        norm_num [h64] at hHigh
        exact castWord_unsigned hSigned hHolds hLow (by omega)

/-- The word of an integer in range denotes that integer. -/
theorem intValue_castWord (hDomain : domain.IsMachineInteger)
    (hWidth : domain.bitWidth = 32 ∨ domain.bitWidth = 64) (hHolds : value.Holds z)
    (hLow : rangeLow domain ≤ z) (hHigh : z < rangeEnd domain) :
    domain.intValue (simIrIntegerTruncate (castWord rest value domain) domain) = z := by
  rw [intValue_truncate hDomain, castWord_of_range hWidth hHolds hLow hHigh,
    intValue_eq_wrap_toInt hDomain, BitVec.toInt_ofInt]
  calc domain.wrap (z.bmod (2 ^ 64))
      = domain.wrap z := FixedWidth.wrap_bmod_machine (by omega) z
    _ = z := wrap_of_range hWidth hLow hHigh

/-- A word which denotes what a double holds is converted back to that value. -/
theorem coreToDouble_holds (hDomain : domain.IsMachineInteger) {raw : Word}
    (hHolds : value.Holds (domain.intValue raw)) :
    (coreToDouble rest raw domain).Holds (domain.intValue raw) := by
  unfold coreToDouble simIrIntegerRawToDouble
  cases hSigned : domain.isSigned with
  | true =>
      rw [if_pos rfl, ieee_ofI64, toInt_asI64 hDomain hSigned]
      apply Binary64.ofInt_exact _ hHolds
      rw [← toInt_asI64 hDomain hSigned]
      apply log2_le_of_lt
      have hLow := BitVec.le_toInt (simIrIntegerAsI64 raw domain)
      have hHigh := BitVec.toInt_lt (x := simIrIntegerAsI64 raw domain)
      omega
  | false =>
      rw [if_neg (by simp), ieee_ofU64]
      have hValue := toNat_truncate_unsigned hDomain hSigned raw
      rw [← hValue] at hHolds ⊢
      have hExact := Binary64.ofInt_exact (log2_le_of_lt (by simp; omega)) hHolds
      rwa [Binary64.ofInt_natCast] at hExact

/-! ### Exactness -/

theorem rangeLow_le_rangeEnd (domain : SimScalarDomain) : rangeLow domain ≤ rangeEnd domain := by
  have hSigned : (0 : ℤ) < 2 ^ (domain.bitWidth - 1) := by positivity
  have hUnsigned : (0 : ℤ) < 2 ^ domain.bitWidth := by positivity
  unfold rangeLow rangeEnd
  split_ifs <;> omega

/-- The largest integer that passes is outside the range at 64 bits alone. -/
theorem checkEnd_iff (hEnd : ¬ (domain.bitWidth = 64 ∧ z = rangeEnd domain)) :
    z ≤ checkEnd domain ↔ z < rangeEnd domain := by
  unfold checkEnd
  split_ifs <;> omega

/-- The result of a conversion which keeps to the range is exact. -/
theorem acceptedWord_exact (hInteger : domain.isInteger = true)
    (hWidth : domain.bitWidth = 32 ∨ domain.bitWidth = 64) (hHolds : value.Holds z)
    (hEnd : ¬ (domain.bitWidth = 64 ∧ z = rangeEnd domain)) :
    Exact rest value domain (acceptedWord rest value domain z) := by
  have hDomain := isMachineInteger hInteger hWidth
  have hDecoded : ∀ raw, acceptedWord rest value domain z = some raw →
      value.Holds (domain.intValue raw) := by
    intro raw hRaw
    unfold acceptedWord at hRaw
    split_ifs at hRaw with hRange
    cases hRaw
    rw [intValue_castWord hDomain hWidth hHolds hRange.1 ((checkEnd_iff hEnd).mp hRange.2)]
    exact hHolds
  exact
    { accepted := by
        unfold acceptedWord
        simp only [checkEnd_iff hEnd]
        constructor
        case mp =>
          intro hSome
          split_ifs at hSome with hRange
          · exact ⟨z, hHolds, hRange⟩
          · cases hSome
        case mpr =>
          intro hInRange
          obtain ⟨z', hHolds', hRange⟩ := hInRange
          rw [← Binary64.toInt_of_holds hHolds', Binary64.toInt_of_holds hHolds] at hRange
          rw [if_pos hRange]
          rfl
      decoded := hDecoded
      returned := fun raw hRaw =>
        Binary64.eq_of_holds (coreToDouble_holds hDomain (hDecoded raw hRaw)) (hDecoded raw hRaw) }

theorem none_exact (hNot : ¬ value.Integral) : Exact rest value domain none where
  accepted := by
    constructor
    case mp => intro hSome; cases hSome
    case mpr => exact fun hInRange => absurd ⟨_, hInRange.choose_spec.1⟩ hNot
  decoded := fun _ hRaw => nomatch hRaw
  returned := fun _ hRaw => nomatch hRaw

/-- The two copies of the conversion agree on every double. -/
theorem fromDouble_copies_agree (rest : CDouble Binary64) (value : Binary64)
    (hInteger : domain.isInteger = true)
    (hWidth : domain.bitWidth = 32 ∨ domain.bitWidth = 64) :
    coreFromDouble rest value domain = cpuFromDouble rest value domain := by
  by_cases hIntegral : value.Integral
  case pos =>
    obtain ⟨z, hHolds⟩ := hIntegral
    rw [coreFromDouble_of_holds hInteger hWidth hHolds,
      cpuFromDouble_of_holds hInteger hWidth hHolds]
  case neg =>
    obtain ⟨hCore, hCpu⟩ := @refused_of_not_integral rest value domain hIntegral
    rw [hCore, hCpu]

/-- Doubles whose undefined casts give the word of the x86 instruction. -/
@[reducible]
def x86Double : CDouble Binary64 where
  lit _ _ := ⟨0⟩
  nan := ⟨0x7FF8000000000000⟩
  pi := ⟨0x400921FB54442D18⟩
  add x _ := x
  sub x _ := x
  mul x _ := x
  div x _ := x
  neg x := x.neg
  eq x y := x.eq y
  lt x y := x.lt y
  le x y := x.le y
  isfinite x := x.isFinite
  sin x := x
  cos x := x
  exp x := x
  fabs x := x
  log x := x
  tanh x := x
  sinh x := x
  sqrt x := x
  floor x := x
  trunc x := x.trunc
  pow x _ := x
  fmod x _ := x
  copysign x _ := x
  cpow x _ := x
  ofI64 word := .ofInt word.toInt
  ofU64 word := .ofNat word.toNat
  toI64 _ := int64Min
  toU64 _ := int64Min
  toU32 _ := 0
  ofBits word := ⟨word⟩
  toBits x := x.bits
  digamma x := x
  trigamma x := x
  digamma7 x := x
  digamma5 x := x
  digammaTail x _ := x
  digammaMortici x := x
  indeterminate := ⟨0⟩

/-- The double `2 ^ 63` is accepted in the signed 64-bit domain, and becomes `-2 ^ 63`. -/
theorem twoPow63_not_exact :
    coreFromDouble x86Double ⟨0x43E0000000000000⟩ simScalarDomainI64 = some int64Min ∧
      simScalarDomainI64.intValue int64Min = -2 ^ 63 ∧
      ¬ FromDoubleExact x86Double ⟨0x43E0000000000000⟩ simScalarDomainI64 := by
  have hRun : coreFromDouble x86Double ⟨0x43E0000000000000⟩ simScalarDomainI64 = some int64Min := by
    decide +kernel
  refine ⟨hRun, by decide +kernel, fun hExact => ?_⟩
  have hHolds : Binary64.Holds ⟨0x43E0000000000000⟩ (2 ^ 63) := by decide +kernel
  have hDecoded := hExact.core.decoded int64Min hRun
  have hValue : simScalarDomainI64.intValue int64Min = 2 ^ 63 := by
    rw [← Binary64.toInt_of_holds hDecoded, Binary64.toInt_of_holds hHolds]
  exact absurd hValue (by decide +kernel)

/-- The conversions are exact on every double but the power of two just above the range
of a 64-bit domain, to which the limit of their range check is rounded. -/
theorem fromDoubleExact_iff (rest : CDouble Binary64) (value : Binary64) (domain : SimScalarDomain)
    (hInteger : domain.isInteger = true)
    (hWidth : domain.bitWidth = 32 ∨ domain.bitWidth = 64) :
    FromDoubleExact rest value domain ↔
      ¬ (domain.bitWidth = 64 ∧ value.Holds (rangeEnd domain)) := by
  constructor
  case mp =>
    intro hExact hEnd
    obtain ⟨h64, hHolds⟩ := hEnd
    have hAccepted := hExact.core.accepted
    rw [coreFromDouble_of_holds hInteger hWidth hHolds, acceptedWord, checkEnd, if_pos h64,
      if_pos ⟨rangeLow_le_rangeEnd domain, le_refl _⟩] at hAccepted
    obtain ⟨z, hHolds', -, hLt⟩ := hAccepted.mp rfl
    rw [← Binary64.toInt_of_holds hHolds', Binary64.toInt_of_holds hHolds] at hLt
    exact lt_irrefl _ hLt
  case mpr =>
    intro hEnd
    have hAgree := fromDouble_copies_agree rest value hInteger hWidth
    have hCore : Exact rest value domain (coreFromDouble rest value domain) := by
      by_cases hIntegral : value.Integral
      case pos =>
        obtain ⟨z, hHolds⟩ := hIntegral
        rw [coreFromDouble_of_holds hInteger hWidth hHolds]
        apply acceptedWord_exact hInteger hWidth hHolds
        exact fun hAt => hEnd ⟨hAt.1, hAt.2 ▸ hHolds⟩
      case neg =>
        rw [(refused_of_not_integral hIntegral).1]
        exact none_exact hIntegral
    exact ⟨hCore, hAgree ▸ hCore, hAgree⟩

/-- The double 5. -/
theorem fromDoubleExact_five : FromDoubleExact x86Double ⟨0x4014000000000000⟩ simScalarDomainI64 :=
  (fromDoubleExact_iff x86Double ⟨0x4014000000000000⟩ simScalarDomainI64 rfl (.inr rfl)).mpr
    (by decide +kernel)

end Oakfield.Cpu
