import Oakfield.KernelIR.CDouble
import Oakfield.KernelIR.ScalarDomain
import Oakfield.Library.FixedWidth

/-! Integers of a scalar domain as raw 64-bit words: truncation, sign
extension and checked conversions. -/
namespace Oakfield.KernelIR

/-- Raw bits, `uint64_t` and, reinterpreted, `int64_t`. -/
abbrev Word := BitVec 64

def simIrIntegerMask (domain : SimScalarDomain) : Word :=
  if 64 ≤ domain.bitWidth then BitVec.allOnes 64 else (1#64 <<< domain.bitWidth) - 1#64

def simIrIntegerTruncate (raw : Word) (domain : SimScalarDomain) : Word :=
  if 64 ≤ domain.bitWidth then raw else raw &&& simIrIntegerMask domain

def simIrIntegerAsI64 (raw : Word) (domain : SimScalarDomain) : Word :=
  let raw := simIrIntegerTruncate raw domain
  if !domain.isSigned then raw
  else if 64 ≤ domain.bitWidth then raw
  else if raw &&& (1#64 <<< (domain.bitWidth - 1)) ≠ 0 then raw ||| ~~~simIrIntegerMask domain
  else raw

def simIrIntegerFromI64 (value : Word) (domain : SimScalarDomain) : Word :=
  simIrIntegerTruncate value domain

/-- `sim_ir_integer_raw_from_signed` of the `int64_t` in `value`. -/
def simIrIntegerRawFromSigned (value : Word) (domain : SimScalarDomain) : Option Word :=
  if !domain.isInteger || !domain.isSigned then none
  else if domain.bitWidth = 32 ∧ (value.toInt < -2 ^ 31 ∨ 2 ^ 31 - 1 < value.toInt) then none
  else if domain.bitWidth ≠ 32 ∧ domain.bitWidth ≠ 64 then none
  else some (simIrIntegerFromI64 value domain)

/-- `sim_ir_integer_raw_from_unsigned` of the `uint64_t` in `value`. -/
def simIrIntegerRawFromUnsigned (value : Word) (domain : SimScalarDomain) : Option Word :=
  if !domain.isInteger || domain.isSigned then none
  else if domain.bitWidth = 32 ∧ 2 ^ 32 - 1 < value.toNat then none
  else if domain.bitWidth ≠ 32 ∧ domain.bitWidth ≠ 64 then none
  else some (simIrIntegerTruncate value domain)

section Double

variable {D : Type} [CDouble D]

open CDouble

/-- `INT64_MIN`, `INT64_MAX` and `UINT64_MAX` as words. -/
def int64Min : Word := BitVec.intMin 64

def int64Max : Word := BitVec.intMax 64

def uint64Max : Word := BitVec.allOnes 64

/-- `sim_ir_integer_raw_from_double`. -/
def simIrIntegerRawFromDouble (value : D) (domain : SimScalarDomain) : Option Word :=
  if !domain.isInteger || !isfinite value || ne (trunc value) value then none
  else if domain.isSigned then
    if domain.bitWidth = 32 then
      if lt value (ofI64 (BitVec.ofInt 64 (-2 ^ 31))) || gt value (ofI64 (BitVec.ofInt 64 (2 ^ 31 - 1)))
      then none
      else simIrIntegerRawFromSigned (toI64 value) domain
    else if lt value (ofI64 int64Min) || gt value (ofI64 int64Max) then none
    else simIrIntegerRawFromSigned (toI64 value) domain
  else if lt value zero then none
  else if domain.bitWidth = 32 then
    if gt value (ofU64 (BitVec.ofNat 64 (2 ^ 32 - 1))) then none
    else simIrIntegerRawFromUnsigned (toU64 value) domain
  else if gt value (ofU64 uint64Max) then none
  else simIrIntegerRawFromUnsigned (toU64 value) domain

/-- `sim_ir_integer_raw_to_double`. -/
def simIrIntegerRawToDouble (raw : Word) (domain : SimScalarDomain) : D :=
  if domain.isSigned then ofI64 (simIrIntegerAsI64 raw domain)
  else ofU64 (simIrIntegerTruncate raw domain)

end Double

/-- `lhs / rhs` on `int64_t`. A zero divisor and `INT64_MIN / -1` trap. -/
def i64Div (lhs rhs : Word) : Option Word :=
  if rhs = 0 ∨ (lhs = int64Min ∧ rhs = -1) then none else some (lhs.sdiv rhs)

/-- `lhs % rhs` on `int64_t`, with the traps of the division. -/
def i64Mod (lhs rhs : Word) : Option Word :=
  if rhs = 0 ∨ (lhs = int64Min ∧ rhs = -1) then none else some (lhs.srem rhs)

/-- The square-and-multiply loop of integer powers. `fuel` bounds the number of
halvings of the exponent, of which a 64-bit word allows 64. -/
def simIrIntegerPowLoop (domain : SimScalarDomain) : ℕ → Word → Word → Word → Word
  | 0, _, _, accum => accum
  | fuel + 1, exponent, base, accum =>
      if exponent = 0 then accum
      else
        let accum := if exponent &&& 1 ≠ 0 then simIrIntegerTruncate (accum * base) domain else accum
        let exponent := exponent >>> 1
        let base := if exponent ≠ 0 then simIrIntegerTruncate (base * base) domain else base
        simIrIntegerPowLoop domain fuel exponent base accum

/-! ### Values of raw words -/

/-- An integer domain which fits in a machine word. -/
def SimScalarDomain.IsMachineInteger (domain : SimScalarDomain) : Prop :=
  domain.isInteger = true ∧ 0 < domain.bitWidth ∧ domain.bitWidth ≤ 64

/-- The integer domain of a value type is 8, 32 or 64 bits wide. -/
theorem SimIRType.isMachineInteger {type : SimIRType} (hInteger : type.domain.isInteger = true) :
    type.domain.IsMachineInteger := by
  have hValid := (type.scalarDomain.validate_orF64).1
  rw [← type.domain_eq, SimScalarDomain.validate] at hValid
  have hKind : type.domain.kind = .integer := by simpa [SimScalarDomain.isInteger] using hInteger
  rw [hKind] at hValid
  simp only [Bool.and_eq_true, Bool.or_eq_true, beq_iff_eq] at hValid
  exact ⟨hInteger, by omega, by omega⟩

/-- The residue class of an integer in the range of the domain. -/
def SimScalarDomain.wrap (domain : SimScalarDomain) (z : ℤ) : ℤ :=
  Library.FixedWidth.wrap domain.isSigned domain.bitWidth z

/-- The integer denoted by raw bits of the domain. -/
def SimScalarDomain.intValue (domain : SimScalarDomain) (raw : Word) : ℤ :=
  Library.FixedWidth.wordValue domain.isSigned domain.bitWidth raw

open Library

variable {domain : SimScalarDomain}

theorem toNat_truncate (hDomain : domain.IsMachineInteger) (raw : Word) :
    (simIrIntegerTruncate raw domain).toNat = raw.toNat % 2 ^ domain.bitWidth := by
  unfold simIrIntegerTruncate simIrIntegerMask
  split
  case isTrue hWide =>
    rw [show domain.bitWidth = 64 by have := hDomain.2.2; omega,
      Nat.mod_eq_of_lt raw.isLt]
  case isFalse hNarrow => exact FixedWidth.toNat_and_mask (by omega) raw

/-- Truncation keeps the value. -/
@[simp]
theorem intValue_truncate (hDomain : domain.IsMachineInteger) (raw : Word) :
    domain.intValue (simIrIntegerTruncate raw domain) = domain.intValue raw := by
  unfold SimScalarDomain.intValue FixedWidth.wordValue
  rw [toNat_truncate hDomain]
  refine FixedWidth.wrap_congr ?_
  push_cast
  exact Int.emod_emod_of_dvd _ (dvd_refl _)

@[simp]
theorem intValue_fromI64 (hDomain : domain.IsMachineInteger) (value : Word) :
    domain.intValue (simIrIntegerFromI64 value domain) = domain.intValue value :=
  intValue_truncate hDomain value

/-- Truncated words with the same value are the same word. -/
theorem truncate_eq_of_intValue_eq (hDomain : domain.IsMachineInteger) {x y : Word}
    (hValue : domain.intValue x = domain.intValue y) :
    simIrIntegerTruncate x domain = simIrIntegerTruncate y domain := by
  have hMod : (x.toNat : ℤ) % 2 ^ domain.bitWidth = (y.toNat : ℤ) % 2 ^ domain.bitWidth := by
    rw [← @FixedWidth.wrap_emod domain.isSigned domain.bitWidth (x.toNat : ℤ),
      ← @FixedWidth.wrap_emod domain.isSigned domain.bitWidth (y.toNat : ℤ)]
    exact congrArg (· % 2 ^ domain.bitWidth) hValue
  apply BitVec.eq_of_toNat_eq
  rw [toNat_truncate hDomain, toNat_truncate hDomain]
  exact_mod_cast hMod

/-- The signed view of a word is its value in a signed domain. -/
theorem toInt_asI64 (hDomain : domain.IsMachineInteger) (hSigned : domain.isSigned = true)
    (raw : Word) : (simIrIntegerAsI64 raw domain).toInt = domain.intValue raw := by
  unfold SimScalarDomain.intValue
  rw [hSigned, ← FixedWidth.toInt_signExtend_low hDomain.2.2]
  unfold simIrIntegerAsI64 simIrIntegerTruncate simIrIntegerMask
  rw [hSigned]
  by_cases hWide : 64 ≤ domain.bitWidth
  · have hWidth : domain.bitWidth = 64 := by have := hDomain.2.2; omega
    generalize domain.bitWidth = width at hWidth ⊢
    subst hWidth
    simp
  · simp only [hWide, if_false, Bool.not_true, Bool.false_eq_true]
    rw [FixedWidth.signExtend_eq hDomain.2.1 (by omega)]

/-- The unsigned view of a truncated word is its value in an unsigned domain. -/
theorem toNat_truncate_unsigned (hDomain : domain.IsMachineInteger)
    (hSigned : domain.isSigned = false) (raw : Word) :
    ((simIrIntegerTruncate raw domain).toNat : ℤ) = domain.intValue raw := by
  rw [toNat_truncate hDomain, SimScalarDomain.intValue, FixedWidth.wordValue, FixedWidth.wrap,
    hSigned]
  push_cast
  rfl

theorem intValue_add (hDomain : domain.IsMachineInteger) (x y : Word) :
    domain.intValue (x + y) = domain.wrap (domain.intValue x + domain.intValue y) :=
  FixedWidth.wordValue_add hDomain.2.2 x y

theorem intValue_sub (hDomain : domain.IsMachineInteger) (x y : Word) :
    domain.intValue (x - y) = domain.wrap (domain.intValue x - domain.intValue y) :=
  FixedWidth.wordValue_sub hDomain.2.2 x y

theorem intValue_mul (hDomain : domain.IsMachineInteger) (x y : Word) :
    domain.intValue (x * y) = domain.wrap (domain.intValue x * domain.intValue y) :=
  FixedWidth.wordValue_mul hDomain.2.2 x y

theorem intValue_eq_wrap_toInt (hDomain : domain.IsMachineInteger) (x : Word) :
    domain.intValue x = domain.wrap x.toInt :=
  FixedWidth.wordValue_eq_wrap_toInt hDomain.2.2 x

@[simp]
theorem wrap_intValue (x : Word) : domain.wrap (domain.intValue x) = domain.intValue x :=
  FixedWidth.wrap_wrap _

end Oakfield.KernelIR
