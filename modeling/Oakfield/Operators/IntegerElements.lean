import Oakfield.Field
import Oakfield.KernelIR.IntegerArithmetic
import Oakfield.Library.Loop

/-! Integer elements of fields as the operators read, compare and write them. -/
namespace Oakfield

open KernelIR CDouble

variable {D : Type} [CDouble D] {domain : SimScalarDomain} {raw raw' : Word}

/-- `sim_operator_domain_is_exact_integer`. -/
def simOperatorDomainIsExactInteger (domain : SimScalarDomain) : Bool :=
  domain.isInteger && (domain.bitWidth == 8 || domain.bitWidth == 32 || domain.bitWidth == 64)

def simOperatorIntegerMask (domain : SimScalarDomain) : Word :=
  if domain.bitWidth = 0 then 0
  else if 64 ≤ domain.bitWidth then BitVec.allOnes 64
  else (1#64 <<< domain.bitWidth) - 1#64

def simOperatorIntegerTruncate (raw : Word) (domain : SimScalarDomain) : Word :=
  if !simOperatorDomainIsExactInteger domain then 0
  else if 64 ≤ domain.bitWidth then raw
  else raw &&& simOperatorIntegerMask domain

/-- `sim_operator_integer_as_i64`, the `int64_t` as a word. -/
def simOperatorIntegerAsI64 (raw : Word) (domain : SimScalarDomain) : Word :=
  let raw := simOperatorIntegerTruncate raw domain
  if !simOperatorDomainIsExactInteger domain then 0
  else if !domain.isSigned || decide (64 ≤ domain.bitWidth) then raw
  else if raw &&& (1#64 <<< (domain.bitWidth - 1)) ≠ 0 then raw ||| ~~~simOperatorIntegerMask domain
  else raw

/-- `sim_operator_integer_raw_from_signed` of the `int64_t` in `value`. -/
def simOperatorIntegerRawFromSigned (value : Word) (domain : SimScalarDomain) : Option Word :=
  if !simOperatorDomainIsExactInteger domain || !domain.isSigned then none
  else if domain.bitWidth = 8 ∧ (value.toInt < -2 ^ 7 ∨ 2 ^ 7 - 1 < value.toInt) then none
  else if domain.bitWidth = 32 ∧ (value.toInt < -2 ^ 31 ∨ 2 ^ 31 - 1 < value.toInt) then none
  else some (simOperatorIntegerTruncate value domain)

def simOperatorIntegerRawFromUnsigned (value : Word) (domain : SimScalarDomain) : Option Word :=
  if !simOperatorDomainIsExactInteger domain || domain.isSigned then none
  else if domain.bitWidth = 8 ∧ 2 ^ 8 - 1 < value.toNat then none
  else if domain.bitWidth = 32 ∧ 2 ^ 32 - 1 < value.toNat then none
  else some (simOperatorIntegerTruncate value domain)

/-- `sim_operator_integer_compare`: negative, zero or positive. -/
def simOperatorIntegerCompare (lhs rhs : Word) (domain : SimScalarDomain) : ℤ :=
  if !simOperatorDomainIsExactInteger domain then 0
  else
    let lhs := simOperatorIntegerTruncate lhs domain
    let rhs := simOperatorIntegerTruncate rhs domain
    if domain.isSigned then
      let lhs := simOperatorIntegerAsI64 lhs domain
      let rhs := simOperatorIntegerAsI64 rhs domain
      if lhs.toInt < rhs.toInt then -1 else if rhs.toInt < lhs.toInt then 1 else 0
    else if lhs.toNat < rhs.toNat then -1 else if rhs.toNat < lhs.toNat then 1 else 0

/-- Element `index` of an array of `w`-bit integers, converted to `uint64_t`. -/
def FieldData.loadSigned (data : FieldData D) (w index : ℕ) : Word :=
  ((data.word index).setWidth w).signExtend 64

def FieldData.loadUnsigned (data : FieldData D) (w index : ℕ) : Word :=
  ((data.word index).setWidth w).setWidth 64

/-- Store a word in an array of `w`-bit integers. -/
def FieldData.store (data : FieldData D) (w index : ℕ) (value : Word) : FieldData D :=
  data.setWord index ((value.setWidth w).setWidth 64)

/-- `sim_operator_integer_read`. -/
def simOperatorIntegerRead (data : FieldData D) (domain : SimScalarDomain) (index : ℕ) :
    Option Word :=
  if !simOperatorDomainIsExactInteger domain then none
  else if domain = simScalarDomainI8 then
    some (simOperatorIntegerTruncate (data.loadSigned 8 index) domain)
  else if domain = simScalarDomainI32 then
    some (simOperatorIntegerTruncate (data.loadSigned 32 index) domain)
  else if domain = simScalarDomainI64 then
    some (simOperatorIntegerTruncate (data.loadSigned 64 index) domain)
  else if domain = simScalarDomainU8 then
    some (simOperatorIntegerTruncate (data.loadUnsigned 8 index) domain)
  else if domain = simScalarDomainU32 then
    some (simOperatorIntegerTruncate (data.loadUnsigned 32 index) domain)
  else if domain = simScalarDomainU64 then
    some (simOperatorIntegerTruncate (data.loadUnsigned 64 index) domain)
  else none

/-- `sim_operator_integer_write`. -/
def simOperatorIntegerWrite (data : FieldData D) (domain : SimScalarDomain) (index : ℕ)
    (raw : Word) : Option (FieldData D) :=
  let raw := simOperatorIntegerTruncate raw domain
  if !simOperatorDomainIsExactInteger domain then none
  else if domain = simScalarDomainI8 then
    some (data.store 8 index (simOperatorIntegerAsI64 raw domain))
  else if domain = simScalarDomainI32 then
    some (data.store 32 index (simOperatorIntegerAsI64 raw domain))
  else if domain = simScalarDomainI64 then
    some (data.store 64 index (simOperatorIntegerAsI64 raw domain))
  else if domain = simScalarDomainU8 then
    some (data.store 8 index (simOperatorIntegerTruncate raw domain))
  else if domain = simScalarDomainU32 then
    some (data.store 32 index (simOperatorIntegerTruncate raw domain))
  else if domain = simScalarDomainU64 then
    some (data.store 64 index (simOperatorIntegerTruncate raw domain))
  else none

theorem setWidth_loadSigned {w : ℕ} (hWidth : w ≤ 64) (data : FieldData D) (index : ℕ) :
    (data.loadSigned w index).setWidth w = (data.word index).setWidth w := by
  apply BitVec.eq_of_getLsbD_eq
  intro i hLt
  rw [FieldData.loadSigned, BitVec.getLsbD_setWidth, BitVec.getLsbD_signExtend]
  simp [hLt, Nat.lt_of_lt_of_le hLt hWidth]

theorem setWidth_loadUnsigned {w : ℕ} (hWidth : w ≤ 64) (data : FieldData D) (index : ℕ) :
    (data.loadUnsigned w index).setWidth w = (data.word index).setWidth w := by
  apply BitVec.eq_of_getLsbD_eq
  intro i hLt
  rw [FieldData.loadUnsigned, BitVec.getLsbD_setWidth, BitVec.getLsbD_setWidth]
  simp [hLt, Nat.lt_of_lt_of_le hLt hWidth]

/-! ### Values -/

/-- The domains whose elements can be read: valid exact integers. -/
def HasIntegerElements (domain : SimScalarDomain) : Prop :=
  domain = simScalarDomainI8 ∨ domain = simScalarDomainI32 ∨ domain = simScalarDomainI64 ∨
    domain = simScalarDomainU8 ∨ domain = simScalarDomainU32 ∨ domain = simScalarDomainU64

theorem hasIntegerElements_of_validate (hExact : simOperatorDomainIsExactInteger domain = true)
    (hValid : domain.validate = true) : HasIntegerElements domain := by
  obtain ⟨kind, width, signed, modulus⟩ := domain
  simp only [simOperatorDomainIsExactInteger, SimScalarDomain.isInteger, Bool.and_eq_true,
    Bool.or_eq_true, beq_iff_eq] at hExact
  obtain ⟨rfl, hWidth⟩ := hExact
  simp only [SimScalarDomain.validate, Bool.and_eq_true, beq_iff_eq] at hValid
  obtain ⟨-, rfl⟩ := hValid
  unfold HasIntegerElements
  rcases hWidth with (rfl | rfl) | rfl <;> cases signed <;> decide

namespace HasIntegerElements

variable (hDomain : HasIntegerElements domain)

include hDomain

theorem exact : simOperatorDomainIsExactInteger domain = true := by
  rcases hDomain with rfl | rfl | rfl | rfl | rfl | rfl <;> rfl

theorem isMachineInteger : domain.IsMachineInteger := by
  unfold SimScalarDomain.IsMachineInteger
  rcases hDomain with rfl | rfl | rfl | rfl | rfl | rfl <;> decide

theorem truncate_eq (raw : Word) :
    simOperatorIntegerTruncate raw domain = simIrIntegerTruncate raw domain := by
  have hPos : domain.bitWidth ≠ 0 := Nat.ne_of_gt hDomain.isMachineInteger.2.1
  unfold simOperatorIntegerTruncate simIrIntegerTruncate simOperatorIntegerMask simIrIntegerMask
  rw [hDomain.exact, if_neg hPos]
  rfl

theorem asI64_eq (raw : Word) :
    simOperatorIntegerAsI64 raw domain = simIrIntegerAsI64 raw domain := by
  have hPos : domain.bitWidth ≠ 0 := Nat.ne_of_gt hDomain.isMachineInteger.2.1
  unfold simOperatorIntegerAsI64 simIrIntegerAsI64
  rw [hDomain.truncate_eq, hDomain.exact]
  unfold simOperatorIntegerMask simIrIntegerMask
  rw [if_neg hPos]
  cases domain.isSigned with
  | false => rfl
  | true => by_cases hWide : 64 ≤ domain.bitWidth <;> simp [hWide]

/-- The `int64_t` of raw bits is their integer in a signed domain. -/
theorem toInt_asI64 (hSigned : domain.isSigned = true) (raw : Word) :
    (simOperatorIntegerAsI64 raw domain).toInt = domain.intValue raw := by
  rw [hDomain.asI64_eq, KernelIR.toInt_asI64 hDomain.isMachineInteger hSigned]

/-- The `uint64_t` of raw bits is their integer in an unsigned domain. -/
theorem toNat_truncate (hSigned : domain.isSigned = false) (raw : Word) :
    ((simOperatorIntegerTruncate raw domain).toNat : ℤ) = domain.intValue raw := by
  rw [hDomain.truncate_eq, toNat_truncate_unsigned hDomain.isMachineInteger hSigned]

@[simp]
theorem intValue_truncate (raw : Word) :
    domain.intValue (simOperatorIntegerTruncate raw domain) = domain.intValue raw := by
  rw [hDomain.truncate_eq, KernelIR.intValue_truncate hDomain.isMachineInteger]

theorem compare_le_iff (lhs rhs : Word) :
    simOperatorIntegerCompare lhs rhs domain ≤ 0 ↔ domain.intValue lhs ≤ domain.intValue rhs := by
  unfold simOperatorIntegerCompare
  rw [hDomain.exact]
  dsimp only
  rw [if_neg (by decide)]
  cases hSigned : domain.isSigned with
  | true =>
      rw [if_pos rfl, hDomain.toInt_asI64 hSigned, hDomain.toInt_asI64 hSigned,
        hDomain.intValue_truncate, hDomain.intValue_truncate]
      split
      · omega
      split <;> omega
  | false =>
      rw [if_neg Bool.false_ne_true, ← hDomain.toNat_truncate hSigned lhs,
        ← hDomain.toNat_truncate hSigned rhs]
      split
      · omega
      split <;> omega

theorem truncate_congr {x y : Word}
    (hSame : x.setWidth domain.bitWidth = y.setWidth domain.bitWidth) :
    simOperatorIntegerTruncate x domain = simOperatorIntegerTruncate y domain := by
  rw [hDomain.truncate_eq, hDomain.truncate_eq]
  apply BitVec.eq_of_toNat_eq
  rw [KernelIR.toNat_truncate hDomain.isMachineInteger,
    KernelIR.toNat_truncate hDomain.isMachineInteger, ← BitVec.toNat_setWidth, hSame,
    BitVec.toNat_setWidth]

/-- An element is read as the raw bits of its width. -/
theorem read_eq (data : FieldData D) (index : ℕ) :
    simOperatorIntegerRead data domain index =
      some (simOperatorIntegerTruncate (data.word index) domain) := by
  rcases id hDomain with rfl | rfl | rfl | rfl | rfl | rfl
  · exact congrArg some (hDomain.truncate_congr (setWidth_loadSigned (by decide) data index))
  · exact congrArg some (hDomain.truncate_congr (setWidth_loadSigned (by decide) data index))
  · exact congrArg some (hDomain.truncate_congr (setWidth_loadSigned (by decide) data index))
  · exact congrArg some (hDomain.truncate_congr (setWidth_loadUnsigned (by decide) data index))
  · exact congrArg some (hDomain.truncate_congr (setWidth_loadUnsigned (by decide) data index))
  · exact congrArg some (hDomain.truncate_congr (setWidth_loadUnsigned (by decide) data index))

theorem truncate_zero : simOperatorIntegerTruncate 0 domain = 0 := by
  rcases hDomain with rfl | rfl | rfl | rfl | rfl | rfl <;> decide

/-- A zero is the same word in every domain. -/
theorem write_zero (data : FieldData D) (index : ℕ) :
    simOperatorIntegerWrite data domain index 0 = some (data.setWord index 0) := by
  rcases hDomain with rfl | rfl | rfl | rfl | rfl | rfl <;>
    exact congrArg (fun value => some (data.setWord index value)) (by decide)

end HasIntegerElements

end Oakfield
