import Oakfield.KernelIR.IntegerWord
import Oakfield.KernelIR.Node

/-! Binary integer operations of the core evaluator against fixed-width
two's-complement arithmetic. -/
namespace Oakfield.KernelIR

/-- Signed quotient, with the overflowing pair of the 64-bit domain set apart. -/
def simIrIntegerSignedDiv (domain : SimScalarDomain) (lhs rhs : Word) : Option Word :=
  if lhs = int64Min ∧ rhs = -1 ∧ domain.bitWidth = 64 then
    some (simIrIntegerFromI64 int64Min domain)
  else (i64Div lhs rhs).map (simIrIntegerFromI64 · domain)

def simIrIntegerSignedMod (domain : SimScalarDomain) (lhs rhs : Word) : Option Word :=
  if rhs = -1 then some (simIrIntegerFromI64 0 domain)
  else (i64Mod lhs rhs).map (simIrIntegerFromI64 · domain)

/-- The binary cases of `sim_ir_evaluate_impl_integer`; `none` is a trap. -/
def simIrIntegerBinary (domain : SimScalarDomain) (op : SimIRBinaryOp) (lhsRaw rhsRaw : Word) :
    Option (Except SimError Word) :=
  match op with
  | .add => some (.ok (simIrIntegerTruncate (lhsRaw + rhsRaw) domain))
  | .sub => some (.ok (simIrIntegerTruncate (lhsRaw - rhsRaw) domain))
  | .mul => some (.ok (simIrIntegerTruncate (lhsRaw * rhsRaw) domain))
  | .div =>
      if simIrIntegerTruncate rhsRaw domain = 0 then some (.error .invalidArgument)
      else if domain.isSigned then
        (simIrIntegerSignedDiv domain (simIrIntegerAsI64 lhsRaw domain)
          (simIrIntegerAsI64 rhsRaw domain)).map .ok
      else
        some (.ok (simIrIntegerTruncate lhsRaw domain / simIrIntegerTruncate rhsRaw domain))
  | .mod =>
      if simIrIntegerTruncate rhsRaw domain = 0 then some (.error .invalidArgument)
      else if domain.isSigned then
        (simIrIntegerSignedMod domain (simIrIntegerAsI64 lhsRaw domain)
          (simIrIntegerAsI64 rhsRaw domain)).map .ok
      else
        some (.ok (simIrIntegerTruncate lhsRaw domain % simIrIntegerTruncate rhsRaw domain))
  | .pow =>
      let base := simIrIntegerTruncate lhsRaw domain
      let accum := simIrIntegerTruncate 1 domain
      if domain.isSigned then
        let signedExp := simIrIntegerAsI64 rhsRaw domain
        if signedExp.toInt < 0 then some (.error .invalidArgument)
        else some (.ok (simIrIntegerPowLoop domain 64 signedExp base accum))
      else some (.ok (simIrIntegerPowLoop domain 64 (simIrIntegerTruncate rhsRaw domain) base accum))

/-! ### Reference arithmetic -/

/-- Fixed-width arithmetic on integers: the exact result reduced to the range
of the domain, undefined for a zero divisor or a negative exponent. -/
def referenceBinary (domain : SimScalarDomain) (op : SimIRBinaryOp) (x y : ℤ) : Option ℤ :=
  match op with
  | .add => some (domain.wrap (x + y))
  | .sub => some (domain.wrap (x - y))
  | .mul => some (domain.wrap (x * y))
  | .div => if y = 0 then none else some (domain.wrap (x.tdiv y))
  | .mod => if y = 0 then none else some (domain.wrap (x.tmod y))
  | .pow => if y < 0 then none else some (domain.wrap (x ^ y.toNat))

variable {domain : SimScalarDomain}

/-- The truncated word is zero exactly when its value is. -/
theorem truncate_eq_zero_iff (hDomain : domain.IsMachineInteger) (raw : Word) :
    simIrIntegerTruncate raw domain = 0 ↔ domain.intValue raw = 0 := by
  have hZero : domain.intValue 0 = 0 := by
    simp [SimScalarDomain.intValue, Library.FixedWidth.wordValue, Library.FixedWidth.wrap]
  constructor
  · intro hEq
    rw [← intValue_truncate hDomain, hEq, hZero]
  · intro hValue
    rw [truncate_eq_of_intValue_eq hDomain (hValue.trans hZero.symm)]
    simp [simIrIntegerTruncate]

theorem asI64_ne_zero (hDomain : domain.IsMachineInteger) (hSigned : domain.isSigned = true)
    {raw : Word} (hNe : domain.intValue raw ≠ 0) : simIrIntegerAsI64 raw domain ≠ 0 := by
  intro hEq
  apply hNe
  rw [← toInt_asI64 hDomain hSigned, hEq]
  rfl

/-- A signed 64-bit quotient or remainder which does not trap is exact. -/
theorem toInt_i64Div {lhs rhs : Word} (hRhs : rhs ≠ 0) (hPair : ¬(lhs = int64Min ∧ rhs = -1)) :
    i64Div lhs rhs = some (lhs.sdiv rhs) := by
  rw [i64Div, if_neg]
  exact fun h => h.elim hRhs hPair

theorem toInt_i64Mod {lhs rhs : Word} (hRhs : rhs ≠ 0) (hPair : rhs ≠ -1) :
    i64Mod lhs rhs = some (lhs.srem rhs) := by
  rw [i64Mod, if_neg]
  exact fun h => h.elim hRhs fun h => hPair h.2

theorem toInt_neg_one : (-1 : Word).toInt = -1 := by decide

theorem wrap_toInt (hDomain : domain.IsMachineInteger) (x : Word) (z : ℤ)
    (hToInt : x.toInt = z.bmod (2 ^ 64)) : domain.intValue x = domain.wrap z := by
  rw [intValue_eq_wrap_toInt hDomain, hToInt]
  exact Library.FixedWidth.wrap_bmod_machine hDomain.2.2 z

/-- Signed division never traps and is truncating division reduced to the
range of the domain; the pair `INT64_MIN`, `-1` wraps. -/
theorem simIrIntegerSignedDiv_spec (hDomain : domain.IsMachineInteger) (lhs : Word) {rhs : Word}
    (hRhs : rhs ≠ 0) (hRange : lhs = int64Min → domain.bitWidth = 64) :
    ∃ raw, simIrIntegerSignedDiv domain lhs rhs = some raw ∧
      domain.intValue raw = domain.wrap (lhs.toInt.tdiv rhs.toInt) := by
  unfold simIrIntegerSignedDiv
  split
  case isTrue hPair =>
    refine ⟨_, rfl, ?_⟩
    rw [intValue_fromI64 hDomain, hPair.1, hPair.2.1, toInt_neg_one]
    exact wrap_toInt hDomain _ _ (by decide)
  case isFalse hPair =>
    rw [toInt_i64Div hRhs fun h => hPair ⟨h.1, h.2, hRange h.1⟩]
    refine ⟨_, rfl, ?_⟩
    rw [intValue_fromI64 hDomain]
    exact wrap_toInt hDomain _ _ (BitVec.toInt_sdiv lhs rhs)

theorem simIrIntegerSignedMod_spec (hDomain : domain.IsMachineInteger) (lhs : Word) {rhs : Word}
    (hRhs : rhs ≠ 0) :
    ∃ raw, simIrIntegerSignedMod domain lhs rhs = some raw ∧
      domain.intValue raw = domain.wrap (lhs.toInt.tmod rhs.toInt) := by
  unfold simIrIntegerSignedMod
  split
  case isTrue hOne =>
    refine ⟨_, rfl, ?_⟩
    rw [intValue_fromI64 hDomain, hOne, toInt_neg_one, Int.tmod_neg,
      Int.tmod_one]
    exact wrap_toInt hDomain _ _ (by decide)
  case isFalse hOne =>
    rw [toInt_i64Mod hRhs hOne]
    refine ⟨_, rfl, ?_⟩
    rw [intValue_fromI64 hDomain, intValue_eq_wrap_toInt hDomain,
      BitVec.toInt_srem]

/-- A narrow signed value is never `INT64_MIN`. -/
theorem width_of_asI64_eq_min (hDomain : domain.IsMachineInteger)
    (hSigned : domain.isSigned = true) {raw : Word}
    (hMin : simIrIntegerAsI64 raw domain = int64Min) : domain.bitWidth = 64 := by
  have hValue := toInt_asI64 hDomain hSigned raw
  have hLow := (Library.FixedWidth.wrap_signed_bounds hDomain.2.1 (raw.toNat : ℤ)).1
  rw [hMin, SimScalarDomain.intValue, Library.FixedWidth.wordValue, hSigned] at hValue
  rw [← hValue] at hLow
  by_contra hNarrow
  have hPow : (2 : ℤ) ^ (domain.bitWidth - 1) ≤ 2 ^ 62 :=
    pow_le_pow_right₀ (by decide) (by have := hDomain.2.2; omega)
  have hMinValue : int64Min.toInt = -2 ^ 63 := by decide
  omega

/-- A truncated product denotes the product up to the width of the domain. -/
theorem intValue_truncate_mul_emod (hDomain : domain.IsMachineInteger) (x y : Word) :
    domain.intValue (simIrIntegerTruncate (x * y) domain) % 2 ^ domain.bitWidth =
      (domain.intValue x * domain.intValue y) % 2 ^ domain.bitWidth := by
  rw [intValue_truncate hDomain, intValue_mul hDomain]
  exact Library.FixedWidth.wrap_emod _

theorem toNat_and_one (x : Word) : (x &&& 1 ≠ 0) ↔ x.toNat % 2 = 1 := by
  have hAnd : (x &&& 1).toNat = x.toNat % 2 := by
    rw [BitVec.toNat_and]
    exact Nat.and_one_is_mod _
  constructor
  · intro hNe
    by_contra hEven
    exact hNe (BitVec.eq_of_toNat_eq (by rw [hAnd]; simp; omega))
  · intro hOdd hZero
    rw [hZero] at hAnd
    simp at hAnd
    omega

/-- The loop multiplies the accumulator by the base to the exponent, and has
enough rounds for every exponent of the given length. -/
theorem simIrIntegerPowLoop_value (hDomain : domain.IsMachineInteger) (fuel : ℕ)
    (exponent base accum : Word) (hFuel : exponent.toNat < 2 ^ fuel) :
    domain.intValue (simIrIntegerPowLoop domain fuel exponent base accum) =
      domain.wrap (domain.intValue accum * domain.intValue base ^ exponent.toNat) := by
  induction fuel generalizing exponent base accum with
  | zero =>
      have hZero : exponent.toNat = 0 := by simpa using hFuel
      simp [simIrIntegerPowLoop, hZero]
  | succ fuel ih =>
      rw [simIrIntegerPowLoop]
      split
      case isTrue hZero => simp [hZero]
      case isFalse hNonzero =>
        have hHalf : (exponent >>> 1).toNat = exponent.toNat / 2 := by
          simp [BitVec.toNat_ushiftRight, Nat.shiftRight_eq_div_pow]
        rw [ih _ _ _ (by rw [hHalf]; omega), hHalf]
        -- The accumulator takes the low bit of the exponent, the base is squared.
        have hAccum : domain.intValue (if exponent &&& 1 ≠ 0 then
            simIrIntegerTruncate (accum * base) domain else accum) % 2 ^ domain.bitWidth =
            (domain.intValue accum * domain.intValue base ^ (exponent.toNat % 2)) %
              2 ^ domain.bitWidth := by
          by_cases hOdd : exponent &&& 1 ≠ 0
          · rw [if_pos hOdd, intValue_truncate_mul_emod hDomain, (toNat_and_one _).mp hOdd, pow_one]
          · have hEven : exponent.toNat % 2 = 0 := by
              have := mt (toNat_and_one exponent).mpr hOdd
              omega
            rw [if_neg hOdd, hEven, pow_zero, mul_one]
        by_cases hLast : exponent >>> 1 ≠ 0
        · rw [if_pos hLast, SimScalarDomain.wrap,
            Library.FixedWidth.wrap_mul_pow hAccum (intValue_truncate_mul_emod hDomain base base)]
          congr 1
          rw [← pow_two, ← pow_mul, mul_assoc, ← pow_add, Nat.mod_add_div]
        · have hZero : exponent.toNat / 2 = 0 := by
            rw [← hHalf, not_not.mp hLast]
            rfl
          have hOne : exponent.toNat % 2 = exponent.toNat := Nat.mod_eq_of_lt (by omega)
          rw [hZero, pow_zero, mul_one]
          rw [hOne] at hAccum
          exact Library.FixedWidth.wrap_congr hAccum

theorem intValue_eq_wrap_toNat (raw : Word) : domain.intValue raw = domain.wrap raw.toNat := rfl

theorem intValue_nonneg (hSigned : domain.isSigned = false) (raw : Word) :
    0 ≤ domain.intValue raw := by
  rw [SimScalarDomain.intValue, hSigned]
  exact (Library.FixedWidth.wrap_unsigned_bounds _).1

/-- A word with a non-negative signed reading has the same unsigned reading. -/
theorem toNat_of_toInt_nonneg {x : Word} (hNonneg : 0 ≤ x.toInt) : x.toInt.toNat = x.toNat := by
  have := x.isLt
  rw [BitVec.toInt_eq_toNat_cond] at hNonneg ⊢
  split at hNonneg <;> omega

/-- The run yields a word of the reference value, or reports an error where the
reference is undefined. -/
def Implements (domain : SimScalarDomain) (reference : Option ℤ)
    (run : Option (Except SimError Word)) : Prop :=
  (reference = none ∧ run = some (.error .invalidArgument)) ∨
    ∃ raw, run = some (.ok raw) ∧ reference = some (domain.intValue raw)

theorem implements_div (hDomain : domain.IsMachineInteger) (x y : Word) :
    Implements domain (referenceBinary domain .div (domain.intValue x) (domain.intValue y))
      (simIrIntegerBinary domain .div x y) := by
  by_cases hZero : domain.intValue y = 0
  · refine Or.inl ⟨by simp [referenceBinary, hZero], ?_⟩
    simp [simIrIntegerBinary, (truncate_eq_zero_iff hDomain y).mpr hZero]
  · have hNe := mt (truncate_eq_zero_iff hDomain y).mp hZero
    right
    simp only [simIrIntegerBinary, referenceBinary, hNe, hZero, if_false]
    cases hSigned : domain.isSigned with
    | true =>
        obtain ⟨raw, hRun, hValue⟩ := simIrIntegerSignedDiv_spec hDomain
          (simIrIntegerAsI64 x domain) (asI64_ne_zero hDomain hSigned hZero)
          (width_of_asI64_eq_min hDomain hSigned)
        rw [toInt_asI64 hDomain hSigned, toInt_asI64 hDomain hSigned] at hValue
        exact ⟨raw, by rw [if_pos rfl, hRun]; rfl, by rw [hValue]⟩
    | false =>
        refine ⟨_, if_neg Bool.false_ne_true, ?_⟩
        rw [intValue_eq_wrap_toNat (_ / _), BitVec.toNat_udiv]
        push_cast
        rw [toNat_truncate_unsigned hDomain hSigned, toNat_truncate_unsigned hDomain hSigned,
          Int.tdiv_eq_ediv_of_nonneg (intValue_nonneg hSigned x)]

theorem implements_mod (hDomain : domain.IsMachineInteger) (x y : Word) :
    Implements domain (referenceBinary domain .mod (domain.intValue x) (domain.intValue y))
      (simIrIntegerBinary domain .mod x y) := by
  by_cases hZero : domain.intValue y = 0
  · refine Or.inl ⟨by simp [referenceBinary, hZero], ?_⟩
    simp [simIrIntegerBinary, (truncate_eq_zero_iff hDomain y).mpr hZero]
  · have hNe := mt (truncate_eq_zero_iff hDomain y).mp hZero
    right
    simp only [simIrIntegerBinary, referenceBinary, hNe, hZero, if_false]
    cases hSigned : domain.isSigned with
    | true =>
        obtain ⟨raw, hRun, hValue⟩ := simIrIntegerSignedMod_spec hDomain
          (simIrIntegerAsI64 x domain) (asI64_ne_zero hDomain hSigned hZero)
        rw [toInt_asI64 hDomain hSigned, toInt_asI64 hDomain hSigned] at hValue
        exact ⟨raw, by rw [if_pos rfl, hRun]; rfl, by rw [hValue]⟩
    | false =>
        refine ⟨_, if_neg Bool.false_ne_true, ?_⟩
        rw [intValue_eq_wrap_toNat (_ % _), BitVec.toNat_umod]
        push_cast
        rw [toNat_truncate_unsigned hDomain hSigned, toNat_truncate_unsigned hDomain hSigned,
          Int.tmod_eq_emod_of_nonneg (intValue_nonneg hSigned x)]

/-- The loop started as the evaluator starts it computes the power. -/
theorem intValue_pow (hDomain : domain.IsMachineInteger) (x exponent : Word) :
    domain.intValue (simIrIntegerPowLoop domain 64 exponent (simIrIntegerTruncate x domain)
      (simIrIntegerTruncate 1 domain)) = domain.wrap (domain.intValue x ^ exponent.toNat) := by
  have hOne : domain.intValue (simIrIntegerTruncate 1 domain) = domain.wrap 1 :=
    intValue_truncate hDomain 1
  rw [simIrIntegerPowLoop_value hDomain 64 _ _ _ exponent.isLt, hOne, intValue_truncate hDomain]
  conv_rhs => rw [← one_mul (domain.intValue x ^ exponent.toNat)]
  exact Library.FixedWidth.wrap_congr
    ((Int.ModEq.mul_right _ (Library.FixedWidth.wrap_emod 1) :))

theorem implements_pow (hDomain : domain.IsMachineInteger) (x y : Word) :
    Implements domain (referenceBinary domain .pow (domain.intValue x) (domain.intValue y))
      (simIrIntegerBinary domain .pow x y) := by
  simp only [simIrIntegerBinary, referenceBinary]
  cases hSigned : domain.isSigned with
  | true =>
      have hInt := toInt_asI64 hDomain hSigned y
      rw [if_pos rfl, hInt]
      by_cases hNeg : domain.intValue y < 0
      · exact Or.inl ⟨if_pos hNeg, if_pos hNeg⟩
      · refine Or.inr ⟨_, if_neg hNeg, ?_⟩
        rw [if_neg hNeg, intValue_pow hDomain, ← toNat_of_toInt_nonneg (hInt ▸ not_lt.mp hNeg),
          hInt]
  | false =>
      have hNat := toNat_truncate_unsigned hDomain hSigned y
      have hNeg : ¬domain.intValue y < 0 := not_lt.mpr (intValue_nonneg hSigned y)
      refine Or.inr ⟨_, if_neg Bool.false_ne_true, ?_⟩
      rw [if_neg hNeg, intValue_pow hDomain, ← hNat, Int.toNat_natCast]

/-- Every binary operation of the evaluator is the reference operation on the
denoted integers, with an error exactly where the reference is undefined; no
pair of operands traps. -/
theorem simIrIntegerBinary_spec (hDomain : domain.IsMachineInteger) (op : SimIRBinaryOp)
    (x y : Word) :
    Implements domain (referenceBinary domain op (domain.intValue x) (domain.intValue y))
      (simIrIntegerBinary domain op x y) := by
  cases op with
  | add =>
      refine Or.inr ⟨_, rfl, ?_⟩
      rw [intValue_truncate hDomain, intValue_add hDomain]
      rfl
  | sub =>
      refine Or.inr ⟨_, rfl, ?_⟩
      rw [intValue_truncate hDomain, intValue_sub hDomain]
      rfl
  | mul =>
      refine Or.inr ⟨_, rfl, ?_⟩
      rw [intValue_truncate hDomain, intValue_mul hDomain]
      rfl
  | div => exact implements_div hDomain x y
  | mod => exact implements_mod hDomain x y
  | pow => exact implements_pow hDomain x y

end Oakfield.KernelIR
