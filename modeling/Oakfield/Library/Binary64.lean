import Mathlib.Data.Int.Notation
import Mathlib.Data.Nat.Notation
import Mathlib.Data.Nat.Log
import Mathlib.Data.Nat.ModEq
import Mathlib.Tactic.Positivity
import Mathlib.Tactic.Ring

/-! IEEE binary64 numbers as bit patterns: their values, in units of the smallest
subnormal, comparisons, truncation, and conversions from and to integers. -/
namespace Library

/-- A binary64 number is its object representation. -/
structure Binary64 where
  bits : BitVec 64
deriving DecidableEq, Repr

namespace Binary64

/-! ### Values -/

def negative (x : Binary64) : Bool := x.bits.msb

def exponent (x : Binary64) : ℕ := x.bits.toNat / 2 ^ 52 % 2 ^ 11

def fraction (x : Binary64) : ℕ := x.bits.toNat % 2 ^ 52

def isFinite (x : Binary64) : Bool := x.exponent != 2047

def isNaN (x : Binary64) : Bool := x.exponent == 2047 && x.fraction != 0

def significand (x : Binary64) : ℕ :=
  if x.exponent = 0 then x.fraction else 2 ^ 52 + x.fraction

/-- The absolute value in units of `2 ^ -1074`. The infinities get the value which
continues the scale, and so compare as they should. -/
def magnitude (x : Binary64) : ℕ := x.significand * 2 ^ (x.exponent - 1)

def scaled (x : Binary64) : ℤ := if x.negative then -x.magnitude else x.magnitude

/-- The number of units in one. -/
def scale : ℕ := 2 ^ 1074

/-- A finite number whose value is the given integer. -/
def Holds (x : Binary64) (z : ℤ) : Prop := x.isFinite = true ∧ x.scaled = z * scale

instance (x : Binary64) (z : ℤ) : Decidable (x.Holds z) := inferInstanceAs (Decidable (_ ∧ _))

def Integral (x : Binary64) : Prop := ∃ z, x.Holds z

/-! ### Operations -/

/-- `==`. -/
def eq (x y : Binary64) : Bool := !x.isNaN && !y.isNaN && decide (x.scaled = y.scaled)

/-- `<`. -/
def lt (x y : Binary64) : Bool := !x.isNaN && !y.isNaN && decide (x.scaled < y.scaled)

/-- `<=`. -/
def le (x y : Binary64) : Bool := !x.isNaN && !y.isNaN && decide (x.scaled ≤ y.scaled)

/-- `-x`: adding the highest bit flips the sign. -/
def neg (x : Binary64) : Binary64 := ⟨x.bits + BitVec.intMin 64⟩

/-- `trunc`: clears the bits behind the binary point. -/
def trunc (x : Binary64) : Binary64 :=
  if x.exponent < 1023 then ⟨if x.negative then BitVec.intMin 64 else 0⟩
  else if 1075 ≤ x.exponent then x
  else ⟨BitVec.ofNat 64 (x.bits.toNat / 2 ^ (1075 - x.exponent) * 2 ^ (1075 - x.exponent))⟩

/-- The value of a finite number, rounded toward zero. -/
def toInt (x : Binary64) : ℤ := x.scaled.tdiv scale

/-- `n / 2 ^ shift`, rounded to nearest, ties to even. -/
def roundShift (n shift : ℕ) : ℕ :=
  if 2 ^ shift < 2 * (n % 2 ^ shift) ∨
      (2 ^ shift = 2 * (n % 2 ^ shift) ∧ n / 2 ^ shift % 2 = 1) then n / 2 ^ shift + 1
  else n / 2 ^ shift

/-- The significand of the nearest number, in units of the last place of `n`. -/
def roundSignificand (n : ℕ) : ℕ :=
  if n.log2 ≤ 52 then n * 2 ^ (52 - n.log2) else roundShift n (n.log2 - 52)

/-- The natural number nearest to `n` among those of 53 significant bits. -/
def roundNat (n : ℕ) : ℕ := roundShift n (n.log2 - 52) * 2 ^ (n.log2 - 52)

def roundInt (z : ℤ) : ℤ := if z < 0 then -roundNat z.natAbs else roundNat z.natAbs

/-- The number `significand * 2 ^ (exponent - 52)`. -/
def pack (exponent significand : ℕ) : Binary64 :=
  ⟨BitVec.ofNat 64 ((exponent + 1023) * 2 ^ 52 + (significand - 2 ^ 52))⟩

/-- The number nearest to a natural number, which is below `2 ^ 1023`. -/
def ofNat (n : ℕ) : Binary64 := if n = 0 then ⟨0⟩ else pack n.log2 (roundSignificand n)

/-- The number nearest to an integer. -/
def ofInt (z : ℤ) : Binary64 := if z < 0 then (ofNat z.natAbs).neg else ofNat z.natAbs

/-! ### Values of the operations -/

theorem scale_pos : 0 < scale := by
  unfold scale
  positivity

theorem scale_eq {k : ℕ} (hLe : k ≤ 1074) : 2 ^ k * 2 ^ (1074 - k) = scale := by
  rw [← pow_add, scale]
  congr 1
  omega

theorem two_pow_le_scale {k : ℕ} (hLe : k ≤ 1074) : 2 ^ k ≤ scale := by
  rw [← scale_eq hLe]
  exact Nat.le_mul_of_pos_right _ (by positivity)

theorem scale_dvd_two_pow {k : ℕ} (hLe : 1074 ≤ k) : scale ∣ 2 ^ k := pow_dvd_pow 2 hLe

theorem two_pow_eq {k : ℕ} (hLe : 1074 ≤ k) : 2 ^ k = 2 ^ (k - 1074) * scale := by
  rw [scale, ← pow_add]
  congr 1
  omega

attribute [irreducible] scale

theorem fraction_lt (x : Binary64) : x.fraction < 2 ^ 52 := Nat.mod_lt _ (by decide)

theorem exponent_lt (x : Binary64) : x.exponent < 2048 := Nat.mod_lt _ (by decide)

theorem significand_lt (x : Binary64) : x.significand < 2 ^ 53 := by
  have hFraction := x.fraction_lt
  unfold significand
  split_ifs <;> omega

theorem isFinite_iff {x : Binary64} : x.isFinite = true ↔ x.exponent ≠ 2047 := by
  simp [isFinite]

theorem isNaN_of_isFinite {x : Binary64} (hFinite : x.isFinite = true) : x.isNaN = false := by
  simp [isNaN, isFinite_iff.mp hFinite]

/-- A number is determined by its sign, exponent and fraction. -/
theorem bits_eq (x : Binary64) :
    x.bits.toNat = x.negative.toNat * 2 ^ 63 + x.exponent * 2 ^ 52 + x.fraction := by
  have hLt := x.bits.isLt
  have hSign : x.negative.toNat = x.bits.toNat / 2 ^ 63 := by
    unfold negative
    rw [BitVec.msb_eq_decide]
    by_cases hNeg : 2 ^ (64 - 1) ≤ x.bits.toNat
    case pos =>
      simp only [hNeg, decide_true, Bool.toNat_true]
      omega
    case neg =>
      simp only [hNeg, decide_false, Bool.toNat_false]
      omega
  rw [hSign]
  unfold exponent fraction
  omega

/-- The three parts of a bit pattern which is given by its parts. -/
theorem parts_of_toNat {x : Binary64} {sign : Bool} {exponent fraction : ℕ}
    (hExponent : exponent < 2 ^ 11) (hFraction : fraction < 2 ^ 52)
    (hBits : x.bits.toNat = sign.toNat * 2 ^ 63 + exponent * 2 ^ 52 + fraction) :
    x.negative = sign ∧ x.exponent = exponent ∧ x.fraction = fraction := by
  have hParts := x.bits_eq
  have hExponent' := x.exponent_lt
  have hFraction' := x.fraction_lt
  have hSign : x.negative.toNat = sign.toNat ∧ x.exponent = exponent ∧ x.fraction = fraction := by
    have hSmall := Bool.toNat_le sign
    have hSmall' := Bool.toNat_le x.negative
    omega
  refine ⟨?_, hSign.2⟩
  cases hNeg : x.negative <;> cases sign <;> simp_all

theorem significand_of_parts {x : Binary64} (hNormal : x.exponent ≠ 0) :
    x.significand = 2 ^ 52 + x.fraction := if_neg hNormal

/-! #### Negation -/

theorem neg_parts (x : Binary64) :
    x.neg.negative = !x.negative ∧ x.neg.exponent = x.exponent ∧ x.neg.fraction = x.fraction := by
  apply parts_of_toNat x.exponent_lt x.fraction_lt
  have hBits := x.bits_eq
  have hExponent := x.exponent_lt
  have hFraction := x.fraction_lt
  rw [neg, BitVec.toNat_add, BitVec.toNat_intMin]
  cases hNeg : x.negative with
  | false =>
      simp only [hNeg, Bool.toNat_false, Bool.not_false, Bool.toNat_true] at hBits ⊢
      omega
  | true =>
      simp only [hNeg, Bool.toNat_true, Bool.not_true, Bool.toNat_false] at hBits ⊢
      omega

@[simp]
theorem neg_scaled (x : Binary64) : x.neg.scaled = -x.scaled := by
  obtain ⟨hSign, hExponent, hFraction⟩ := x.neg_parts
  unfold scaled magnitude significand
  rw [hSign, hExponent, hFraction]
  cases x.negative <;> simp

@[simp]
theorem neg_isFinite (x : Binary64) : x.neg.isFinite = x.isFinite := by
  unfold isFinite
  rw [x.neg_parts.2.1]

/-! #### Truncation -/

theorem toInt_eq (x : Binary64) :
    x.toInt = if x.negative then -((x.magnitude / scale : ℕ) : ℤ) else
      (x.magnitude / scale : ℕ) := by
  unfold toInt scaled
  split_ifs
  · rw [Int.neg_tdiv, Int.ofNat_tdiv]
  · rw [Int.ofNat_tdiv]

theorem magnitude_lt_scale {x : Binary64} (hSmall : x.exponent < 1023) : x.magnitude < scale := by
  unfold magnitude
  calc x.significand * 2 ^ (x.exponent - 1)
      < 2 ^ 53 * 2 ^ (x.exponent - 1) :=
        Nat.mul_lt_mul_of_pos_right x.significand_lt (by positivity)
    _ = 2 ^ (53 + (x.exponent - 1)) := (pow_add 2 53 _).symm
    _ ≤ scale := two_pow_le_scale (by omega)

theorem scale_dvd_magnitude {x : Binary64} (hLarge : 1075 ≤ x.exponent) : scale ∣ x.magnitude :=
  Dvd.dvd.mul_left (scale_dvd_two_pow (by omega)) _

/-- The parts of a number whose low fraction bits are cleared. -/
theorem trunc_parts {x : Binary64} (hLow : 1023 ≤ x.exponent) (hHigh : x.exponent < 1075) :
    x.trunc.negative = x.negative ∧ x.trunc.exponent = x.exponent ∧
      x.trunc.fraction = x.fraction / 2 ^ (1075 - x.exponent) * 2 ^ (1075 - x.exponent) := by
  have hBits := x.bits_eq
  have hFraction := x.fraction_lt
  have hRound := Nat.div_mul_le_self x.fraction (2 ^ (1075 - x.exponent))
  apply parts_of_toNat x.exponent_lt (hRound.trans_lt hFraction)
  have hSplit : 2 ^ 52 = 2 ^ (x.exponent - 1023) * 2 ^ (1075 - x.exponent) := by
    rw [← pow_add]
    congr 1
    omega
  have hTrunc : x.bits.toNat / 2 ^ (1075 - x.exponent) * 2 ^ (1075 - x.exponent) =
      x.negative.toNat * 2 ^ 63 + x.exponent * 2 ^ 52 +
        x.fraction / 2 ^ (1075 - x.exponent) * 2 ^ (1075 - x.exponent) := by
    have hUnit : 0 < 2 ^ (1075 - x.exponent) := by positivity
    have hMultiple : x.bits.toNat = x.fraction +
        (x.negative.toNat * 2 ^ 11 + x.exponent) * 2 ^ (x.exponent - 1023) *
          2 ^ (1075 - x.exponent) := by
      rw [mul_assoc, ← hSplit, hBits]
      ring
    rw [hMultiple, Nat.add_mul_div_right _ _ hUnit, add_mul, mul_assoc _ (2 ^ (x.exponent - 1023)),
      ← hSplit]
    ring
  rw [trunc, if_neg (by omega), if_neg (by omega), BitVec.toNat_ofNat, hTrunc]
  apply Nat.mod_eq_of_lt
  have hSign := Bool.toNat_le x.negative
  have hExponent := x.exponent_lt
  omega

/-- Truncation keeps the sign and rounds the absolute value down. -/
theorem trunc_spec {x : Binary64} (hFinite : x.isFinite = true) :
    x.trunc.isFinite = true ∧ x.trunc.negative = x.negative ∧
      x.trunc.magnitude = x.magnitude / scale * scale := by
  by_cases hSmall : x.exponent < 1023
  case pos =>
    have hParts : x.trunc.negative = x.negative ∧ x.trunc.exponent = 0 ∧ x.trunc.fraction = 0 := by
      apply parts_of_toNat (by decide) (by decide)
      rw [trunc, if_pos hSmall]
      cases x.negative <;> rfl
    obtain ⟨hSign, hExponent, hFraction⟩ := hParts
    refine ⟨by rw [isFinite, hExponent]; rfl, hSign, ?_⟩
    rw [Nat.div_eq_of_lt (magnitude_lt_scale hSmall), magnitude, significand, hExponent, hFraction,
      if_pos rfl, zero_mul, zero_mul]
  case neg =>
    by_cases hLarge : 1075 ≤ x.exponent
    case pos =>
      rw [trunc, if_neg hSmall, if_pos hLarge]
      exact ⟨hFinite, rfl, (Nat.div_mul_cancel (scale_dvd_magnitude hLarge)).symm⟩
    case neg =>
      obtain ⟨hSign, hExponent, hFraction⟩ := trunc_parts (by omega) (not_le.mp hLarge)
      refine ⟨by rw [isFinite, hExponent]; exact hFinite, hSign, ?_⟩
      have hUnit : 0 < 2 ^ (1075 - x.exponent) := by positivity
      have hScale : 2 ^ (1075 - x.exponent) * 2 ^ (x.exponent - 1) = scale := by
        rw [← scale_eq (show 1075 - x.exponent ≤ 1074 by omega)]
        congr 2
        omega
      have hNormal : 2 ^ (1075 - x.exponent) ∣ 2 ^ 52 := pow_dvd_pow 2 (by omega)
      have hRounded : x.trunc.significand =
          x.significand / 2 ^ (1075 - x.exponent) * 2 ^ (1075 - x.exponent) := by
        rw [significand_of_parts (by omega), significand_of_parts (by omega), hFraction,
          Nat.add_div_of_dvd_right hNormal, add_mul, Nat.div_mul_cancel hNormal]
      rw [magnitude, magnitude, hRounded, hExponent, mul_assoc, hScale, ← hScale,
        Nat.mul_div_mul_right _ _ (by positivity)]

/-- Truncation rounds the value toward zero. -/
theorem trunc_scaled {x : Binary64} (hFinite : x.isFinite = true) :
    x.trunc.scaled = x.toInt * scale := by
  obtain ⟨-, hSign, hMagnitude⟩ := trunc_spec hFinite
  rw [toInt_eq, scaled, hSign, hMagnitude]
  cases x.negative <;> simp

theorem toInt_of_holds {x : Binary64} {z : ℤ} (hHolds : x.Holds z) : x.toInt = z := by
  rw [toInt, hHolds.2]
  exact Int.mul_tdiv_cancel z (by exact_mod_cast scale_pos.ne')

/-- A finite number equals its truncation if it is an integer. -/
theorem eq_trunc_iff {x : Binary64} (hFinite : x.isFinite = true) :
    eq x.trunc x = true ↔ x.Holds x.toInt := by
  have hTrunc := (trunc_spec hFinite).1
  simp only [eq, isNaN_of_isFinite hTrunc, isNaN_of_isFinite hFinite, Bool.not_false,
    Bool.true_and, decide_eq_true_eq, trunc_scaled hFinite, Holds, hFinite, true_and]
  exact eq_comm

theorem integral_iff {x : Binary64} : x.Integral ↔ x.Holds x.toInt := by
  constructor
  case mp =>
    intro hIntegral
    obtain ⟨z, hHolds⟩ := hIntegral
    rw [toInt_of_holds hHolds]
    exact hHolds
  case mpr => exact fun hHolds => ⟨_, hHolds⟩

/-! #### Comparisons of integers -/

theorem lt_iff {x y : Binary64} {a b : ℤ} (hX : x.Holds a) (hY : y.Holds b) :
    lt x y = true ↔ a < b := by
  have hScale : (0 : ℤ) < scale := by exact_mod_cast scale_pos
  simp only [lt, isNaN_of_isFinite hX.1, isNaN_of_isFinite hY.1, Bool.not_false, Bool.true_and,
    decide_eq_true_eq, hX.2, hY.2]
  exact Int.mul_lt_mul_right hScale

theorem eq_of_holds {x y : Binary64} {z : ℤ} (hX : x.Holds z) (hY : y.Holds z) :
    eq x y = true := by
  simp [eq, isNaN_of_isFinite hX.1, isNaN_of_isFinite hY.1, hX.2, hY.2]

/-! #### Conversions from integers -/

theorem zero_holds : Holds ⟨0⟩ 0 :=
  ⟨rfl, by simp [scaled, magnitude, significand, exponent, fraction]⟩

/-- The value of `pack` for a significand which has its highest bit, or just carried. -/
theorem pack_spec {e q : ℕ} (hExponent : e ≤ 1000) (hLow : 2 ^ 52 ≤ q) (hHigh : q ≤ 2 ^ 53) :
    (pack e q).isFinite = true ∧ (pack e q).scaled = (q * 2 ^ (e + 1022) : ℕ) := by
  have hFits : (e + 1023) * 2 ^ 52 + (q - 2 ^ 52) < 2 ^ 64 := by omega
  by_cases hCarry : q = 2 ^ 53
  case pos =>
    have hParts : (pack e q).negative = false ∧ (pack e q).exponent = e + 1024 ∧
        (pack e q).fraction = 0 := by
      apply parts_of_toNat (by omega) (by decide)
      rw [pack, BitVec.toNat_ofNat, Nat.mod_eq_of_lt hFits, Bool.toNat_false]
      omega
    obtain ⟨hSign, hExponent', hFraction⟩ := hParts
    refine ⟨isFinite_iff.mpr (by omega), ?_⟩
    rw [scaled, hSign, magnitude, significand_of_parts (by omega), hFraction, hExponent', hCarry,
      show e + 1024 - 1 = (e + 1022) + 1 from rfl]
    generalize e + 1022 = unit
    simp [pow_succ]
    ring
  case neg =>
    have hParts : (pack e q).negative = false ∧ (pack e q).exponent = e + 1023 ∧
        (pack e q).fraction = q - 2 ^ 52 := by
      apply parts_of_toNat (by omega) (by omega)
      rw [pack, BitVec.toNat_ofNat, Nat.mod_eq_of_lt hFits, Bool.toNat_false]
      omega
    obtain ⟨hSign, hExponent', hFraction⟩ := hParts
    refine ⟨isFinite_iff.mpr (by omega), ?_⟩
    rw [scaled, hSign, magnitude, significand_of_parts (by omega), hFraction, hExponent',
      Nat.add_sub_cancel' hLow]
    rfl

theorem roundShift_bounds (n shift : ℕ) :
    n / 2 ^ shift ≤ roundShift n shift ∧ roundShift n shift ≤ n / 2 ^ shift + 1 := by
  unfold roundShift
  split_ifs <;> omega

theorem roundSignificand_bounds {n : ℕ} (hPos : n ≠ 0) :
    2 ^ 52 ≤ roundSignificand n ∧ roundSignificand n ≤ 2 ^ 53 := by
  have hLow : 2 ^ n.log2 ≤ n := Nat.log2_self_le hPos
  have hHigh : n < 2 ^ (n.log2 + 1) := Nat.lt_log2_self
  unfold roundSignificand
  by_cases hSmall : n.log2 ≤ 52
  case pos =>
    have hOne : 2 ^ n.log2 * 2 ^ (52 - n.log2) = 2 ^ 52 := by
      rw [← pow_add, Nat.add_sub_cancel' hSmall]
    have hTwo : 2 ^ (n.log2 + 1) * 2 ^ (52 - n.log2) = 2 ^ 53 := by
      rw [pow_succ, mul_right_comm, hOne, ← pow_succ]
    rw [if_pos hSmall, ← hTwo, ← hOne]
    exact ⟨Nat.mul_le_mul_right _ hLow, Nat.mul_le_mul_right _ hHigh.le⟩
  case neg =>
    have hUnit : 0 < 2 ^ (n.log2 - 52) := by positivity
    have hOne : 2 ^ 52 * 2 ^ (n.log2 - 52) = 2 ^ n.log2 := by
      rw [← pow_add, Nat.add_sub_cancel' (by omega)]
    have hTwo : 2 ^ 53 * 2 ^ (n.log2 - 52) = 2 ^ (n.log2 + 1) := by
      rw [show (2 : ℕ) ^ 53 = 2 ^ 52 * 2 from rfl, mul_right_comm, hOne, pow_succ]
    have hBelow : 2 ^ 52 ≤ n / 2 ^ (n.log2 - 52) := by
      rw [Nat.le_div_iff_mul_le hUnit, hOne]
      exact hLow
    have hAbove : n / 2 ^ (n.log2 - 52) < 2 ^ 53 := by
      rw [Nat.div_lt_iff_lt_mul hUnit, hTwo]
      exact hHigh
    obtain ⟨hRoundLow, hRoundHigh⟩ := roundShift_bounds n (n.log2 - 52)
    rw [if_neg hSmall]
    exact ⟨hBelow.trans hRoundLow, by omega⟩

@[simp]
theorem roundShift_zero (n : ℕ) : roundShift n 0 = n := by
  simp [roundShift, Nat.mod_one]

/-- The packed significand has the value of the rounded number. -/
theorem roundSignificand_mul (n : ℕ) :
    roundSignificand n * 2 ^ (n.log2 + 1022) = roundNat n * scale := by
  unfold roundSignificand roundNat
  by_cases hSmall : n.log2 ≤ 52
  case pos =>
    rw [if_pos hSmall, Nat.sub_eq_zero_of_le hSmall, roundShift_zero, pow_zero, mul_one,
      mul_assoc, ← scale_eq (show 52 - n.log2 ≤ 1074 by omega),
      show 1074 - (52 - n.log2) = n.log2 + 1022 by omega]
  case neg =>
    rw [if_neg hSmall, mul_assoc, two_pow_eq (show 1074 ≤ n.log2 + 1022 by omega),
      show n.log2 + 1022 - 1074 = n.log2 - 52 by omega]

/-- A conversion from a natural number gives the nearest number. -/
theorem ofNat_holds {n : ℕ} (hRange : n.log2 ≤ 1000) : (ofNat n).Holds (roundNat n) := by
  by_cases hZero : n = 0
  case pos =>
    rw [hZero]
    simpa [ofNat, roundNat] using zero_holds
  case neg =>
    obtain ⟨hLow, hHigh⟩ := roundSignificand_bounds hZero
    obtain ⟨hFinite, hScaled⟩ := pack_spec hRange hLow hHigh
    rw [ofNat, if_neg hZero]
    refine ⟨hFinite, ?_⟩
    rw [hScaled, roundSignificand_mul, Nat.cast_mul]

@[simp]
theorem ofInt_natCast (n : ℕ) : ofInt n = ofNat n := if_neg (by omega)

/-- A conversion from an integer gives the nearest number. -/
theorem ofInt_holds {z : ℤ} (hRange : z.natAbs.log2 ≤ 1000) : (ofInt z).Holds (roundInt z) := by
  have hNat := ofNat_holds hRange
  unfold ofInt roundInt
  split_ifs
  · refine ⟨by rw [neg_isFinite]; exact hNat.1, ?_⟩
    rw [neg_scaled, hNat.2, neg_mul]
  · exact hNat

/-! #### Integers which are numbers -/

theorem roundNat_of_dvd {n : ℕ} (hDvd : 2 ^ (n.log2 - 52) ∣ n) : roundNat n = n := by
  have hUnit : 0 < 2 ^ (n.log2 - 52) := by positivity
  have hMod : n % 2 ^ (n.log2 - 52) = 0 := Nat.mod_eq_zero_of_dvd hDvd
  rw [roundNat, roundShift, hMod, if_neg (by omega), Nat.div_mul_cancel hDvd]

theorem natAbs_scaled (x : Binary64) : x.scaled.natAbs = x.magnitude := by
  unfold scaled
  split_ifs <;> simp

/-- An integer which some number holds has 53 significant bits. -/
theorem dvd_of_holds {x : Binary64} {z : ℤ} (hHolds : x.Holds z) :
    2 ^ (z.natAbs.log2 - 52) ∣ z.natAbs := by
  have hValue : x.significand * 2 ^ (x.exponent - 1) = z.natAbs * scale := by
    have hAbs := congrArg Int.natAbs hHolds.2
    rw [natAbs_scaled, Int.natAbs_mul, Int.natAbs_natCast] at hAbs
    exact hAbs
  by_cases hZero : z.natAbs = 0
  case pos => simp [hZero]
  case neg =>
    by_cases hLarge : 1074 ≤ x.exponent - 1
    case pos =>
      rw [two_pow_eq hLarge, ← mul_assoc] at hValue
      have hProduct := Nat.eq_of_mul_eq_mul_right scale_pos hValue
      have hLog : z.natAbs.log2 < 53 + (x.exponent - 1 - 1074) := by
        rw [Nat.log2_lt hZero, ← hProduct, pow_add]
        exact Nat.mul_lt_mul_of_pos_right x.significand_lt (by positivity)
      rw [← hProduct] at hLog ⊢
      exact Dvd.dvd.mul_left (pow_dvd_pow 2 (by omega)) _
    case neg =>
      have hSmall : z.natAbs < 2 ^ 53 := by
        apply Nat.lt_of_mul_lt_mul_right (a := scale)
        calc z.natAbs * scale
            = x.significand * 2 ^ (x.exponent - 1) := hValue.symm
          _ < 2 ^ 53 * 2 ^ (x.exponent - 1) :=
              Nat.mul_lt_mul_of_pos_right x.significand_lt (by positivity)
          _ ≤ 2 ^ 53 * scale := Nat.mul_le_mul_left _ (two_pow_le_scale (by omega))
      have hLog := (Nat.log2_lt hZero).mpr hSmall
      rw [Nat.sub_eq_zero_of_le (by omega)]
      exact one_dvd _

/-- An integer which some number holds is converted exactly. -/
theorem ofInt_exact {x : Binary64} {z : ℤ} (hRange : z.natAbs.log2 ≤ 1000) (hHolds : x.Holds z) :
    (ofInt z).Holds z := by
  have hRound : roundInt z = z := by
    rw [roundInt, roundNat_of_dvd (dvd_of_holds hHolds)]
    split_ifs <;> omega
  have hInt := ofInt_holds hRange
  rw [hRound] at hInt
  exact hInt

end Binary64

end Library
