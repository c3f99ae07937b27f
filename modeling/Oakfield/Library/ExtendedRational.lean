import Mathlib.Algebra.Order.Field.Rat
import Mathlib.Data.Sign.Basic
import Mathlib.Order.WithBotTop

/-! Rationals with both infinities and a value which is not a number. Zero has no sign. -/
namespace Library

inductive ExtendedRational where
  | nan
  | negInf
  | number (value : ℚ)
  | posInf
deriving DecidableEq, Repr

namespace ExtendedRational

/-! ### Comparisons -/

def lt : ExtendedRational → ExtendedRational → Bool
  | number a, number b => a < b
  | negInf, number _ | negInf, posInf | number _, posInf => true
  | _, _ => false

def le : ExtendedRational → ExtendedRational → Bool
  | number a, number b => a ≤ b
  | negInf, negInf | negInf, number _ | negInf, posInf | number _, posInf | posInf, posInf => true
  | _, _ => false

def eq : ExtendedRational → ExtendedRational → Bool
  | nan, _ => false
  | a, b => a == b

instance : LT ExtendedRational := ⟨fun a b => lt a b = true⟩

instance : LE ExtendedRational := ⟨fun a b => le a b = true⟩

instance (a b : ExtendedRational) : Decidable (a < b) := inferInstanceAs (Decidable (lt a b = true))

instance (a b : ExtendedRational) : Decidable (a ≤ b) := inferInstanceAs (Decidable (le a b = true))

/-- The place of a number, and of an infinity, in the order. -/
def position : ExtendedRational → WithBot (WithTop ℚ)
  | nan | negInf => ⊥
  | number value => ((value : WithTop ℚ) : WithBot (WithTop ℚ))
  | posInf => ((⊤ : WithTop ℚ) : WithBot (WithTop ℚ))

/-! ### Order -/

variable {a b c : ExtendedRational}

theorem lt_iff : a < b ↔ a ≠ nan ∧ b ≠ nan ∧ a.position < b.position := by
  cases a with
  | nan => exact ⟨fun hLt => (nomatch hLt), fun hNumbers => absurd rfl hNumbers.1⟩
  | negInf =>
      cases b with
      | nan => exact ⟨fun hLt => (nomatch hLt), fun hNumbers => absurd rfl hNumbers.2.1⟩
      | negInf => exact ⟨fun hLt => (nomatch hLt), fun hNumbers => absurd hNumbers.2.2 (lt_irrefl _)⟩
      | number | posInf => exact iff_of_true rfl ⟨nofun, nofun, WithBot.bot_lt_coe _⟩
  | number value =>
      cases b with
      | nan => exact ⟨fun hLt => (nomatch hLt), fun hNumbers => absurd rfl hNumbers.2.1⟩
      | negInf => exact ⟨fun hLt => (nomatch hLt), fun hNumbers => absurd hNumbers.2.2 not_lt_bot⟩
      | number other =>
          refine decide_eq_true_iff.trans ⟨fun hLt => ⟨nofun, nofun, ?_⟩, fun hNumbers => ?_⟩
          · exact WithBot.coe_lt_coe.mpr (WithTop.coe_lt_coe.mpr hLt)
          · exact WithTop.coe_lt_coe.mp (WithBot.coe_lt_coe.mp hNumbers.2.2)
      | posInf =>
          exact iff_of_true rfl ⟨nofun, nofun, WithBot.coe_lt_coe.mpr (WithTop.coe_lt_top value)⟩
  | posInf =>
      cases b with
      | nan => exact ⟨fun hLt => (nomatch hLt), fun hNumbers => absurd rfl hNumbers.2.1⟩
      | negInf => exact ⟨fun hLt => (nomatch hLt), fun hNumbers => absurd hNumbers.2.2 not_lt_bot⟩
      | number | posInf =>
          exact ⟨fun hLt => (nomatch hLt), fun hNumbers =>
            absurd (WithBot.coe_lt_coe.mp hNumbers.2.2) not_top_lt⟩

theorem le_iff : a ≤ b ↔ a ≠ nan ∧ b ≠ nan ∧ a.position ≤ b.position := by
  cases a with
  | nan => exact ⟨fun hLe => (nomatch hLe), fun hNumbers => absurd rfl hNumbers.1⟩
  | negInf =>
      cases b with
      | nan => exact ⟨fun hLe => (nomatch hLe), fun hNumbers => absurd rfl hNumbers.2.1⟩
      | negInf | number | posInf => exact iff_of_true rfl ⟨nofun, nofun, bot_le⟩
  | number value =>
      cases b with
      | nan => exact ⟨fun hLe => (nomatch hLe), fun hNumbers => absurd rfl hNumbers.2.1⟩
      | negInf =>
          exact ⟨fun hLe => (nomatch hLe), fun hNumbers =>
            absurd hNumbers.2.2 (WithBot.not_coe_le_bot _)⟩
      | number other =>
          refine decide_eq_true_iff.trans ⟨fun hLe => ⟨nofun, nofun, ?_⟩, fun hNumbers => ?_⟩
          · exact WithBot.coe_le_coe.mpr (WithTop.coe_le_coe.mpr hLe)
          · exact WithTop.coe_le_coe.mp (WithBot.coe_le_coe.mp hNumbers.2.2)
      | posInf => exact iff_of_true rfl ⟨nofun, nofun, WithBot.coe_le_coe.mpr le_top⟩
  | posInf =>
      cases b with
      | nan => exact ⟨fun hLe => (nomatch hLe), fun hNumbers => absurd rfl hNumbers.2.1⟩
      | negInf =>
          exact ⟨fun hLe => (nomatch hLe), fun hNumbers =>
            absurd hNumbers.2.2 (WithBot.not_coe_le_bot _)⟩
      | number other =>
          exact ⟨fun hLe => (nomatch hLe), fun hNumbers =>
            absurd (WithBot.coe_le_coe.mp hNumbers.2.2) (WithTop.not_top_le_coe other)⟩
      | posInf => exact iff_of_true rfl ⟨nofun, nofun, le_rfl⟩

/-! ### Arithmetic -/

def isFinite : ExtendedRational → Bool
  | number _ => true
  | _ => false

def neg : ExtendedRational → ExtendedRational
  | nan => nan
  | negInf => posInf
  | number value => number (-value)
  | posInf => negInf

def add : ExtendedRational → ExtendedRational → ExtendedRational
  | number a, number b => number (a + b)
  | posInf, number _ | number _, posInf | posInf, posInf => posInf
  | negInf, number _ | number _, negInf | negInf, negInf => negInf
  | _, _ => nan

def sub (a b : ExtendedRational) : ExtendedRational := a.add b.neg

/-- The sign, zero where there is none. -/
def sign : ExtendedRational → SignType
  | nan => 0
  | negInf => -1
  | number value => SignType.sign value
  | posInf => 1

/-- The infinity with a sign. -/
def infinity : SignType → ExtendedRational
  | .neg => negInf
  | .zero => nan
  | .pos => posInf

def mul : ExtendedRational → ExtendedRational → ExtendedRational
  | number a, number b => number (a * b)
  | a, b => infinity (a.sign * b.sign)

def div : ExtendedRational → ExtendedRational → ExtendedRational
  | number a, number b => if b = 0 then infinity (SignType.sign a) else number (a / b)
  | number _, posInf | number _, negInf => number 0
  | posInf, number b => if b < 0 then negInf else posInf
  | negInf, number b => if b < 0 then posInf else negInf
  | _, _ => nan

def abs : ExtendedRational → ExtendedRational
  | nan => nan
  | negInf | posInf => posInf
  | number value => number |value|

/-! ### Laws of the order -/

theorem eq_self (hNumber : a ≠ nan) : eq a a = true := by
  cases a with
  | nan => exact absurd rfl hNumber
  | negInf => rfl
  | number value => exact beq_self_eq_true _
  | posInf => rfl

theorem ne_nan_of_le_left (hLe : a ≤ b) : a ≠ nan := by
  rw [le_iff] at hLe
  exact hLe.1

theorem ne_nan_of_le_right (hLe : a ≤ b) : b ≠ nan := by
  rw [le_iff] at hLe
  exact hLe.2.1

theorem le_self (hNumber : a ≠ nan) : a ≤ a := by
  rw [le_iff]
  exact ⟨hNumber, hNumber, le_rfl⟩

theorem le_of_lt (hLt : a < b) : a ≤ b := by
  rw [lt_iff] at hLt
  rw [le_iff]
  exact ⟨hLt.1, hLt.2.1, hLt.2.2.le⟩

theorem le_of_not_lt (hLeft : a ≠ nan) (hRight : b ≠ nan) (hLt : ¬ a < b) : b ≤ a := by
  rw [le_iff]
  refine ⟨hRight, hLeft, not_lt.mp fun hPosition => hLt ?_⟩
  rw [lt_iff]
  exact ⟨hLeft, hRight, hPosition⟩

theorem not_le_of_lt (hLt : a < b) : ¬ b ≤ a := by
  intro hLe
  rw [lt_iff] at hLt
  rw [le_iff] at hLe
  exact absurd hLt.2.2 (not_lt.mpr hLe.2.2)

theorem lt_of_not_le (hLeft : a ≠ nan) (hRight : b ≠ nan) (hLe : ¬ a ≤ b) : b < a := by
  rw [lt_iff]
  refine ⟨hRight, hLeft, not_le.mp fun hPosition => hLe ?_⟩
  rw [le_iff]
  exact ⟨hLeft, hRight, hPosition⟩

theorem le_trans (hFirst : a ≤ b) (hSecond : b ≤ c) : a ≤ c := by
  rw [le_iff] at hFirst hSecond ⊢
  exact ⟨hFirst.1, hSecond.2.1, hFirst.2.2.trans hSecond.2.2⟩

theorem lt_of_lt_of_le (hFirst : a < b) (hSecond : b ≤ c) : a < c := by
  rw [le_iff] at hSecond
  rw [lt_iff] at hFirst ⊢
  exact ⟨hFirst.1, hSecond.2.1, hFirst.2.2.trans_le hSecond.2.2⟩

theorem lt_of_le_of_lt (hFirst : a ≤ b) (hSecond : b < c) : a < c := by
  rw [le_iff] at hFirst
  rw [lt_iff] at hSecond ⊢
  exact ⟨hFirst.1, hSecond.2.1, hFirst.2.2.trans_lt hSecond.2.2⟩

/-! ### Numbers and products -/

@[simp] theorem number_lt_number {a b : ℚ} : number a < number b ↔ a < b := decide_eq_true_iff

@[simp] theorem number_le_number {a b : ℚ} : number a ≤ number b ↔ a ≤ b := decide_eq_true_iff

theorem isFinite_of_le (hPos : number 0 < a) (hLe : a ≤ b) (hFinite : b.isFinite = true) :
    a.isFinite = true := by
  cases b with
  | nan | negInf | posInf => exact (nomatch hFinite)
  | number bound =>
      cases a with
      | nan | negInf => exact (nomatch hPos)
      | number value => rfl
      | posInf => exact (nomatch hLe)

theorem mul_nan (a : ExtendedRational) : a.mul nan = nan := by
  cases a with
  | nan | negInf | posInf => rfl
  | number value =>
      change infinity (SignType.sign value * 0) = nan
      rw [mul_zero]
      rfl

/-- A product of positive factors is positive. -/
theorem mul_positive (hLeft : number 0 < a) (hRight : number 0 < b) : number 0 < a.mul b := by
  cases a with
  | nan | negInf => exact absurd hLeft (by decide)
  | number value =>
      rw [number_lt_number] at hLeft
      cases b with
      | nan | negInf => exact absurd hRight (by decide)
      | number factor =>
          rw [number_lt_number] at hRight
          exact number_lt_number.mpr (mul_pos hLeft hRight)
      | posInf =>
          change number 0 < infinity (SignType.sign value * 1)
          rw [sign_pos hLeft]
          decide
  | posInf =>
      cases b with
      | nan | negInf => exact absurd hRight (by decide)
      | number factor =>
          rw [number_lt_number] at hRight
          change number 0 < infinity (1 * SignType.sign factor)
          rw [sign_pos hRight]
          decide
      | posInf => decide

/-- A positive number or infinity grows with a factor of at least one. -/
theorem le_mul_number (hPos : number 0 < a) {factor : ℚ} (hFactor : 1 ≤ factor) :
    a ≤ a.mul (number factor) := by
  cases a with
  | nan | negInf => exact (nomatch hPos)
  | number value =>
      rw [number_lt_number] at hPos
      exact number_le_number.mpr (le_mul_of_one_le_right hPos.le hFactor)
  | posInf =>
      change posInf ≤ infinity (1 * SignType.sign factor)
      rw [sign_pos (zero_lt_one.trans_le hFactor)]
      decide

end ExtendedRational

end Library
