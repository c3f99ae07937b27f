import Mathlib.Tactic.Linarith
import Oakfield.Integrator.Stages
import Oakfield.KernelIR.ExtendedDouble

/-! The timestep controller, on doubles which are extended rationals. -/
namespace Oakfield

open CDouble hiding nan
open Library
open Library.ExtendedRational (number nan)

/-! ### Configuration -/

section

variable {D : Type} [CDouble D]

/-- The part of `IntegratorConfig` which decides how timesteps are controlled; `drift` is
whether there is a drift function. -/
structure IntegratorConfig (D : Type) where
  drift : Bool
  initialDt : D
  minDt : D
  maxDt : D
  tolerance : D
  safety : D
  adaptive : Bool
  enableStochastic : Bool
  stochasticStrength : D

/-- The defaults where no configuration is given. -/
def IntegratorConfig.defaults : IntegratorConfig D where
  drift := false
  initialDt := lit 1 (-2)
  minDt := lit 1 (-6)
  maxDt := half
  tolerance := lit 1 (-4)
  safety := lit 9 (-1)
  adaptive := true
  enableStochastic := false
  stochasticStrength := lit 1 (-2)

/-- `integrator_configure`. -/
def integratorConfigure (config : Option (IntegratorConfig D)) :
    Except SimError (Integrator D) :=
  let config := config.getD .defaults
  if !config.drift then .error .invalidArgument
  else
    let minDt := if gt config.minDt zero then config.minDt else lit 1 (-6)
    let configured : Integrator D := {
      adaptive := config.adaptive
      enableStochastic := config.enableStochastic
      minDt := minDt
      maxDt := if gt config.maxDt minDt then config.maxDt else mul minDt (lit 100 0)
      tolerance := if gt config.tolerance zero then config.tolerance else lit 1 (-4)
      safety := if gt config.safety zero then config.safety else lit 9 (-1)
      currentDt := if gt config.initialDt zero then config.initialDt else minDt
      lastStep := zero
      lastError := zero
      stochasticStrength :=
        if ge config.stochasticStrength zero then config.stochasticStrength else zero
      lastAttemptCount := 1
      lastRejectionCount := 0 }
    let current := configured.clampDt configured.currentDt
    .ok { configured with currentDt := current, lastStep := current }

end

/-! ### Clamping -/

variable [CDouble ExtendedRational] [ExtendedDouble] {integrator : Integrator ExtendedRational}
  {dt errorNorm methodOrder : ExtendedRational}

/-- The bounds and factors of an integrator are positive, and its bounds are in order. -/
structure Integrator.WellConfigured (integrator : Integrator ExtendedRational) : Prop where
  minDt : number 0 < integrator.minDt
  bounds : integrator.minDt ≤ integrator.maxDt
  tolerance : number 0 < integrator.tolerance
  safety : number 0 < integrator.safety

/-- A timestep within the bounds of an integrator. -/
def Integrator.InRange (integrator : Integrator ExtendedRational) (dt : ExtendedRational) : Prop :=
  integrator.minDt ≤ dt ∧ dt ≤ integrator.maxDt

namespace Integrator

omit [CDouble ExtendedRational] [ExtendedDouble] in
theorem InRange.ne_nan (hRange : integrator.InRange dt) : dt ≠ nan :=
  ExtendedRational.ne_nan_of_le_left hRange.2

/-- A timestep within the bounds is kept. -/
theorem InRange.clampDt_eq (hRange : integrator.InRange dt) : integrator.clampDt dt = dt := by
  have hMin : ¬ lt dt integrator.minDt = true := fun hLt =>
    ExtendedRational.not_le_of_lt ((ExtendedDouble.lt_iff _ _).mp hLt) hRange.1
  have hMax : ¬ gt dt integrator.maxDt = true := fun hLt =>
    ExtendedRational.not_le_of_lt ((ExtendedDouble.lt_iff _ _).mp hLt) hRange.2
  unfold clampDt
  dsimp only
  rw [if_neg hMin, if_neg hMax]

/-- Clamping brings everything within the bounds that is a number or an infinity. -/
theorem WellConfigured.clampDt_inRange (hWell : integrator.WellConfigured) (hNumber : dt ≠ nan) :
    integrator.InRange (integrator.clampDt dt) := by
  have hMinNumber := ExtendedRational.ne_nan_of_le_left hWell.bounds
  have hMaxNumber := ExtendedRational.ne_nan_of_le_right hWell.bounds
  have hMax := ExtendedRational.le_self hMaxNumber
  unfold clampDt
  dsimp only
  split_ifs with hBelow hAbove hAbove
  · exact ⟨hWell.bounds, hMax⟩
  · exact ⟨ExtendedRational.le_self hMinNumber, hWell.bounds⟩
  · exact ⟨hWell.bounds, hMax⟩
  · exact ⟨ExtendedRational.le_of_not_lt hNumber hMinNumber
        fun hLt => hBelow ((ExtendedDouble.lt_iff _ _).mpr hLt),
      ExtendedRational.le_of_not_lt hMaxNumber hNumber
        fun hLt => hAbove ((ExtendedDouble.lt_iff _ _).mpr hLt)⟩

/-- Clamping lets a NaN pass. -/
theorem clampDt_nan : integrator.clampDt nan = nan := by
  have hMin : ¬ lt nan integrator.minDt = true := fun hLt =>
    (ExtendedRational.lt_iff.mp ((ExtendedDouble.lt_iff _ _).mp hLt)).1 rfl
  have hMax : ¬ gt nan integrator.maxDt = true := fun hLt =>
    (ExtendedRational.lt_iff.mp ((ExtendedDouble.lt_iff _ _).mp hLt)).2.1 rfl
  unfold clampDt
  dsimp only
  rw [if_neg hMin, if_neg hMax]

theorem WellConfigured.firstStep_inRange (hWell : integrator.WellConfigured)
    (hCurrent : integrator.InRange integrator.currentDt) (dt : ExtendedRational) :
    integrator.InRange (integrator.firstStep dt) := by
  unfold firstStep
  split_ifs with hPos
  · exact hWell.clampDt_inRange (ExtendedRational.lt_iff.mp
      ((ExtendedDouble.gt_iff _ _).mp hPos)).2.1
  · exact hWell.clampDt_inRange hCurrent.ne_nan

omit [CDouble ExtendedRational] [ExtendedDouble] in
theorem InRange.pos (hWell : integrator.WellConfigured) (hRange : integrator.InRange dt) :
    number 0 < dt :=
  ExtendedRational.lt_of_lt_of_le hWell.minDt hRange.1

/-! ### Suggestions -/

/-- The factor of `integrator_suggest_dt` before its limits. -/
def growthFactor (integrator : Integrator ExtendedRational)
    (errorNorm methodOrder : ExtendedRational) : ExtendedRational :=
  let safeguardedError := if le errorNorm (lit 1 (-12)) then lit 1 (-12) else errorNorm
  let order := if lt methodOrder one then one else methodOrder
  mul integrator.safety
    (pow (div integrator.tolerance safeguardedError) (div one (add order one)))

/-- The factor within its limits. -/
def limitFactor (factor : ExtendedRational) : ExtendedRational :=
  if gt factor two then two
  else if lt factor (lit 25 (-2)) then lit 25 (-2)
  else factor

omit [ExtendedDouble] in
theorem suggestDt_eq (integrator : Integrator ExtendedRational)
    (dt errorNorm methodOrder : ExtendedRational) :
    integrator.suggestDt dt errorNorm methodOrder =
      if !integrator.adaptive then integrator.clampDt dt
      else integrator.clampDt
        (mul dt (limitFactor (integrator.growthFactor errorNorm methodOrder))) := rfl

/-- A factor that is not a NaN is limited to a positive one. -/
theorem limitFactor_pos {factor : ExtendedRational} (hNumber : factor ≠ nan) :
    number 0 < limitFactor factor := by
  have hQuarter : (lit 25 (-2) : ExtendedRational) = number (1 / 4) := by
    rw [ExtendedDouble.lit_eq]
    norm_num
  unfold limitFactor
  rw [ExtendedDouble.two_eq, hQuarter]
  split_ifs with hLarge hSmall
  · exact ExtendedRational.number_lt_number.mpr (by norm_num)
  · exact ExtendedRational.number_lt_number.mpr (by norm_num)
  · refine ExtendedRational.lt_of_lt_of_le
      (ExtendedRational.number_lt_number.mpr (by norm_num : (0 : ℚ) < 1 / 4)) ?_
    exact ExtendedRational.le_of_not_lt hNumber (by decide)
      fun hLt => hSmall ((ExtendedDouble.lt_iff _ _).mpr hLt)

theorem limitFactor_nan : limitFactor nan = nan := by
  unfold limitFactor
  rw [if_neg, if_neg]
  · exact fun hLt => (ExtendedRational.lt_iff.mp ((ExtendedDouble.lt_iff _ _).mp hLt)).1 rfl
  · exact fun hLt => (ExtendedRational.lt_iff.mp ((ExtendedDouble.lt_iff _ _).mp hLt)).2.1 rfl

/-- From a timestep within the bounds, a suggestion leaves them exactly when its factor is a
NaN. -/
theorem WellConfigured.suggestDt_inRange_iff (hWell : integrator.WellConfigured)
    (hRange : integrator.InRange dt) :
    integrator.InRange (integrator.suggestDt dt errorNorm methodOrder) ↔
      (integrator.adaptive = true → integrator.growthFactor errorNorm methodOrder ≠ nan) := by
  rw [suggestDt_eq]
  cases integrator.adaptive with
  | false =>
      rw [if_pos (by decide)]
      exact iff_of_true (hWell.clampDt_inRange hRange.ne_nan) fun hAdaptive => (nomatch hAdaptive)
  | true =>
      rw [if_neg (by decide), ExtendedDouble.mul_eq]
      constructor
      · intro hSuggested _ hFactor
        refine hSuggested.ne_nan ?_
        rw [hFactor, limitFactor_nan, ExtendedRational.mul_nan, clampDt_nan]
      · intro hFactor
        have hPos := ExtendedRational.mul_positive (hRange.pos hWell)
          (limitFactor_pos (hFactor rfl))
        exact hWell.clampDt_inRange (ExtendedRational.lt_iff.mp hPos).2.1

/-! ### Rejections -/

/-- The step of `integrator_reject_dt` for a finite timestep above the lower bound, before the
bounds apply: the suggestion, or a fallback. -/
def reducedDt (integrator : Integrator ExtendedRational)
    (dt errorNorm methodOrder : ExtendedRational) : ExtendedRational :=
  let unusable (value : ExtendedRational) := !isfinite value || !gt value zero || ge value dt
  let suggested := integrator.suggestDt dt errorNorm methodOrder
  if unusable suggested then
    let fallback := mul (mul integrator.safety half) dt
    if unusable fallback then mul half dt else fallback
  else suggested

theorem lt_of_usable {value : ExtendedRational} (hNumber : dt ≠ nan)
    (hUsable : ¬ (!isfinite value || !gt value zero || ge value dt) = true) : value < dt := by
  rw [Bool.or_eq_true, Bool.or_eq_true, not_or, not_or] at hUsable
  obtain ⟨⟨hFinite, -⟩, hBelow⟩ := hUsable
  refine ExtendedRational.lt_of_not_le hNumber ?_
    fun hLe => hBelow ((ExtendedDouble.le_iff _ _).mpr hLe)
  rintro rfl
  exact hFinite (by rw [ExtendedDouble.isfinite_eq]; rfl)

/-- The reduction is below the timestep. -/
theorem reducedDt_lt (integrator : Integrator ExtendedRational)
    (errorNorm methodOrder : ExtendedRational) (hPos : number 0 < dt)
    (hFinite : dt.isFinite = true) : integrator.reducedDt dt errorNorm methodOrder < dt := by
  have hNumber := (ExtendedRational.lt_iff.mp hPos).2.1
  unfold reducedDt
  dsimp only
  split_ifs with hSuggested hFallback
  · cases dt with
    | nan | negInf | posInf => exact (nomatch hFinite)
    | number value =>
        rw [ExtendedRational.number_lt_number] at hPos
        rw [ExtendedDouble.mul_eq, ExtendedDouble.half_eq]
        exact ExtendedRational.number_lt_number.mpr (by linarith)
  · exact lt_of_usable hNumber hFallback
  · exact lt_of_usable hNumber hSuggested

/-- A rejection stays within the bounds, and is below each timestep above the lower one,
whatever the error estimate. -/
theorem WellConfigured.rejectDt_spec (hWell : integrator.WellConfigured)
    (hRange : integrator.InRange dt) (errorNorm methodOrder : ExtendedRational) :
    integrator.InRange (integrator.rejectDt dt errorNorm methodOrder) ∧
      (integrator.minDt < dt → integrator.rejectDt dt errorNorm methodOrder < dt) := by
  have hMin : integrator.InRange integrator.minDt :=
    ⟨ExtendedRational.le_self (ExtendedRational.ne_nan_of_le_left hWell.bounds), hWell.bounds⟩
  by_cases hKeep : (!gt dt integrator.minDt || !isfinite dt) = true
  · rw [rejectDt, if_pos hKeep, hMin.clampDt_eq]
    exact ⟨hMin, id⟩
  · have hRejected : integrator.rejectDt dt errorNorm methodOrder =
        let reduced := integrator.reducedDt dt errorNorm methodOrder
        let raised := if lt reduced integrator.minDt then integrator.minDt else reduced
        integrator.clampDt
          (if ge raised dt then fmax integrator.minDt (mul half dt) else raised) := by
      rw [rejectDt, if_neg hKeep]
      rfl
    rw [Bool.or_eq_true, not_or, Bool.not_eq_true', Bool.not_eq_true', Bool.not_eq_false,
      Bool.not_eq_false, ExtendedDouble.isfinite_eq] at hKeep
    obtain ⟨hGt, hFinite⟩ := hKeep
    have hAbove : integrator.minDt < dt := (ExtendedDouble.lt_iff _ _).mp hGt
    have hReduced := integrator.reducedDt_lt errorNorm methodOrder (hRange.pos hWell) hFinite
    rw [hRejected]
    dsimp only
    generalize integrator.reducedDt dt errorNorm methodOrder = reduced at hReduced
    -- The lower bound leaves the reduction below the timestep, so no third fallback is taken.
    have hRaised : integrator.minDt ≤ (if lt reduced integrator.minDt then integrator.minDt
        else reduced) ∧
        (if lt reduced integrator.minDt then integrator.minDt else reduced) < dt := by
      split_ifs with hBelow
      · exact ⟨hMin.1, hAbove⟩
      · exact ⟨ExtendedRational.le_of_not_lt (ExtendedRational.lt_iff.mp hReduced).1 hMin.ne_nan
          fun hLt => hBelow ((ExtendedDouble.lt_iff _ _).mpr hLt), hReduced⟩
    generalize (if lt reduced integrator.minDt then integrator.minDt else reduced) = raised
      at hRaised
    have hInRange : integrator.InRange raised :=
      ⟨hRaised.1, ExtendedRational.le_trans (ExtendedRational.le_of_lt hRaised.2) hRange.2⟩
    have hBelow : ¬ ge raised dt = true := fun hGe =>
      ExtendedRational.not_le_of_lt hRaised.2 ((ExtendedDouble.ge_iff _ _).mp hGe)
    rw [if_neg hBelow, hInRange.clampDt_eq]
    exact ⟨hInRange, fun _ => hRaised.2⟩

end Integrator

/-! ### Configured integrators -/

theorem pos_of_default {value default : ExtendedRational} (hDefault : number 0 < default) :
    number 0 < if gt value zero then value else default := by
  split_ifs with hPos
  · rw [ExtendedDouble.gt_iff, ExtendedDouble.zero_eq] at hPos
    exact hPos
  · exact hDefault

theorem lit_pos {mantissa : ℤ} (hPos : 0 < mantissa) (exponent : ℤ) :
    number 0 < (lit mantissa exponent : ExtendedRational) := by
  rw [ExtendedDouble.lit_eq]
  exact ExtendedRational.number_lt_number.mpr
    (mul_pos (Int.cast_pos.mpr hPos) (zpow_pos (by norm_num) exponent))

/-- Whatever is configured, the bounds are in order and the first timestep is within them. -/
theorem integratorConfigure_spec {config : Option (IntegratorConfig ExtendedRational)}
    (hConfigured : integratorConfigure config = .ok integrator) :
    integrator.WellConfigured ∧ integrator.InRange integrator.currentDt := by
  unfold integratorConfigure at hConfigured
  generalize config.getD .defaults = config at hConfigured
  dsimp only at hConfigured
  cases hDrift : config.drift with
  | false =>
      rw [hDrift, if_pos (by decide)] at hConfigured
      exact (nomatch hConfigured)
  | true =>
      rw [hDrift, if_neg (by decide)] at hConfigured
      obtain rfl := Except.ok.inj hConfigured
      have hMin : number 0 < if gt config.minDt zero then config.minDt else lit 1 (-6) :=
        pos_of_default (lit_pos (by decide) _)
      generalize (if gt config.minDt zero then config.minDt else lit 1 (-6)) = minDt at hMin ⊢
      have hMax : minDt ≤ if gt config.maxDt minDt then config.maxDt else mul minDt
        (lit 100 0) := by
        split_ifs with hGt
        · exact ExtendedRational.le_of_lt ((ExtendedDouble.gt_iff _ _).mp hGt)
        · rw [ExtendedDouble.mul_eq, ExtendedDouble.lit_zero]
          exact ExtendedRational.le_mul_number hMin (by norm_num)
      have hInitial : number 0 < if gt config.initialDt zero then config.initialDt else minDt :=
        pos_of_default hMin
      have hTolerance : number 0 < if gt config.tolerance zero then config.tolerance
          else lit 1 (-4) := pos_of_default (lit_pos (by decide) _)
      have hSafety : number 0 < if gt config.safety zero then config.safety else lit 9 (-1) :=
        pos_of_default (lit_pos (by decide) _)
      have hNumber := (ExtendedRational.lt_iff.mp hInitial).2.1
      refine ⟨⟨hMin, hMax, hTolerance, hSafety⟩, ?_⟩
      exact Integrator.WellConfigured.clampDt_inRange ⟨hMin, hMax, hTolerance, hSafety⟩ hNumber

end Oakfield
