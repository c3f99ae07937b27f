import Oakfield.KernelIR.ExactDouble
import Oakfield.Library.Play
import Oakfield.Library.Run
import Oakfield.Operators.Hysteretic

/-! What the `hysteretic` operator remembers, in exact arithmetic. -/
namespace Oakfield

open CDouble Library.Play Library.Run

attribute [local instance] two_atLeastTwo

variable {K : Type} [Field K] [LinearOrder K] [IsStrictOrderedRing K] [CDouble K] [ExactDouble K]

namespace SimHystereticOperatorConfig

variable (config : SimHystereticOperatorConfig K)

/-! ### Normalized configurations -/

omit [IsStrictOrderedRing K] in
theorem fmax_eq (a b : K) : fmax a b = max a b := by
  unfold fmax
  by_cases hLess : a < b
  · rw [if_pos ((ExactDouble.lt_iff a b).mpr hLess), max_eq_right hLess.le]
  · rw [if_neg fun hLt => hLess ((ExactDouble.lt_iff a b).mp hLt),
      if_pos ((ExactDouble.eq_iff a a).mpr rfl), max_eq_left (not_lt.mp hLess)]

omit [IsStrictOrderedRing K] in
theorem gt_iff (a b : K) : gt a b = true ↔ b < a := ExactDouble.lt_iff b a

theorem normalize_thresholds : config.normalize.thresholdLow < config.normalize.thresholdHigh := by
  have hFields : config.normalize.thresholdLow = config.normalizeThresholds.thresholdLow ∧
      config.normalize.thresholdHigh = config.normalizeThresholds.thresholdHigh := ⟨rfl, rfl⟩
  rw [hFields.1, hFields.2]
  unfold normalizeThresholds
  dsimp only
  generalize (if !isfinite config.thresholdWidth || le config.thresholdWidth zero then _
    else config.thresholdWidth) = raw
  have hWidth : 0 < (if gt raw zero then raw else one : K) := by
    by_cases hRaw : gt raw zero = true
    · rw [if_pos hRaw]
      simpa [gt_iff] using hRaw
    · rw [if_neg hRaw, ExactDouble.one_eq]
      exact zero_lt_one
  generalize (if gt raw zero then raw else one : K) = width at hWidth ⊢
  cases config.thresholdMode with
  | centerWidth =>
      simp only [ExactDouble.sub_eq, ExactDouble.add_eq, ExactDouble.mul_eq, ExactDouble.half_eq]
      linarith
  | bounds =>
      dsimp only
      split
      case isTrue hSwapped =>
        rw [ExactDouble.add_eq, fmax_eq]
        exact lt_add_of_pos_right _ (lt_max_of_lt_left hWidth)
      case isFalse hOrdered =>
        exact not_le.mp fun hLe => hOrdered ((ExactDouble.le_iff _ _).mpr hLe)

theorem normalize_outputs : config.normalize.outputLow < config.normalize.outputHigh := by
  have hFields : config.normalize.outputLow = config.normalizeThresholds.normalizeLimits.outputLow ∧
      config.normalize.outputHigh = config.normalizeThresholds.normalizeLimits.outputHigh :=
    ⟨rfl, rfl⟩
  rw [hFields.1, hFields.2]
  generalize config.normalizeThresholds = config
  unfold normalizeLimits
  dsimp only
  generalize finiteOr zero config.outputLow = low
  generalize finiteOr one config.outputHigh = high
  have hDistinct : (if eq high low then add low one else high) ≠ low := by
    by_cases hEq : eq high low = true
    · rw [if_pos hEq, ExactDouble.add_eq, ExactDouble.one_eq]
      exact (lt_add_one low).ne'
    · rw [if_neg hEq]
      exact fun hSame => hEq ((ExactDouble.eq_iff _ _).mpr hSame)
  generalize (if eq high low then add low one else high) = high at hDistinct ⊢
  by_cases hSwapped : gt low high = true
  · rw [if_pos hSwapped, if_pos hSwapped]
    exact (gt_iff _ _).mp hSwapped
  · rw [if_neg hSwapped, if_neg hSwapped]
    exact lt_of_le_of_ne (not_lt.mp fun hLt => hSwapped ((gt_iff _ _).mpr hLt)) hDistinct.symm

omit [IsStrictOrderedRing K] in
theorem normalize_limits : config.normalize.stateMin ≤ config.normalize.stateMax := by
  have hFields : config.normalize.stateMin = config.normalizeThresholds.normalizeLimits.stateMin ∧
      config.normalize.stateMax = config.normalizeThresholds.normalizeLimits.stateMax :=
    ⟨rfl, rfl⟩
  rw [hFields.1, hFields.2]
  generalize config.normalizeThresholds = config
  unfold normalizeLimits
  dsimp only
  generalize finiteOr (neg dblMax) config.stateMin = least
  generalize finiteOr dblMax config.stateMax = greatest
  by_cases hSwapped : gt least greatest = true
  · rw [if_pos hSwapped, if_pos hSwapped]
    exact ((gt_iff _ _).mp hSwapped).le
  · rw [if_neg hSwapped, if_neg hSwapped]
    exact not_lt.mp fun hLt => hSwapped ((gt_iff _ _).mpr hLt)

theorem normalize_radius : 0 ≤ config.normalize.playRadius := by
  have hMin : (0 : K) ≤ hystWidthMin := by
    rw [hystWidthMin, ExactDouble.lit_eq]
    positivity
  have hFloor : ∃ radius, config.normalize.playRadius =
      if lt radius hystWidthMin then hystWidthMin else radius := ⟨_, rfl⟩
  obtain ⟨radius, hEq⟩ := hFloor
  rw [hEq]
  by_cases hSmall : lt radius hystWidthMin = true
  · rw [if_pos hSmall]
    exact hMin
  · rw [if_neg hSmall]
    exact hMin.trans (not_lt.mp fun hLt => hSmall ((ExactDouble.lt_iff _ _).mpr hLt))

theorem normalize_smooth : 0 ≤ config.normalize.smooth := by
  have hNormalize : config.normalize.smooth =
    config.normalizeThresholds.normalizeLimits.smooth := rfl
  rw [hNormalize]
  generalize config.normalizeThresholds = config
  have hField : config.normalizeLimits.smooth =
      if !isfinite config.smooth || lt config.smooth zero then zero
      else if gt config.smooth one then one else config.smooth := rfl
  rw [hField]
  by_cases hDefault : (!isfinite config.smooth || lt config.smooth zero) = true
  · rw [if_pos hDefault, ExactDouble.zero_eq]
  · rw [if_neg hDefault]
    by_cases hLarge : gt config.smooth one = true
    · rw [if_pos hLarge, ExactDouble.one_eq]
      exact zero_le_one
    · rw [if_neg hLarge]
      have hPositive : ¬lt config.smooth zero = true := fun hLt =>
        hDefault (by rw [hLt, Bool.or_true])
      simpa using hPositive

/-! ### The latch of the Schmitt trigger -/

/-- The direction of the most recent crossing of a threshold, after the transformed input `x`. -/
def crossed (before : Option Bool) (x : K) : Option Bool :=
  if config.thresholdHigh ≤ x then some true
  else if x ≤ config.thresholdLow then some false
  else before

/-- The level which stands for a direction. -/
def level (up : Bool) : K := if up then config.outputHigh else config.outputLow

/-- The level from which the code tells the last level. -/
def outMid : K := 1 / 2 * (config.outputLow + config.outputHigh)

/-- One application to a scalar, with the direction of the last crossing beside its state. -/
def latchStep (state : HystereticCell K × Option Bool) (call : K × K) :
    HystereticCell K × Option Bool :=
  (config.advance call.1 call.2 state.1, config.crossed state.2 (config.transformInput call.2))

/-- Once a threshold was crossed, the level that is chosen is the one of the last crossing. -/
def Latched (state : HystereticCell K × Option Bool) (call : K × K) : Prop :=
  ∀ up, config.crossed state.2 (config.transformInput call.2) = some up →
    (config.schmitt (config.transformInput call.2) state.1.output = config.outputHigh ↔ up = true)

/-- `rate_step`, in a call with the step `dt`. -/
def rateStep (dt : K) : K :=
  if 0 < config.rateLimit then
    config.rateLimit * (if 0 < dt ∧ isfinite dt = true then dt else 1)
  else 0

/-- A level that is shaped from the state `yPrev` stays on its own side of the middle: the smoothed
level does, and a change by the rate is large enough to reach that side, or too small to leave it;
and the clamp leaves it there. -/
def KeepsSide (dt yPrev : K) : Bool → Prop
  | true =>
      config.outMid ≤ config.stateMax ∧ (config.outMid ≤ config.stateMin ∨
        (config.outMid ≤ (1 - config.smooth) * config.outputHigh + config.smooth * yPrev ∨
          0 < config.rateStep dt ∧ config.outMid ≤ yPrev - config.rateStep dt) ∧
        (config.rateStep dt ≤ 0 ∨ config.outMid ≤ yPrev + config.rateStep dt))
  | false =>
      config.stateMin < config.outMid ∧ (config.stateMax < config.outMid ∨
        ((1 - config.smooth) * config.outputLow + config.smooth * yPrev < config.outMid ∨
          0 < config.rateStep dt ∧ yPrev + config.rateStep dt < config.outMid) ∧
        (config.rateStep dt ≤ 0 ∨ yPrev - config.rateStep dt < config.outMid))

/-- The condition on a call: once a threshold was crossed, the level of the last crossing stays on
its side of the middle. -/
def ShapeKeeps (state : HystereticCell K × Option Bool) (call : K × K) : Prop :=
  ∀ up, config.crossed state.2 (config.transformInput call.2) = some up →
    config.KeepsSide call.1 state.1.output up

/-- The stored output is on the side of the last crossing. -/
def OnSide (state : HystereticCell K × Option Bool) : Prop :=
  ∀ up, state.2 = some up → (config.outMid ≤ state.1.output ↔ up = true)

omit [IsStrictOrderedRing K] in
/-- The Schmitt trigger in terms of the order. -/
theorem schmitt_eq [CharZero K] (x yPrev : K) :
    config.schmitt x yPrev =
      if config.outMid ≤ yPrev then
        if x ≤ config.thresholdLow then config.outputLow else config.outputHigh
      else if config.thresholdHigh ≤ x then config.outputHigh else config.outputLow := by
  unfold schmitt outMid
  simp only [ge, ExactDouble.le_iff, ExactDouble.mul_eq, ExactDouble.add_eq, ExactDouble.half_eq]

/-- On the side of the last crossing the trigger chooses the level of the last crossing. -/
theorem schmitt_latched {state : HystereticCell K × Option Bool}
    (hThresholds : config.thresholdLow < config.thresholdHigh) (hSide : config.OnSide state)
    {x : K} {up : Bool} (hCrossed : config.crossed state.2 x = some up) :
    config.schmitt x state.1.output = config.level up := by
  rw [schmitt_eq]
  unfold crossed at hCrossed
  unfold level
  by_cases hHigh : config.thresholdHigh ≤ x
  · rw [if_pos hHigh] at hCrossed
    obtain rfl := Option.some.inj hCrossed
    have hAbove : ¬x ≤ config.thresholdLow := not_le.mpr (hThresholds.trans_le hHigh)
    rw [if_neg hAbove, if_pos hHigh, if_pos rfl, ite_self]
  · rw [if_neg hHigh] at hCrossed
    by_cases hLow : x ≤ config.thresholdLow
    · rw [if_pos hLow] at hCrossed
      obtain rfl := Option.some.inj hCrossed
      rw [if_pos hLow, if_neg hHigh, ite_self]
      rfl
    · rw [if_neg hLow] at hCrossed
      rw [if_neg hLow, if_neg hHigh]
      exact if_congr (hSide up hCrossed) rfl rfl

/-! ### What the shaping leaves of a level -/

omit [IsStrictOrderedRing K] in
theorem rateStep_eq (dt : K) :
    (let dtEffective := if gt dt zero && isfinite dt then dt else zero
    if gt config.rateLimit zero then
      mul config.rateLimit (if gt dtEffective zero then dtEffective else one)
    else zero) = config.rateStep dt := by
  unfold rateStep
  simp only [gt, Bool.and_eq_true, ExactDouble.lt_iff, ExactDouble.mul_eq, ExactDouble.zero_eq,
    ExactDouble.one_eq]
  by_cases hRunning : 0 < dt ∧ isfinite dt = true
  · rw [if_pos hRunning, if_pos hRunning.1, if_pos hRunning]
  · rw [if_neg hRunning, if_neg (lt_irrefl 0), if_neg hRunning]

omit [IsStrictOrderedRing K] in
/-- The three stages of the shaping: the weighted mean, the limited change and the clamp. -/
theorem settle_eq (hSmooth : 0 ≤ config.smooth) (dt yPrev yNext : K) :
    config.settle (if gt dt zero && isfinite dt then dt else zero) yPrev yNext =
      config.clampState
        (if 0 < config.rateStep dt then
          yPrev + clampSymmetric (config.rateStep dt)
            ((1 - config.smooth) * yNext + config.smooth * yPrev - yPrev)
        else (1 - config.smooth) * yNext + config.smooth * yPrev) := by
  have hSmoothed : (if gt config.smooth zero then
      add (mul (sub one config.smooth) yNext) (mul config.smooth yPrev) else yNext) =
      (1 - config.smooth) * yNext + config.smooth * yPrev := by
    by_cases hPositive : gt config.smooth zero = true
    · rw [if_pos hPositive]
      simp
    · have hZero : config.smooth = 0 := by
        refine le_antisymm (not_lt.mp fun hLt => hPositive ?_) hSmooth
        rwa [gt_iff, ExactDouble.zero_eq]
      rw [if_neg hPositive, hZero]
      ring
  unfold settle
  dsimp only
  rw [hSmoothed]
  have hRate := config.rateStep_eq dt
  dsimp only at hRate
  rw [hRate]
  simp only [gt, ExactDouble.lt_iff, ExactDouble.zero_eq, ExactDouble.add_eq, ExactDouble.sub_eq]

omit [IsStrictOrderedRing K] in
theorem le_clampState (hLimits : config.stateMin ≤ config.stateMax) (bound value : K) :
    bound ≤ config.clampState value ↔
      bound ≤ config.stateMax ∧ (bound ≤ config.stateMin ∨ bound ≤ value) := by
  unfold clampState
  simp only [gt, ExactDouble.lt_iff]
  split_ifs with hBelow hAbove <;> grind

omit [IsStrictOrderedRing K] in
theorem clampState_lt (hLimits : config.stateMin ≤ config.stateMax) (bound value : K) :
    config.clampState value < bound ↔
      config.stateMin < bound ∧ (config.stateMax < bound ∨ value < bound) := by
  unfold clampState
  simp only [gt, ExactDouble.lt_iff]
  split_ifs with hBelow hAbove <;> grind

theorem le_limited {limit : K} (hLimit : 0 < limit) (bound smoothed y : K) :
    bound ≤ y + clampSymmetric limit (smoothed - y) ↔
      (bound ≤ smoothed ∨ bound ≤ y - limit) ∧ bound ≤ y + limit := by
  unfold clampSymmetric
  simp only [gt, ExactDouble.lt_iff, ExactDouble.neg_eq]
  split_ifs with hBelow hAbove <;> grind

theorem limited_lt {limit : K} (hLimit : 0 < limit) (bound smoothed y : K) :
    y + clampSymmetric limit (smoothed - y) < bound ↔
      (smoothed < bound ∨ y + limit < bound) ∧ y - limit < bound := by
  unfold clampSymmetric
  simp only [gt, ExactDouble.lt_iff, ExactDouble.neg_eq]
  split_ifs with hBelow hAbove <;> grind

/-- The level that is stored is on its own side of the middle exactly where the condition holds. -/
theorem settle_side (hSmooth : 0 ≤ config.smooth) (hLimits : config.stateMin ≤ config.stateMax)
    (dt yPrev : K) (up : Bool) :
    (config.outMid ≤ config.settle (if gt dt zero && isfinite dt then dt else zero) yPrev
      (config.level up) ↔ up = true) ↔ config.KeepsSide dt yPrev up := by
  rw [settle_eq config hSmooth]
  cases up with
  | true =>
      rw [iff_true_intro rfl, iff_true, le_clampState config hLimits, KeepsSide]
      by_cases hRate : 0 < config.rateStep dt
      · rw [if_pos hRate, le_limited hRate]
        simp only [level, if_true]
        grind
      · rw [if_neg hRate]
        simp only [level, if_true]
        grind
  | false =>
      rw [iff_false_intro Bool.false_ne_true, iff_false, not_le, clampState_lt config hLimits,
        KeepsSide]
      by_cases hRate : 0 < config.rateStep dt
      · rw [if_pos hRate, limited_lt hRate]
        simp only [level, Bool.false_eq_true, if_false]
        grind
      · rw [if_neg hRate]
        simp only [level, Bool.false_eq_true, if_false]
        grind

/-- A step on which the shaping keeps the side of the level keeps the stored output on the side of
the last crossing. -/
theorem latchStep_onSide (hMode : config.mode = .schmitt)
    (hThresholds : config.thresholdLow < config.thresholdHigh) (hSmooth : 0 ≤ config.smooth)
    (hLimits : config.stateMin ≤ config.stateMax) {state : HystereticCell K × Option Bool}
    {call : K × K} (hSide : config.OnSide state) (hKeeps : config.ShapeKeeps state call) :
    config.OnSide (config.latchStep state call) := by
  intro up hCrossed
  have hLevel := config.schmitt_latched hThresholds hSide hCrossed
  have hOutput : (config.latchStep state call).1.output =
      config.settle (if gt call.1 zero && isfinite call.1 then call.1 else zero) state.1.output
        (config.level up) := by
    rw [← hLevel, latchStep, advance]
    simp only [hMode]
  rw [hOutput]
  exact (config.settle_side hSmooth hLimits _ _ _).mpr (hKeeps up hCrossed)

theorem latched_of_onSide (hThresholds : config.thresholdLow < config.thresholdHigh)
    (hOutputs : config.outputLow < config.outputHigh) {state : HystereticCell K × Option Bool}
    (hSide : config.OnSide state) (call : K × K) : config.Latched state call := by
  intro up hCrossed
  rw [config.schmitt_latched hThresholds hSide hCrossed]
  cases up with
  | true => simp [level]
  | false => simp [level, hOutputs.ne]

/-! ### The play operator -/

omit [IsStrictOrderedRing K] in
theorem play_eq (x y : K) : config.play x y = Library.Play.play config.playRadius x y := by
  unfold play Library.Play.play
  simp only [gt, ExactDouble.lt_iff, ExactDouble.sub_eq, ExactDouble.add_eq]

/-- The state clamp leaves a value alone. -/
def Unclamped (y : K) : Prop := config.stateMin ≤ y ∧ y ≤ config.stateMax

omit [IsStrictOrderedRing K] in
/-- A call of the play mode without shaping, on the state of a scalar. -/
theorem advance_play (hMode : config.mode = .play) (hSmooth : config.smooth = 0)
    (hRate : config.rateLimit = 0) (call : K × K) (cell : HystereticCell K)
    (hUnclamped : config.Unclamped
      (Library.Play.play config.playRadius (config.transformInput call.2) cell.output)) :
    config.advance call.1 call.2 cell =
      { cell with
        output := Library.Play.play config.playRadius (config.transformInput call.2)
          cell.output } := by
  have hStep : config.rateStep call.1 = 0 := by
    rw [rateStep, hRate, if_neg (lt_irrefl 0)]
  have hSettle : ∀ y, config.Unclamped y →
      config.settle (if gt call.1 zero && isfinite call.1 then call.1 else zero) cell.output y =
        y := by
    intro y hY
    rw [settle_eq config (le_of_eq hSmooth.symm), hStep, if_neg (lt_irrefl 0), hSmooth, sub_zero,
      one_mul, zero_mul, add_zero]
    unfold clampState
    simp only [gt, ExactDouble.lt_iff]
    rw [if_neg (not_lt.mpr hY.1), if_neg (not_lt.mpr hY.2)]
  rw [advance]
  simp only [hMode, play_eq]
  rw [hSettle _ hUnclamped]

omit [Field K] [IsStrictOrderedRing K] [CDouble K] [ExactDouble K] in
theorem Unclamped.between {config : SimHystereticOperatorConfig K} {y value last : K}
    (hY : config.Unclamped y) (hLast : config.Unclamped last) (hBetween : Between y value last) :
    config.Unclamped value := by
  rcases hBetween with ⟨hLow, hHigh⟩ | ⟨hLow, hHigh⟩
  · exact ⟨hY.1.trans hLow, hHigh.trans hLast.2⟩
  · exact ⟨hLast.1.trans hLow, hHigh.trans hY.2⟩

/-- The state of a scalar after a number of calls. -/
def afterCalls (cell : HystereticCell K) (calls : List (K × K)) : HystereticCell K :=
  after (fun cell call => config.advance call.1 call.2 cell) cell calls

/-- A monotone passage to the next input makes no difference after it. -/
theorem advance_passage (hMode : config.mode = .play) (hSmooth : config.smooth = 0)
    (hRate : config.rateLimit = 0) (next : K × K) (passage : List (K × K)) {held : K}
    {cell : HystereticCell K} (hHeld : |held - cell.output| ≤ config.playRadius)
    (hPassage : Passage held (passage.map fun call => config.transformInput call.2)
      (config.transformInput next.2))
    (hCell : config.Unclamped cell.output)
    (hNext : config.Unclamped
      (Library.Play.play config.playRadius (config.transformInput next.2) cell.output)) :
    config.advance next.1 next.2 (config.afterCalls cell passage) =
      config.advance next.1 next.2 cell := by
  induction passage generalizing held cell with
  | nil => rfl
  | cons call passage ih =>
      obtain ⟨hBetween, hRest⟩ := hPassage.next
      have hRadius : 0 ≤ config.playRadius := (abs_nonneg _).trans hHeld
      have hSame := play_play hHeld hBetween
      have hOnWay := hCell.between hNext (play_between hHeld hBetween)
      have hStep := config.advance_play hMode hSmooth hRate call cell hOnWay
      have hNear : |config.transformInput call.2 - (config.advance call.1 call.2 cell).output| ≤
          config.playRadius := by
        rw [hStep]
        exact abs_sub_play_le hRadius _ _
      have hFirst := ih hNear hRest (by rw [hStep]; exact hOnWay)
        (by rw [hStep, hSame]; exact hNext)
      have hLater : config.advance next.1 next.2 (config.advance call.1 call.2 cell) =
          config.advance next.1 next.2 cell := by
        rw [config.advance_play hMode hSmooth hRate next cell hNext,
          config.advance_play hMode hSmooth hRate next _ (by rw [hStep, hSame]; exact hNext), hStep,
          hSame]
      exact hFirst.trans hLater

/-- What a normalized operator remembers. In the Schmitt mode every level that is chosen after a
crossing is the one of the last crossing, in every run whose shaping keeps the levels on their
sides of the middle. In the play mode, without shaping, the state stays within the radius of the
input, and a monotone passage between two inputs changes no later state. -/
theorem normalize_memory :
    (config.normalize.mode = .schmitt → ∀ cell calls,
      EachCall config.normalize.latchStep config.normalize.ShapeKeeps (cell, none) calls →
      EachCall config.normalize.latchStep config.normalize.Latched (cell, none) calls) ∧
    (config.normalize.mode = .play → config.normalize.smooth = 0 →
      config.normalize.rateLimit = 0 → ∀ cell (call : K × K),
      config.normalize.Unclamped
        (config.normalize.play (config.normalize.transformInput call.2) cell.output) →
      |config.normalize.transformInput call.2 -
        (config.normalize.advance call.1 call.2 cell).output| ≤ config.normalize.playRadius ∧
      ∀ passage (next : K × K) later,
        Passage (config.normalize.transformInput call.2)
          (passage.map fun call => config.normalize.transformInput call.2)
          (config.normalize.transformInput next.2) →
        config.normalize.Unclamped (config.normalize.play
          (config.normalize.transformInput next.2)
          (config.normalize.advance call.1 call.2 cell).output) →
        config.normalize.afterCalls cell (call :: passage ++ next :: later) =
          config.normalize.afterCalls cell (call :: next :: later)) := by
  refine ⟨fun hMode cell calls hKeeps => ?_, fun hMode hSmooth hRate cell call hCall => ?_⟩
  · refine EachCall.imp_of_invariant config.normalize.OnSide ?_ ?_ ?_ hKeeps
    · exact fun state call hSide _ => config.normalize.latched_of_onSide
        config.normalize_thresholds config.normalize_outputs hSide call
    · exact fun state call hSide hShape => config.normalize.latchStep_onSide hMode
        config.normalize_thresholds config.normalize_smooth config.normalize_limits hSide hShape
    · exact fun up hNone => nomatch hNone
  · rw [play_eq] at hCall
    have hStep := config.normalize.advance_play hMode hSmooth hRate call cell hCall
    have hNear : |config.normalize.transformInput call.2 -
        (config.normalize.advance call.1 call.2 cell).output| ≤ config.normalize.playRadius := by
      rw [hStep]
      exact abs_sub_play_le config.normalize_radius _ _
    refine ⟨hNear, fun passage next later hPassage hNext => ?_⟩
    rw [play_eq] at hNext
    have hOutput : config.normalize.Unclamped
        (config.normalize.advance call.1 call.2 cell).output := by
      rw [hStep]
      exact hCall
    have hSame := config.normalize.advance_passage hMode hSmooth hRate next passage hNear hPassage
      hOutput hNext
    unfold afterCalls after at hSame ⊢
    rw [List.cons_append, List.foldl_cons, List.foldl_cons, List.foldl_append, List.foldl_cons,
      List.foldl_cons, hSame]

/-- A trigger with the outputs zero and one and a smoothed output. -/
def smoothedTrigger (smooth : ℚ) : SimHystereticOperatorConfig ℚ where
  inputField := 0
  outputField := 0
  mode := .schmitt
  thresholdMode := .bounds
  inputMode := .direct
  inputGain := 1
  inputBias := 0
  thresholdLow := -1 / 2
  thresholdHigh := 1 / 2
  thresholdCenter := 0
  thresholdWidth := 1
  outputLow := 0
  outputHigh := 1
  stateMin := -100
  stateMax := 100
  smooth := smooth
  rateLimit := 0
  accumulate := false
  scaleByDt := false
  initializeFromInput := false
  initialOutput := 0
  initialInput := 0
  initialZ := 0
  playRadius := 0
  bwAlpha := 1
  bwA := 1
  bwBeta := 1
  bwGamma := 1
  bwN := 1
  bwZClamp := 0
  bwXdotClamp := 0
  outputGain := 1
  outputBias := 0

/-- With a little smoothing the level of a crossing outlasts it. -/
theorem normalize_memory_smoothed :
    EachCall (smoothedTrigger (1 / 4)).normalize.latchStep
      (smoothedTrigger (1 / 4)).normalize.Latched
      ((smoothedTrigger (1 / 4)).normalize.initialCell 1, none) [(1, 1), (1, 0)] := by
  refine (normalize_memory (smoothedTrigger (1 / 4))).1 rfl _ _ ⟨fun up hUp => ?_, fun up hUp => ?_,
    trivial⟩
  · cases up with
    | true =>
        dsimp only [KeepsSide]
        decide +kernel
    | false => exact absurd hUp (by decide +kernel)
  · cases up with
    | true =>
        dsimp only [KeepsSide]
        decide +kernel
    | false => exact absurd hUp (by decide +kernel)

/-- With much smoothing the first output after a crossing is still on the low side, and the next
level is low although no threshold was crossed back. -/
theorem latch_lost :
    (smoothedTrigger (9 / 10)).normalize.mode = .schmitt ∧
    ¬EachCall (smoothedTrigger (9 / 10)).normalize.latchStep
      (smoothedTrigger (9 / 10)).normalize.Latched
      ((smoothedTrigger (9 / 10)).normalize.initialCell 1, none) [(1, 1), (1, 0)] := by
  refine ⟨rfl, fun hLatched => ?_⟩
  have hHigh := (hLatched.2.1 true (by decide +kernel)).mpr rfl
  exact absurd hHigh (by decide +kernel)

end SimHystereticOperatorConfig

end Oakfield
