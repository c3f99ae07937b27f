import Mathlib.Algebra.Algebra.Basic
import Mathlib.GroupTheory.GroupAction.Ring
import Mathlib.Tactic.Module
import Oakfield.Integrator.Rkf45Loops
import Oakfield.Integrator.VectorDrift

/-! The coefficients of `rkf45`, pinned by its steps on linear drifts. -/
namespace Oakfield

open KernelIR CDouble Library.Procedure Library.RungeKutta

attribute [local instance] two_atLeastTwo

/-! ### The tableaux -/

section Tableaux

variable (K : Type) [Field K]

def rkf45Rows : List (List K) :=
  [[], [1 / 4], [3 / 32, 9 / 32], [1932 / 2197, -(7200 / 2197), 7296 / 2197],
    [439 / 216, -8, 3680 / 513, -(845 / 4104)],
    [-(8 / 27), 2, -(3544 / 2565), 1859 / 4104, -(11 / 40)]]

/-- The tableau of the state which `rkf45` writes. -/
def rkf45Fifth : Tableau K where
  rows := rkf45Rows K
  weights := [16 / 135, 0, 6656 / 12825, 28561 / 56430, -(9 / 50), 2 / 55]

/-- The tableau of the companion with which `rkf45` estimates its error. -/
def rkf45Fourth : Tableau K where
  rows := rkf45Rows K
  weights := [25 / 216, 0, 1408 / 2565, 2197 / 4104, -(1 / 5)]

end Tableaux

/-! ### Linear drifts -/

section Linear

variable {K V : Type} [Field K] [AddCommGroup V] [Module K V]

/-- The exponential series of `step • drift` before the term of order `order`. -/
def exponentialSeries (drift : Module.End K V) (step : K) (order : ℕ) (state : V) : V :=
  ((List.range order).map fun k => (1 / (k.factorial : K)) • ((step • drift) ^ k) state).sum

variable (drift : Module.End K V) (step : K) (state : V)

theorem apply_pow (k : ℕ) : drift ((drift ^ k) state) = (drift ^ (k + 1)) state := by
  rw [pow_succ', Module.End.mul_apply]

variable [CharZero K]

/-- The slopes of the six stages by the powers of the drift. -/
theorem rkf45_slopes :
    (rkf45Fifth K).slopes drift step state =
      [(drift ^ 1) state,
        (drift ^ 1) state + (1 / 4 * step) • (drift ^ 2) state,
        (drift ^ 1) state + (3 / 8 * step) • (drift ^ 2) state +
          (9 / 128 * step ^ 2) • (drift ^ 3) state,
        (drift ^ 1) state + (12 / 13 * step) • (drift ^ 2) state +
          (72 / 169 * step ^ 2) • (drift ^ 3) state + (513 / 2197 * step ^ 3) • (drift ^ 4) state,
        (drift ^ 1) state + step • (drift ^ 2) state + (1 / 2 * step ^ 2) • (drift ^ 3) state +
          (5 / 12 * step ^ 3) • (drift ^ 4) state - (5 / 104 * step ^ 4) • (drift ^ 5) state,
        (drift ^ 1) state + (1 / 2 * step) • (drift ^ 2) state +
          (1 / 8 * step ^ 2) • (drift ^ 3) state - (1 / 24 * step ^ 3) • (drift ^ 4) state -
          (11 / 1248 * step ^ 4) • (drift ^ 5) state +
          (11 / 832 * step ^ 5) • (drift ^ 6) state] := by
  have hFirst : drift state = (drift ^ 1) state := by rw [pow_one]
  have hCombine (a : K) (rest : List K) (v : V) (vs : List V) :
      combine (a :: rest) (v :: vs) = a • v + combine rest vs := rfl
  have hDone (v : List V) : combine ([] : List K) v = 0 := rfl
  unfold Tableau.slopes rkf45Fifth rkf45Rows
  simp only [slopesFrom, List.nil_append, List.cons_append, hCombine, hDone, map_add, map_smul,
    hFirst, apply_pow, smul_zero, add_zero, List.cons.injEq, and_true, true_and]
  refine ⟨?_, ?_, ?_, ?_, ?_⟩ <;> module

/-- The state is the exponential series through the fifth order, and a term behind it. -/
theorem rkf45Fifth_update :
    (rkf45Fifth K).update drift step state =
      exponentialSeries drift step 6 state + (1 / 2080 : K) • ((step • drift) ^ 6) state := by
  rw [Tableau.update, rkf45_slopes, exponentialSeries]
  simp only [rkf45Fifth, combine, List.zipWith_cons_cons, List.zipWith_nil_right, List.sum_cons,
    List.sum_nil, List.range_succ, List.range_zero, List.nil_append, List.cons_append,
    List.map_cons, List.map_nil, smul_pow, LinearMap.smul_apply, Nat.factorial_succ,
    Nat.factorial_zero, pow_zero, Module.End.one_apply]
  push_cast
  module

/-- The companion is the exponential series through the fourth order, and a term behind it. -/
theorem rkf45Fourth_update :
    (rkf45Fourth K).update drift step state =
      exponentialSeries drift step 5 state + (1 / 104 : K) • ((step • drift) ^ 5) state := by
  rw [Tableau.update, show (rkf45Fourth K).slopes drift step state =
    (rkf45Fifth K).slopes drift step state from rfl, rkf45_slopes, exponentialSeries]
  simp only [rkf45Fourth, combine, List.zipWith_cons_cons, List.zipWith_nil_left, List.sum_cons,
    List.sum_nil, List.range_succ, List.range_zero, List.nil_append, List.cons_append,
    List.map_cons, List.map_nil, smul_pow, LinearMap.smul_apply, Nat.factorial_succ,
    Nat.factorial_zero, pow_zero, Module.End.one_apply]
  push_cast
  module

end Linear

/-! ### The attempts of `rkf45` -/

section Attempts

variable {K μ : Type} [Field K] [LinearOrder K] [IsStrictOrderedRing K] [CDouble K]
  [ExactDouble K]

omit [IsStrictOrderedRing K] in
theorem ratio_eq (numerator denominator : ℤ) :
    (ratio numerator denominator : K) = numerator / denominator := by
  rw [ratio, ExactDouble.div_eq, ExactDouble.lit_zero, ExactDouble.lit_zero]

/-- The formula of one lane of the state with the weights of the tableau. -/
theorem Rkf45Inputs.lanesVector_fifth (inputs : Rkf45Inputs K) (lanes : ℕ) (k2 : Fin lanes → K) :
    lanesVector lanes inputs.fifth = lanesVector lanes inputs.state +
      inputs.step • combine (rkf45Fifth K).weights
        [lanesVector lanes inputs.k1, k2, lanesVector lanes inputs.k3, lanesVector lanes inputs.k4,
          lanesVector lanes inputs.k5, lanesVector lanes inputs.k6] := by
  funext lane
  simp only [lanesVector, fifth, c5k1, c5k3, c5k4, c5k5, c5k6, ratio_eq, ExactDouble.add_eq,
    ExactDouble.mul_eq, ExactDouble.neg_eq, Int.cast_ofNat, rkf45Fifth, combine,
    List.zipWith_cons_cons, List.zipWith_nil_left, List.sum_cons, List.sum_nil, Pi.add_apply,
    Pi.smul_apply, Pi.zero_apply, smul_eq_mul]
  ring

/-- The formula of one lane of the companion with the weights of its tableau. -/
theorem Rkf45Inputs.lanesVector_fourth (inputs : Rkf45Inputs K) (lanes : ℕ)
    (k2 : Fin lanes → K) :
    lanesVector lanes inputs.fourth = lanesVector lanes inputs.state +
      inputs.step • combine (rkf45Fourth K).weights
        [lanesVector lanes inputs.k1, k2, lanesVector lanes inputs.k3, lanesVector lanes inputs.k4,
          lanesVector lanes inputs.k5, lanesVector lanes inputs.k6] := by
  funext lane
  simp only [lanesVector, fourth, c4k1, c4k3, c4k4, c4k5, ratio_eq, ExactDouble.add_eq,
    ExactDouble.mul_eq, ExactDouble.neg_eq, Int.cast_ofNat, Int.cast_one, rkf45Fourth, combine,
    List.zipWith_cons_cons, List.zipWith_nil_left, List.sum_cons, List.sum_nil, Pi.add_apply,
    Pi.smul_apply, Pi.zero_apply, smul_eq_mul]
  ring

variable {drift : DriftFunction K μ} {target count lanes : ℕ} {field : SimField K}
  {f : (Fin lanes → K) → Fin lanes → K} {start : StageState K μ}

/-- The coefficients of the stages, as the two branches spell them. -/
theorem rkf45Rows_eq (isComplex : Bool) :
    [[], [if isComplex then lit 25 (-2) else ratio 1 4], [ratio 3 32, ratio 9 32],
      [ratio 1932 2197, neg (ratio 7200 2197), ratio 7296 2197],
      [ratio 439 216, neg (lit 8 0), ratio 3680 513, neg (ratio 845 4104)],
      [neg (ratio 8 27), two, neg (ratio 3544 2565), ratio 1859 4104, neg (ratio 11 40)]] =
      rkf45Rows K := by
  have hQuarter : (if isComplex then lit 25 (-2) else ratio 1 4 : K) = 1 / 4 := by
    cases isComplex with
    | false => rw [if_neg Bool.false_ne_true, ratio_eq, Int.cast_one, Int.cast_ofNat]
    | true =>
        rw [if_pos rfl, ExactDouble.lit_eq]
        norm_num
  rw [hQuarter, rkf45Rows]
  simp only [ratio_eq, ExactDouble.neg_eq, ExactDouble.two_eq, ExactDouble.lit_zero,
    Int.cast_ofNat]

/-- An attempt computes the two updates of its tableaux, and compares them. -/
theorem rkf45Attempt_ends (hDrift : DriftComputes drift target count field f)
    (hField : start.context.fields[target]? = some field) (integrator : Integrator K)
    (isComplex : Bool) (step : K) :
    (rkf45Attempt integrator isComplex count step).Ends (driftCall drift target count) start
      fun reached trial => reached.context.fields[target]? = some field ∧
        lanesVector lanes trial.candidate =
          (rkf45Fifth K).update f step (lanesVector lanes field.bufferLanes) ∧
        ∃ companion, lanesVector lanes companion =
            (rkf45Fourth K).update f step (lanesVector lanes field.bufferLanes) ∧
          (integrator.adaptive = true →
            trial.errorNorm = embeddedError isComplex trial.candidate companion count) := by
  refine ends_state hField ?_
  refine ends_drift hDrift hField _ fun reached1 k1 hField1 _ hK1 => ?_
  refine ends_state hField1 ?_
  refine ends_drift hDrift hField1 _ fun reached2 k2 hField2 _ hK2 => ?_
  refine ends_state hField2 ?_
  refine ends_drift hDrift hField2 _ fun reached3 k3 hField3 _ hK3 => ?_
  refine ends_state hField3 ?_
  refine ends_drift hDrift hField3 _ fun reached4 k4 hField4 _ hK4 => ?_
  refine ends_state hField4 ?_
  refine ends_drift hDrift hField4 _ fun reached5 k5 hField5 _ hK5 => ?_
  refine ends_state hField5 ?_
  refine ends_drift hDrift hField5 _ fun reached6 k6 hField6 _ hK6 => ?_
  refine ends_state hField6 ?_
  refine Program.ends_pure ?_
  have hSlopes : slopesFrom f step (lanesVector lanes field.bufferLanes) (rkf45Rows K) [] =
      [lanesVector lanes k1, lanesVector lanes k2, lanesVector lanes k3, lanesVector lanes k4,
        lanesVector lanes k5, lanesVector lanes k6] := by
    rw [← rkf45Rows_eq isComplex]
    have hFirst : lanesVector lanes k1 = f (lanesVector lanes field.bufferLanes +
        step • combine ([] : List K) []) := by
      rw [hK1, show combine ([] : List K) ([] : List (Fin lanes → K)) = 0 from rfl, smul_zero,
        add_zero]
    have hStage := fun coefficients (slopes : List (StateBuffer K)) => congrArg f
      (lanesVector_stage lanes step coefficients field.bufferLanes slopes)
    calc
      _ = _ := slopesFrom_cons f step _ _ hFirst
      _ = _ := slopesFrom_cons f step _ _ (hK2.trans (hStage [_] [k1]))
      _ = _ := slopesFrom_cons f step _ _ (hK3.trans (hStage [_, _] [k1, k2]))
      _ = _ := slopesFrom_cons f step _ _ (hK4.trans (hStage [_, _, _] [k1, k2, k3]))
      _ = _ := slopesFrom_cons f step _ _ (hK5.trans (hStage [_, _, _, _] [k1, k2, k3, k4]))
      _ = _ := slopesFrom_cons f step _ _ (hK6.trans (hStage [_, _, _, _, _] [k1, k2, k3, k4, k5]))
  let inputs : Rkf45Inputs K := ⟨field.bufferLanes, k1, k3, k4, k5, k6, step⟩
  refine ⟨hField6, ?_, inputs.fourth, ?_, fun hAdaptive => ?_⟩
  · rw [Tableau.update, Tableau.slopes, show (rkf45Fifth K).rows = rkf45Rows K from rfl, hSlopes,
      ← inputs.lanesVector_fifth]
    split_ifs <;> rfl
  · rw [Tableau.update, Tableau.slopes, show (rkf45Fourth K).rows = rkf45Rows K from rfl, hSlopes,
      ← inputs.lanesVector_fourth]
  · rw [if_pos hAdaptive]
    rfl

/-! ### Fixed steps of `rkf45` -/

/-- A fixed step writes the update of the tableau. -/
theorem rkf45_wrote {environment : StepEnvironment K} {context : SimContext K μ}
    (hStep : VectorStep environment drift target context field f) {integrator : Integrator K}
    (hFixed : integrator.adaptive = false) (dt : K) :
    (Scheme.rkf45.stepWith environment drift integrator target dt context).Wrote environment
      integrator target field (integrator.firstStep dt)
      ((rkf45Fifth K).update f (integrator.firstStep dt)
        (lanesVector lanes field.bufferLanes)) := by
  refine hStep.wrote .rkf45 integrator dt ?_
  have hStarted : ((Scheme.rkf45 (D := K)).started integrator dt).adaptive = false := by
    rw [Scheme.started_adaptive, hFixed]
  refine (ends_attempts hStarted (rkf45Attempt_ends hStep.computes hStep.holds
    (Scheme.rkf45.started integrator dt) field.domainIsComplex (integrator.firstStep dt))).mono ?_
  rintro reached attempted ⟨hTaken, hField, hCandidate, -⟩
  exact ⟨hField, hTaken, hCandidate⟩

/-- The lanes of complex elements with these real parts, and without imaginary parts. -/
def realElements (K : Type) [Field K] (count : ℕ) : (Fin count → K) →ₗ[K] Fin (count * 2) → K where
  toFun parts lane :=
    if (lane : ℕ) % 2 = 0 then parts ⟨lane / 2, Nat.div_lt_of_lt_mul (by omega)⟩ else 0
  map_add' a b := by
    funext lane
    simp only [Pi.add_apply]
    split_ifs
    · rfl
    · exact (add_zero 0).symm
  map_smul' scale a := by
    funext lane
    simp only [Pi.smul_apply]
    split_ifs
    · rfl
    · exact (smul_zero scale).symm

/-- What pins the coefficients of `rkf45`. -/
structure Rkf45Exact (K μ : Type) [Field K] [LinearOrder K] [CDouble K] : Prop where
  /-- With a linear drift, a fixed step writes the exponential series through the fifth
  order, and a term behind it. -/
  series {environment : StepEnvironment K} {drift : DriftFunction K μ} {target : ℕ}
    {context : SimContext K μ} {field : SimField K} {lanes : ℕ}
    {linear : Module.End K (Fin lanes → K)} {integrator : Integrator K} (dt : K)
    (hStep : VectorStep environment drift target context field linear)
    (hFixed : integrator.adaptive = false) :
    (Scheme.rkf45.stepWith environment drift integrator target dt context).Wrote environment
      integrator target field (integrator.firstStep dt)
      (exponentialSeries linear (integrator.firstStep dt) 6 (lanesVector lanes field.bufferLanes) +
        (1 / 2080 : K) • ((integrator.firstStep dt • linear) ^ 6)
          (lanesVector lanes field.bufferLanes))
  /-- The state with which an attempt compares its candidate is the exponential series through
  the fourth order, and a term behind it. -/
  companion {drift : DriftFunction K μ} {target count : ℕ} {field : SimField K} {lanes : ℕ}
    {linear : Module.End K (Fin lanes → K)} {start : StageState K μ}
    (hDrift : DriftComputes drift target count field linear)
    (hField : start.context.fields[target]? = some field) (integrator : Integrator K)
    (isComplex : Bool) (step : K) :
    (rkf45Attempt integrator isComplex count step).Ends (driftCall drift target count) start
      fun _ trial => ∃ companion,
        lanesVector lanes companion =
          exponentialSeries linear step 5 (lanesVector lanes field.bufferLanes) +
            (1 / 104 : K) • ((step • linear) ^ 5) (lanesVector lanes field.bufferLanes) ∧
        (integrator.adaptive = true →
          trial.errorNorm = embeddedError isComplex trial.candidate companion count)
  /-- The unrolled loops compute every lane by the formula of the rest. -/
  realLoops (inputs : Rkf45Inputs K) (outState : StateBuffer K) (count : ℕ) :
    (∀ k, (rkf45FinalizeReal inputs outState count).1 k =
      if k < count then (inputs.trial false count).candidate k else outState k) ∧
      (rkf45FinalizeReal inputs outState count).2 = (inputs.trial false count).errorNorm
  complexLoops (inputs : Rkf45Inputs K) (outState : StateBuffer K) (count : ℕ) :
    (∀ k, (rkf45FinalizeComplex inputs outState count).1 k =
      if k < 2 * count then (inputs.trial true count).candidate k else outState k) ∧
      (rkf45FinalizeComplex inputs outState count).2 = (inputs.trial true count).errorNorm
  /-- On elements without imaginary parts, with a drift that keeps them so, the complex branch
  writes what the real branch writes for their real parts. -/
  realParts {environment complexEnvironment : StepEnvironment K}
    {drift complexDrift : DriftFunction K μ} {target complexTarget : ℕ}
    {context complexContext : SimContext K μ} {field complexField : SimField K} {count : ℕ}
    {f : (Fin count → K) → Fin count → K} {g : (Fin (count * 2) → K) → Fin (count * 2) → K}
    {integrator : Integrator K} (dt : K) (hReal : field.domainIsComplex = false)
    (hStep : VectorStep environment drift target context field f)
    (hComplex : complexField.domainIsComplex = true)
    (hComplexStep :
      VectorStep complexEnvironment complexDrift complexTarget complexContext complexField g)
    (hDrift : ∀ parts, g (realElements K count parts) = realElements K count (f parts))
    (hState : lanesVector (count * 2) complexField.bufferLanes =
      realElements K count (lanesVector count field.bufferLanes))
    (hFixed : integrator.adaptive = false) :
    ∃ parts : Fin count → K,
      (Scheme.rkf45.stepWith environment drift integrator target dt context).Wrote environment
        integrator target field (integrator.firstStep dt) parts ∧
      (Scheme.rkf45.stepWith complexEnvironment complexDrift integrator complexTarget dt
        complexContext).Wrote complexEnvironment integrator complexTarget complexField
          (integrator.firstStep dt) (realElements K count parts)

/-- In exact arithmetic the steps, the companion, the loops and the two branches of `rkf45` are
those of its tableau. -/
theorem rkf45_exact : Rkf45Exact K μ where
  series {_ _ _ _ field lanes linear integrator} dt hStep hFixed := by
    rw [← rkf45Fifth_update linear (integrator.firstStep dt) (lanesVector lanes field.bufferLanes)]
    exact rkf45_wrote hStep hFixed dt
  companion hDrift hField integrator isComplex step := by
    refine (rkf45Attempt_ends hDrift hField integrator isComplex step).mono ?_
    rintro reached trial ⟨-, -, companion, hCompanion, hNorm⟩
    exact ⟨companion, hCompanion.trans (rkf45Fourth_update _ step _), hNorm⟩
  realLoops := rkf45FinalizeReal_spec
  complexLoops := rkf45FinalizeComplex_spec
  realParts dt _ hStep _ hComplexStep hDrift hState hFixed := by
    refine ⟨_, rkf45_wrote hStep hFixed dt, ?_⟩
    rw [(rkf45Fifth K).map_update fun parts => (hDrift parts).symm, ← hState]
    exact rkf45_wrote hComplexStep hFixed dt

end Attempts

/-- A real element with the drift of `u' = u`. -/
theorem growingDrift_step :
    VectorStep fixedStepEnvironment growingDrift 0 oneRationalElement oneRationalField
      (1 : Module.End ℚ (Fin 1 → ℚ)) where
  holds := rfl
  granted := rfl
  pointer := rfl
  width := by decide
  computes _ candidate context hField := ⟨context, candidate, rfl, rfl, hField⟩

/-- A step of length `1` from `1` writes `1 + 1 + 1/2 + 1/6 + 1/24 + 1/120 + 1/2080`. -/
theorem rkf45_exact_growth :
    (Scheme.rkf45.stepWith fixedStepEnvironment growingDrift fixedStepIntegrator 0 1
      oneRationalElement).Wrote fixedStepEnvironment fixedStepIntegrator 0 oneRationalField
        (fixedStepIntegrator.firstStep 1) fun _ : Fin 1 => (3391 / 1248 : ℚ) := by
  have hFixed : fixedStepIntegrator.adaptive = false := rfl
  have hWrote := rkf45_exact.series 1 growingDrift_step hFixed
  have hTaken : fixedStepIntegrator.firstStep 1 = 1 := by decide +kernel
  have hState : lanesVector 1 oneRationalField.bufferLanes = fun _ => 1 := rfl
  rw [hState] at hWrote
  convert hWrote using 1
  funext lane
  rw [hTaken, exponentialSeries]
  simp [List.range_succ, Nat.factorial_succ]
  norm_num

end Oakfield
