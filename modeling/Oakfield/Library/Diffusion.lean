import Mathlib.Algebra.BigOperators.Ring.Finset
import Mathlib.Algebra.Order.BigOperators.Group.Finset
import Mathlib.Algebra.Order.Field.Basic
import Mathlib.Data.PEquiv
import Mathlib.Tactic.LinearCombination
import Mathlib.Tactic.Linarith
import Mathlib.Tactic.Ring

/-! Exchange along links: a partial bijection names the neighbour of each place, and a place
exchanges its value with its neighbours both ways. -/
namespace Library.Diffusion

variable {ι K : Type} [Fintype ι] [Field K] [LinearOrder K] [IsStrictOrderedRing K]

/-! ### Sums over links -/

/-- The sum over the places with a neighbour. -/
def linkSum (P : ι ≃. ι) (f : ι → ι → K) : K := ∑ i, (P i).elim 0 (f i)

/-- The sum over the places without one. -/
def looseSum (P : ι ≃. ι) (f : ι → K) : K := ∑ i, (P i).elim (f i) fun _ => 0

variable {P : ι ≃. ι} {f g : ι → ι → K}

omit [LinearOrder K] [IsStrictOrderedRing K] in
/-- A link can be followed from either end. -/
theorem linkSum_symm (P : ι ≃. ι) (f : ι → ι → K) :
    linkSum P.symm (fun j i => f i j) = linkSum P f := by
  classical
  have hElim : ∀ (Q : ι ≃. ι) (h : ι → ι → K) (i : ι),
      (Q i).elim 0 (h i) = ∑ j, if Q i = some j then h i j else 0 := by
    intro Q h i
    cases Q i with
    | none => simp
    | some j => simp
  calc
    linkSum P.symm (fun j i => f i j)
        = ∑ j, ∑ i, if P.symm j = some i then f i j else 0 :=
          Finset.sum_congr rfl fun j _ => hElim P.symm (fun j i => f i j) j
    _ = ∑ i, ∑ j, if P i = some j then f i j else 0 := by
          rw [Finset.sum_comm]
          simp only [PEquiv.eq_some_iff]
    _ = linkSum P f := Finset.sum_congr rfl fun i _ => (hElim P f i).symm

omit [LinearOrder K] [IsStrictOrderedRing K] in
theorem linkSum_add (P : ι ≃. ι) (f g : ι → ι → K) :
    linkSum P (fun i j => f i j + g i j) = linkSum P f + linkSum P g := by
  rw [linkSum, linkSum, linkSum, ← Finset.sum_add_distrib]
  refine Finset.sum_congr rfl fun i _ => ?_
  cases P i with
  | none => exact (add_zero 0).symm
  | some j => rfl

theorem linkSum_nonneg (hTerm : ∀ i j, 0 ≤ f i j) : 0 ≤ linkSum P f := by
  refine Finset.sum_nonneg fun i _ => ?_
  cases P i with
  | none => exact le_refl 0
  | some j => exact hTerm i j

theorem looseSum_nonneg {f : ι → K} (hTerm : ∀ i, 0 ≤ f i) : 0 ≤ looseSum P f := by
  refine Finset.sum_nonneg fun i _ => ?_
  cases P i with
  | none => exact hTerm i
  | some j => exact le_refl 0

/-- No place is the neighbour of two. -/
theorem linkSum_le_sum {f : ι → K} (hTerm : ∀ i, 0 ≤ f i) :
    linkSum P (fun _ j => f j) ≤ ∑ j, f j := by
  rw [← linkSum_symm]
  refine Finset.sum_le_sum fun j _ => ?_
  cases P.symm j with
  | none => exact hTerm j
  | some i => exact le_refl (f j)

/-! ### Exchange -/

/-- The value of the neighbour; where there is none, the place's own or zero. -/
def sample (keeps : Bool) (P : ι ≃. ι) (u : ι → K) (i : ι) : K :=
  (P i).elim (if keeps then u i else 0) u

/-- What a place receives from its neighbours along the links and against them. -/
def exchange (keeps : Bool) (P : ι ≃. ι) (u : ι → K) (i : ι) : K :=
  sample keeps P u i - 2 * u i + sample keeps P.symm u i

/-- The differences along the links and, where zero stands for a missing neighbour, the
differences from it. -/
def energy (keeps : Bool) (P : ι ≃. ι) (u v : ι → K) : K :=
  linkSum P (fun i j => (u i - u j) * (v i - v j)) +
    if keeps then 0
    else looseSum P (fun i => u i * v i) + looseSum P.symm fun i => u i * v i

variable {keeps : Bool}

omit [LinearOrder K] [IsStrictOrderedRing K] in
theorem sum_sample (keeps : Bool) (P : ι ≃. ι) (u v : ι → K) :
    ∑ i, v i * (sample keeps P u i - u i) =
      linkSum P (fun i j => v i * (u j - u i)) -
        if keeps then 0 else looseSum P fun i => u i * v i := by
  cases keeps with
  | true =>
      rw [if_pos rfl, sub_zero, linkSum]
      refine Finset.sum_congr rfl fun i _ => ?_
      rw [sample]
      cases P i with
      | none => exact (congrArg (v i * ·) (sub_self (u i))).trans (mul_zero (v i))
      | some j => rfl
  | false =>
      rw [if_neg Bool.false_ne_true, linkSum, looseSum, ← Finset.sum_sub_distrib]
      refine Finset.sum_congr rfl fun i _ => ?_
      rw [sample, if_neg Bool.false_ne_true]
      cases P i with
      | none =>
          dsimp only [Option.elim]
          ring
      | some j => exact (sub_zero _).symm

omit [LinearOrder K] [IsStrictOrderedRing K] in
/-- Summation by parts. -/
theorem sum_exchange (keeps : Bool) (P : ι ≃. ι) (u v : ι → K) :
    ∑ i, v i * exchange keeps P u i = -energy keeps P u v := by
  have hSplit : ∀ i, v i * exchange keeps P u i =
      v i * (sample keeps P u i - u i) + v i * (sample keeps P.symm u i - u i) := by
    intro i
    rw [exchange]
    ring
  have hLinks : linkSum P (fun i j => v i * (u j - u i)) +
      linkSum P (fun i j => v j * (u i - u j)) =
        -linkSum P (fun i j => (u i - u j) * (v i - v j)) := by
    rw [← linkSum_add, linkSum, linkSum, ← Finset.sum_neg_distrib]
    refine Finset.sum_congr rfl fun i _ => ?_
    cases P i with
    | none => exact neg_zero.symm
    | some j =>
        dsimp only [Option.elim]
        ring
  have hBack := linkSum_symm P fun i j => v j * (u i - u j)
  rw [Finset.sum_congr rfl fun i _ => hSplit i, Finset.sum_add_distrib, sum_sample, sum_sample,
    hBack, energy]
  cases keeps with
  | true =>
      simp only [if_true]
      linear_combination hLinks
  | false =>
      simp only [Bool.false_eq_true, if_false]
      linear_combination hLinks

omit [LinearOrder K] [IsStrictOrderedRing K] in
theorem energy_comm (keeps : Bool) (P : ι ≃. ι) (u v : ι → K) :
    energy keeps P u v = energy keeps P v u := by
  simp only [energy, mul_comm]

theorem energy_nonneg (keeps : Bool) (P : ι ≃. ι) (u : ι → K) : 0 ≤ energy keeps P u u := by
  have hLinks : 0 ≤ linkSum P fun i j => (u i - u j) * (u i - u j) :=
    linkSum_nonneg fun i j => mul_self_nonneg _
  have hLoose : ∀ Q : ι ≃. ι, 0 ≤ looseSum Q fun i => u i * u i :=
    fun Q => looseSum_nonneg fun i => mul_self_nonneg _
  rw [energy]
  split
  · linarith
  · linarith [hLoose P, hLoose P.symm]

/-! ### Two links at once -/

omit [Fintype ι] in
theorem elim_trans {α : Type} (P : ι ≃. ι) (i : ι) (a : α) (f : ι → α) :
    ((P.trans P) i).elim a f = (P i).elim a fun j => (P j).elim a f := by
  show ((P i).bind P).elim a f = _
  cases P i with
  | none => rfl
  | some j => rfl

theorem linkSum_trans_le (P : ι ≃. ι) (u : ι → K) :
    linkSum (P.trans P) (fun i j => (u i - u j) * (u i - u j)) ≤
      4 * linkSum P fun i j => (u i - u j) * (u i - u j) := by
  have hLink : ∀ j, 0 ≤ (P j).elim 0 fun k => (u j - u k) * (u j - u k) := by
    intro j
    cases P j with
    | none => exact le_refl 0
    | some k => exact mul_self_nonneg _
  have hSecond := @linkSum_le_sum _ _ _ _ _ _ P _ hLink
  have hBoth : linkSum (P.trans P) (fun i j => (u i - u j) * (u i - u j)) ≤
      ∑ i, (2 * (P i).elim 0 (fun j => (u i - u j) * (u i - u j)) +
        2 * (P i).elim 0 fun j => (P j).elim 0 fun k => (u j - u k) * (u j - u k)) := by
    refine Finset.sum_le_sum fun i _ => ?_
    rw [elim_trans]
    cases P i with
    | none =>
        dsimp only [Option.elim]
        linarith
    | some j =>
        dsimp only [Option.elim]
        cases P j with
        | none =>
            dsimp only
            linarith [mul_self_nonneg (u i - u j)]
        | some k =>
            dsimp only
            linarith [mul_self_nonneg ((u i - u j) - (u j - u k)),
              show ((u i - u j) - (u j - u k)) * ((u i - u j) - (u j - u k)) +
                (u i - u k) * (u i - u k) =
                  2 * ((u i - u j) * (u i - u j)) + 2 * ((u j - u k) * (u j - u k)) by ring]
  rw [Finset.sum_add_distrib, ← Finset.mul_sum, ← Finset.mul_sum] at hBoth
  rw [linkSum] at hSecond hBoth
  rw [linkSum, linkSum]
  linarith

/-- Where two links in a row end early, one of them is missing. -/
theorem looseSum_trans_le (P : ι ≃. ι) (u : ι → K) :
    looseSum (P.trans P) (fun i => u i * u i) ≤
      3 * looseSum P (fun i => u i * u i) +
        2 * linkSum P fun i j => (u i - u j) * (u i - u j) := by
  have hLoose : ∀ j, 0 ≤ (P j).elim (u j * u j) fun _ => 0 := by
    intro j
    cases P j with
    | none => exact mul_self_nonneg _
    | some k => exact le_refl 0
  have hSecond := @linkSum_le_sum _ _ _ _ _ _ P _ hLoose
  have hBoth : looseSum (P.trans P) (fun i => u i * u i) ≤
      ∑ i, ((P i).elim (u i * u i) (fun _ => 0) +
        2 * (P i).elim 0 (fun j => (u i - u j) * (u i - u j)) +
          2 * (P i).elim 0 fun j => (P j).elim (u j * u j) fun _ => 0) := by
    refine Finset.sum_le_sum fun i _ => ?_
    have hTrans : ((P.trans P) i).elim (u i * u i) (fun _ => 0) =
        (P i).elim (u i * u i) fun j => (P j).elim (u i * u i) fun _ => 0 := elim_trans P i _ _
    rw [hTrans]
    cases P i with
    | none =>
        dsimp only [Option.elim]
        linarith
    | some j =>
        dsimp only [Option.elim]
        cases P j with
        | none =>
            dsimp only
            linarith [mul_self_nonneg ((u i - u j) - u j),
              show ((u i - u j) - u j) * ((u i - u j) - u j) + u i * u i =
                2 * ((u i - u j) * (u i - u j)) + 2 * (u j * u j) by ring]
        | some k =>
            dsimp only
            linarith [mul_self_nonneg (u i - u j)]
  rw [Finset.sum_add_distrib, Finset.sum_add_distrib, ← Finset.mul_sum, ← Finset.mul_sum] at hBoth
  unfold linkSum at hSecond ⊢
  unfold looseSum at hBoth ⊢
  linarith

theorem energy_trans_le (keeps : Bool) (P : ι ≃. ι) (u : ι → K) :
    energy keeps (P.trans P) u u ≤ 8 * energy keeps P u u := by
  have hLinks := linkSum_trans_le P u
  have hPos : 0 ≤ linkSum P fun i j => (u i - u j) * (u i - u j) :=
    linkSum_nonneg fun i j => mul_self_nonneg _
  rw [energy, energy]
  cases keeps with
  | true =>
      simp only [if_true]
      linarith
  | false =>
      simp only [Bool.false_eq_true, if_false]
      have hForward := looseSum_trans_le P u
      have hBackward := looseSum_trans_le P.symm u
      have hSame : linkSum P.symm (fun i j => (u i - u j) * (u i - u j)) =
          linkSum P fun i j => (u i - u j) * (u i - u j) := by
        rw [← linkSum_symm P]
        simp only [linkSum]
        refine Finset.sum_congr rfl fun i _ => ?_
        cases P.symm i with
        | none => rfl
        | some j =>
            dsimp only [Option.elim]
            ring
      have hLoose : ∀ Q : ι ≃. ι, 0 ≤ looseSum Q fun i => u i * u i :=
        fun Q => looseSum_nonneg fun i => mul_self_nonneg _
      rw [hSame] at hBackward
      rw [show (P.trans P).symm = P.symm.trans P.symm from rfl]
      linarith [hLoose P, hLoose P.symm]

/-! ### Operators -/

/-- A symmetric operator which takes energy away. -/
structure Diffusive (L : (ι → K) → ι → K) : Prop where
  symmetric : ∀ u v, ∑ i, v i * L u i = ∑ i, u i * L v i
  dissipative : ∀ u, ∑ i, u i * L u i ≤ 0

namespace Diffusive

variable {L M : (ι → K) → ι → K}

theorem add (hLeft : Diffusive L) (hRight : Diffusive M) :
    Diffusive fun u i => L u i + M u i where
  symmetric u v := by
    simp only [mul_add, Finset.sum_add_distrib]
    rw [hLeft.symmetric, hRight.symmetric]
  dissipative u := by
    simp only [mul_add, Finset.sum_add_distrib]
    exact add_nonpos (hLeft.dissipative u) (hRight.dissipative u)

theorem smul {c : K} (hPos : 0 ≤ c) (hLeft : Diffusive L) : Diffusive fun u i => c * L u i where
  symmetric u v := by
    simp only [mul_left_comm _ c, ← Finset.mul_sum]
    rw [hLeft.symmetric]
  dissipative u := by
    simp only [mul_left_comm _ c, ← Finset.mul_sum]
    exact mul_nonpos_of_nonneg_of_nonpos hPos (hLeft.dissipative u)

omit [IsStrictOrderedRing K] in
/-- An operator without effect on constants conserves the sum. -/
theorem sum_eq_zero (hLeft : Diffusive L) (hConst : ∀ i, L (fun _ => 1) i = 0) (u : ι → K) :
    ∑ i, L u i = 0 := by
  have hSymm := hLeft.symmetric u fun _ => 1
  simpa only [one_mul, hConst, mul_zero, Finset.sum_const_zero] using hSymm

end Diffusive

theorem diffusive_exchange (keeps : Bool) (P : ι ≃. ι) :
    Diffusive (exchange (K := K) keeps P) where
  symmetric u v := by rw [sum_exchange, sum_exchange, energy_comm]
  dissipative u := by
    rw [sum_exchange]
    exact neg_nonpos.mpr (energy_nonneg keeps P u)

/-- The negative weights at distance two do not outweigh those at distance one. -/
theorem diffusive_exchange_twice (keeps : Bool) (P : ι ≃. ι) :
    Diffusive fun (u : ι → K) i =>
      16 * exchange keeps P u i - exchange keeps (P.trans P) u i where
  symmetric u v := by
    simp only [mul_sub, mul_left_comm _ (16 : K), Finset.sum_sub_distrib, ← Finset.mul_sum]
    rw [sum_exchange, sum_exchange, sum_exchange, sum_exchange, energy_comm keeps P,
      energy_comm keeps (P.trans P)]
  dissipative u := by
    simp only [mul_sub, mul_left_comm _ (16 : K), Finset.sum_sub_distrib, ← Finset.mul_sum]
    rw [sum_exchange, sum_exchange]
    linarith [energy_trans_le keeps P u, energy_nonneg keeps P u]

omit [Fintype ι] [LinearOrder K] [IsStrictOrderedRing K] in
theorem exchange_const (P : ι ≃. ι) (c : K) (i : ι) : exchange true P (fun _ => c) i = 0 := by
  have hSample : ∀ Q : ι ≃. ι, sample true Q (fun _ => c) i = c := by
    intro Q
    rw [sample]
    cases Q i with
    | none => rfl
    | some j => rfl
  rw [exchange, hSample, hSample]
  ring

end Library.Diffusion
