import Mathlib.Dynamics.PeriodicPts.Lemmas
import Mathlib.SetTheory.Cardinal.Finite
import Mathlib.Tactic.LinearCombination
import Mathlib.Tactic.Ring

/-! Affine maps modulo powers of two whose orbits visit every state. -/
namespace Library.FullPeriod

open Function

section Affine

variable {R : Type*} [CommRing R]

/-- One step of a linear congruential sequence. -/
def affine (factor offset state : R) : R := state * factor + offset

/-- With a factor of the form `4u + 1` and an odd offset, `2 ^ k` steps scale by one modulo
`2 ^ (k + 2)` and move by an odd multiple of `2 ^ k`. -/
theorem iterate_two_pow {factor offset : R} (hFactor : ∃ u, factor = 1 + 4 * u)
    (hOffset : ∃ q, offset = 1 + 2 * q) (k : ℕ) :
    ∃ u q : R, ∀ state, (affine factor offset)^[2 ^ k] state =
      (1 + 2 ^ (k + 2) * u) * state + 2 ^ k * (1 + 2 * q) := by
  induction k with
  | zero =>
      obtain ⟨u, rfl⟩ := hFactor
      obtain ⟨q, rfl⟩ := hOffset
      refine ⟨u, q, fun state => ?_⟩
      rw [pow_zero, iterate_one, affine]
      ring
  | succ k ih =>
      obtain ⟨u, q, hHalf⟩ := ih
      refine ⟨u + 2 ^ (k + 1) * u ^ 2, q + 2 ^ k * u * (1 + 2 * q), fun state => ?_⟩
      rw [pow_succ, mul_two, iterate_add_apply, hHalf, hHalf]
      ring

/-- The period is the least power of two which vanishes. -/
theorem minimalPeriod_affine {factor offset : R} {k : ℕ} (hFactor : ∃ u, factor = 1 + 4 * u)
    (hOffset : ∃ q, offset = 1 + 2 * q) (hLast : (2 : R) ^ k ≠ 0) (hZero : (2 : R) ^ (k + 1) = 0)
    (state : R) : minimalPeriod (affine factor offset) state = 2 ^ (k + 1) := by
  have hPrime : Fact (Nat.Prime 2) := ⟨Nat.prime_two⟩
  refine minimalPeriod_eq_prime_pow (fun hFixed => ?_) ?_
  · obtain ⟨u, q, hSteps⟩ := iterate_two_pow hFactor hOffset k
    have hEq := (hSteps state).symm.trans hFixed
    refine hLast ?_
    linear_combination hEq - (2 * u * state + q) * hZero
  · obtain ⟨u, q, hSteps⟩ := iterate_two_pow hFactor hOffset (k + 1)
    refine (hSteps state).trans ?_
    linear_combination (4 * u * state + 1 + 2 * q) * hZero

end Affine

section Orbit

variable {α : Type*} [Finite α] {step : α → α} {start : α}

/-- An orbit as long as the type has elements is a bijection from the step counts to the states. -/
theorem orbit_bijective (hPeriod : minimalPeriod step start = Nat.card α) :
    Bijective fun n : Fin (Nat.card α) => step^[n] start := by
  have hInjective : Injective fun n : Fin (Nat.card α) => step^[n] start := by
    intro first second hEq
    refine Fin.ext (iterate_injOn_Iio_minimalPeriod ?_ ?_ hEq)
    · exact first.isLt.trans_eq hPeriod.symm
    · exact second.isLt.trans_eq hPeriod.symm
  exact (Nat.bijective_iff_injective_and_card _).mpr ⟨hInjective, Nat.card_fin _⟩

theorem existsUnique_step (hPeriod : minimalPeriod step start = Nat.card α) (state : α) :
    ∃! n, n < Nat.card α ∧ step^[n] start = state := by
  obtain ⟨n, hState, hOnly⟩ := (orbit_bijective hPeriod).existsUnique state
  refine ⟨n, ⟨n.isLt, hState⟩, fun other hOther => ?_⟩
  exact congrArg Fin.val (hOnly ⟨other, hOther.1⟩ hOther.2)

/-- Over one period an observation is made as often as there are states which show it. -/
theorem card_observed (hPeriod : minimalPeriod step start = Nat.card α) (shown : α → Prop) :
    Nat.card {n // n < Nat.card α ∧ shown (step^[n] start)} = Nat.card {state // shown state} := by
  have hBijective := orbit_bijective hPeriod
  refine Nat.card_eq_of_bijective
    (fun n => (⟨step^[n.1] start, n.2.2⟩ : {state // shown state})) ⟨?_, ?_⟩
  · intro first second hEq
    have hIndex := @hBijective.1 ⟨first.1, first.2.1⟩ ⟨second.1, second.2.1⟩
      (congrArg Subtype.val hEq)
    exact Subtype.ext (congrArg Fin.val hIndex)
  · intro state
    obtain ⟨n, hState⟩ := hBijective.2 state.1
    have hShown : shown (step^[n.1] start) := Eq.mpr (congrArg shown hState) state.2
    exact ⟨⟨n.1, n.isLt, hShown⟩, Subtype.ext hState⟩

end Orbit

/-- An output which permutes one part of the state, in a way the other part selects, takes each
value as often as the other part has values. -/
theorem card_fibre {α ι β : Type*} {split : α → ι × β} (hSplit : Bijective split)
    {turn : ι → β → β} (hTurn : ∀ i, Bijective (turn i)) (value : β) :
    Nat.card {state // turn (split state).1 (split state).2 = value} = Nat.card ι := by
  refine Nat.card_eq_of_bijective (fun state => (split state.1).1) ⟨?_, ?_⟩
  · intro first second hSelect
    have hParts : (split first.1).2 = (split second.1).2 := by
      refine (hTurn (split first.1).1).1 (first.2.trans ?_)
      exact (second.2.symm.trans (congrArg (fun i => turn i _) hSelect.symm))
    exact Subtype.ext (hSplit.1 (Prod.ext hSelect hParts))
  · intro i
    obtain ⟨part, hPart⟩ := (hTurn i).2 value
    obtain ⟨state, hState⟩ := hSplit.2 (i, part)
    exact ⟨⟨state, by rw [hState]; exact hPart⟩, congrArg Prod.fst hState⟩

end Library.FullPeriod
