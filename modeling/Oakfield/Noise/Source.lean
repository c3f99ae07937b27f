import Oakfield.KernelIR.CDouble
import Oakfield.Library.FullPeriod
import Oakfield.Library.WordMixing

/-! The generator behind the noise sources. -/
namespace Oakfield

open Function Library.FullPeriod Library.WordMixing

/-- `SimNoiseSourceRng`. -/
structure SimNoiseSourceRng (D : Type) where
  state : BitVec 64
  inc : BitVec 64
  normalHasSpare : Bool
  normalSpare : D

/-- What `sim_noise_source_random_u32` makes of the state it finds. -/
def noiseSourceOutput (old : BitVec 64) : BitVec 32 :=
  let xorshifted : BitVec 32 := ((old >>> 18 ^^^ old) >>> 27).setWidth 32
  let rot : BitVec 32 := (old >>> 59).setWidth 32
  xorshifted >>> rot ||| xorshifted <<< (-rot &&& 31)

namespace SimNoiseSourceRng

variable {D : Type}

/-- `sim_noise_source_random_u32`. -/
def randomU32 (rng : SimNoiseSourceRng D) : BitVec 32 × SimNoiseSourceRng D :=
  let old := rng.state
  (noiseSourceOutput old, { rng with state := old * 6364136223846793005 + (rng.inc ||| 1) })

/-- `sim_noise_source_seed`. -/
def seed [CDouble D] (rng : SimNoiseSourceRng D) (initstate initseq : BitVec 64) :
    SimNoiseSourceRng D :=
  let rng := { rng with
    state := 0, inc := initseq <<< 1 ||| 1, normalHasSpare := false, normalSpare := CDouble.lit 0 0 }
  let rng := rng.randomU32.2
  let rng := { rng with state := rng.state + initstate }
  rng.randomU32.2

/-- The generator after a number of calls. -/
def afterDraws (rng : SimNoiseSourceRng D) (draws : ℕ) : SimNoiseSourceRng D :=
  (fun rng => rng.randomU32.2)^[draws] rng

/-- A call changes nothing but the state. -/
theorem afterDraws_eq (rng : SimNoiseSourceRng D) (draws : ℕ) :
    rng.afterDraws draws =
      { rng with state := (affine 6364136223846793005 (rng.inc ||| 1))^[draws] rng.state } := by
  induction draws with
  | zero => rfl
  | succ draws ih =>
      rw [afterDraws, iterate_succ_apply', ← afterDraws, ih, iterate_succ_apply']
      rfl

end SimNoiseSourceRng

/-- The increment is odd whatever the seed was, and the factor is one modulo four. -/
theorem noiseSource_period (inc state : BitVec 64) :
    minimalPeriod (affine 6364136223846793005 (inc ||| 1)) state = Nat.card (BitVec 64) := by
  have hFactor : ∃ u : BitVec 64, 6364136223846793005 = 1 + 4 * u :=
    ⟨1591034055961698251, by decide⟩
  have hLast : (2 : BitVec 64) ^ 63 ≠ 0 := by rw [two_pow_eq]; decide
  have hZero : (2 : BitVec 64) ^ 64 = 0 := by rw [two_pow_eq]; decide
  rw [card_words]
  exact minimalPeriod_affine hFactor (or_one_odd (by decide) inc) hLast hZero state

/-! ### The output -/

/-- The five bits which choose the rotation and the bits which are dropped, and the bits which are
rotated. -/
def noiseSourceParts (mixed : BitVec 64) : (BitVec 5 × BitVec 27) × BitVec 32 :=
  (((mixed >>> 59).setWidth 5, mixed.setWidth 27), (mixed >>> 27).setWidth 32)

theorem noiseSourceParts_bijective : Bijective noiseSourceParts := by
  have hInjective : Injective noiseSourceParts := by
    intro first second hEq
    have hTop := congrArg (fun parts => parts.1.1.toNat) hEq
    have hLow := congrArg (fun parts => parts.1.2.toNat) hEq
    have hMiddle := congrArg (fun parts => parts.2.toNat) hEq
    simp only [noiseSourceParts, BitVec.toNat_setWidth, BitVec.toNat_ushiftRight,
      Nat.shiftRight_eq_div_pow] at hTop hLow hMiddle
    refine BitVec.eq_of_toNat_eq ?_
    omega
  refine (Nat.bijective_iff_injective_and_card _).mpr ⟨hInjective, ?_⟩
  rw [Nat.card_prod, Nat.card_prod, card_words, card_words, card_words, card_words]
  rfl

/-- The two shifts are a rotation, also by no place at all. -/
theorem shifts_eq_rotateRight {word rot : BitVec 32} (hRot : rot.toNat < 32) :
    word >>> rot ||| word <<< (-rot &&& 31) = word.rotateRight rot.toNat := by
  have hLeft : (-rot &&& 31).toNat = (32 - rot.toNat) % 32 := by
    have hMask : (31 : BitVec 32).toNat = 2 ^ 5 - 1 := rfl
    rw [BitVec.toNat_and, hMask, Nat.and_two_pow_sub_one_eq_mod, BitVec.toNat_neg]
    omega
  rw [BitVec.rotateRight_def, Nat.mod_eq_of_lt hRot, BitVec.shiftLeft_eq', hLeft,
    BitVec.ushiftRight_eq']
  by_cases hZero : rot.toNat = 0
  · rw [hZero]
    simp
  · rw [Nat.mod_eq_of_lt (by omega)]

/-- The rotation is chosen by bits which the shift before it leaves alone. -/
theorem noiseSourceOutput_eq (old : BitVec 64) :
    noiseSourceOutput old =
      (noiseSourceParts (xorShift 18 old)).2.rotateRight
        (noiseSourceParts (xorShift 18 old)).1.1.toNat := by
  have hTop : (xorShift 18 old) >>> 59 = old >>> 59 := by
    unfold xorShift
    rw [BitVec.ushiftRight_xor_distrib, ← BitVec.shiftRight_add]
    have hGone : old >>> (18 + 59) = 0#64 := BitVec.ushiftRight_eq_zero (by decide)
    rw [hGone, BitVec.xor_zero]
  have hRot : ((old >>> 59).setWidth 32).toNat < 32 := by
    rw [BitVec.toNat_setWidth, BitVec.toNat_ushiftRight, Nat.shiftRight_eq_div_pow]
    omega
  have hSame : ((old >>> 59).setWidth 5).toNat = ((old >>> 59).setWidth 32).toNat := by
    rw [BitVec.toNat_setWidth, BitVec.toNat_setWidth, BitVec.toNat_ushiftRight,
      Nat.shiftRight_eq_div_pow]
    omega
  unfold noiseSourceOutput noiseSourceParts
  dsimp only
  rw [shifts_eq_rotateRight hRot, hTop, hSame, xorShift, BitVec.xor_comm]

theorem noiseSourceOutput_balanced (value : BitVec 32) :
    Nat.card {state // noiseSourceOutput state = value} = 2 ^ 32 := by
  have hSplit : Bijective (noiseSourceParts ∘ xorShift 18) :=
    noiseSourceParts_bijective.comp (bijective_of_injective (xorShift_injective (by decide)))
  have hTurn : ∀ i : BitVec 5 × BitVec 27,
      Bijective fun word : BitVec 32 => word.rotateRight i.1.toNat :=
    fun i => bijective_of_injective (rotateRight_injective i.1.toNat)
  calc
    Nat.card {state // noiseSourceOutput state = value} =
        Nat.card (BitVec 5 × BitVec 27) := by
      rw [← card_fibre hSplit hTurn value]
      simp only [noiseSourceOutput_eq, comp_apply]
    _ = 2 ^ 32 := by rw [Nat.card_prod, card_words, card_words]; rfl

/-- From the seeding on, in every stretch of `2 ^ 64` draws the generator is in every state exactly
once and each output is drawn exactly `2 ^ 32` times; then the states repeat. -/
theorem SimNoiseSourceRng.seed_fullPeriod_balanced {D : Type} [CDouble D]
    (rng : SimNoiseSourceRng D) (initstate initseq : BitVec 64) (start : ℕ) :
    (∀ state, ∃! draws, draws < 2 ^ 64 ∧
      ((rng.seed initstate initseq).afterDraws (start + draws)).state = state) ∧
    (rng.seed initstate initseq).afterDraws (start + 2 ^ 64) =
      (rng.seed initstate initseq).afterDraws start ∧
    ∀ value, Nat.card {draws // draws < 2 ^ 64 ∧
      ((rng.seed initstate initseq).afterDraws (start + draws)).randomU32.1 = value} = 2 ^ 32 := by
  generalize rng.seed initstate initseq = seeded
  have hPeriod := noiseSource_period seeded.inc (seeded.afterDraws start).state
  have hState : ∀ draws, (seeded.afterDraws (start + draws)).state =
      (affine 6364136223846793005 (seeded.inc ||| 1))^[draws] (seeded.afterDraws start).state := by
    intro draws
    rw [afterDraws_eq, afterDraws_eq, Nat.add_comm start, iterate_add_apply]
  refine ⟨fun state => ?_, ?_, fun value => ?_⟩
  · have hOnce := existsUnique_step hPeriod state
    rw [card_words] at hOnce
    simpa only [hState] using hOnce
  · have hBack : (seeded.afterDraws (start + 2 ^ 64)).state = (seeded.afterDraws start).state := by
      rw [hState, ← card_words, ← hPeriod]
      exact isPeriodicPt_minimalPeriod _ _
    simp only [afterDraws_eq] at hBack
    rw [afterDraws_eq, afterDraws_eq, hBack]
  · have hCount := card_observed hPeriod fun state => noiseSourceOutput state = value
    rw [card_words] at hCount
    simpa only [randomU32, hState] using hCount.trans (noiseSourceOutput_balanced value)

end Oakfield
