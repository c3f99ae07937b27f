import Oakfield.Library.WordMixing

/-! Derivation of the seeds of random streams. -/
namespace Oakfield

open Library.WordMixing

/-- `SIM_SEED_DEFAULT`. -/
def simSeedDefault : BitVec 64 := 0xA5A5A5A5A5A5A5A5

/-- `sim_seed_normalize`. -/
def simSeedNormalize (seed : BitVec 64) : BitVec 64 := if seed = 0 then simSeedDefault else seed

/-- `sim_seed_mix64`. -/
def simSeedMix64 (value : BitVec 64) : BitVec 64 :=
  let value := value + 0x9E3779B97F4A7C15
  let value := (value ^^^ value >>> 30) * 0xBF58476D1CE4E5B9
  let value := (value ^^^ value >>> 27) * 0x94D049BB133111EB
  value ^^^ value >>> 31

/-- The word which `sim_seed_derive` mixes. -/
def simSeedMixed (baseSeed tagHash index : BitVec 64) : BitVec 64 :=
  simSeedNormalize baseSeed ^^^ tagHash ^^^ index * 0xD1342543DE82EF95

/-- `sim_seed_derive`. -/
def simSeedDerive (baseSeed tagHash index : BitVec 64) : BitVec 64 :=
  let seed := simSeedMix64 (simSeedMixed baseSeed tagHash index)
  if seed = 0 then simSeedDefault else seed

/-- Every step of the mixing can be undone. -/
theorem simSeedMix64_injective : Function.Injective simSeedMix64 := by
  have hFirst : (0xBF58476D1CE4E5B9 : BitVec 64) * 0x96DE1B173F119089 = 1#64 := by decide
  have hSecond : (0x94D049BB133111EB : BitVec 64) * 0x319642B2D24D8EC3 = 1#64 := by decide
  have hSteps : simSeedMix64 = xorShift 31 ∘ (fun x => x * 0x94D049BB133111EB) ∘ xorShift 27 ∘
      (fun x => x * 0xBF58476D1CE4E5B9) ∘ xorShift 30 ∘ (fun x => x + 0x9E3779B97F4A7C15) := rfl
  have hShift {shift : ℕ} (hPos : 0 < shift) :
      Function.Injective (xorShift shift : BitVec 64 → BitVec 64) := xorShift_injective hPos
  rw [hSteps]
  refine (hShift (by decide)).comp ?_
  refine (timesFactor_injective hSecond).comp ?_
  refine (hShift (by decide)).comp ?_
  refine (timesFactor_injective hFirst).comp ?_
  exact (hShift (by decide)).comp (plusOffset_injective _)

theorem simSeedMixed_index_injective (baseSeed tagHash : BitVec 64) :
    Function.Injective (simSeedMixed baseSeed tagHash) := by
  have hFactor : (0xD1342543DE82EF95 : BitVec 64) * 0x572B5EE77A54E3BD = 1#64 := by decide
  exact (xorMask_injective _).comp (timesFactor_injective hFactor)

theorem simSeedMixed_tag_injective (baseSeed index : BitVec 64) :
    Function.Injective fun tagHash => simSeedMixed baseSeed tagHash index := by
  intro tag other hEq
  exact xorMask_injective _ ((BitVec.xor_left_inj _).mp hEq)

/-- Two words which are mixed to the same seed differ only where one of them is mixed to zero. -/
theorem eq_of_normalized_eq {value other : BitVec 64}
    (hSeed : simSeedNormalize (simSeedMix64 value) = simSeedNormalize (simSeedMix64 other)) :
    value = other ∨ simSeedMix64 value = 0 ∨ simSeedMix64 other = 0 := by
  unfold simSeedNormalize at hSeed
  by_cases hValue : simSeedMix64 value = 0
  · exact .inr (.inl hValue)
  by_cases hOther : simSeedMix64 other = 0
  · exact .inr (.inr hOther)
  rw [if_neg hValue, if_neg hOther] at hSeed
  exact .inl (simSeedMix64_injective hSeed)

/-- Words other than the one mixed to zero have seeds of their own, so two pairs with a common
seed are the same. -/
theorem pair_unique {value other value' other' : BitVec 64} (hPair : value ≠ other)
    (hPair' : value' ≠ other')
    (hSeed : simSeedNormalize (simSeedMix64 value) = simSeedNormalize (simSeedMix64 other))
    (hSeed' : simSeedNormalize (simSeedMix64 value') = simSeedNormalize (simSeedMix64 other')) :
    value' = value ∧ other' = other ∨ value' = other ∧ other' = value := by
  -- Each pair holds the word mixed to zero, and the one mixed to the default seed.
  have hMixed {a b : BitVec 64} (hNe : a ≠ b)
      (hEq : simSeedNormalize (simSeedMix64 a) = simSeedNormalize (simSeedMix64 b)) :
      simSeedMix64 a = 0 ∧ simSeedMix64 b = simSeedDefault ∨
        simSeedMix64 a = simSeedDefault ∧ simSeedMix64 b = 0 := by
    have hDistinct : simSeedMix64 a ≠ simSeedMix64 b := fun hSame =>
      hNe (simSeedMix64_injective hSame)
    unfold simSeedNormalize at hEq
    rcases (eq_of_normalized_eq hEq).resolve_left hNe with hZero | hZero
    · rw [hZero] at hDistinct
      rw [hZero, if_pos rfl, if_neg hDistinct.symm] at hEq
      exact .inl ⟨hZero, hEq.symm⟩
    · rw [hZero] at hDistinct
      rw [hZero, if_pos rfl, if_neg hDistinct] at hEq
      exact .inr ⟨hEq, hZero⟩
  have hSame {a b : BitVec 64} (hEq : simSeedMix64 a = simSeedMix64 b) : a = b :=
    simSeedMix64_injective hEq
  rcases hMixed hPair hSeed with ⟨hZero, hDefault⟩ | ⟨hDefault, hZero⟩ <;>
    rcases hMixed hPair' hSeed' with ⟨hZero', hDefault'⟩ | ⟨hDefault', hZero'⟩
  · exact .inl ⟨hSame (hZero'.trans hZero.symm), hSame (hDefault'.trans hDefault.symm)⟩
  · exact .inr ⟨hSame (hDefault'.trans hDefault.symm), hSame (hZero'.trans hZero.symm)⟩
  · exact .inr ⟨hSame (hZero'.trans hZero.symm), hSame (hDefault'.trans hDefault.symm)⟩
  · exact .inl ⟨hSame (hDefault'.trans hDefault.symm), hSame (hZero'.trans hZero.symm)⟩

theorem simSeedDerive_eq (baseSeed tagHash index : BitVec 64) :
    simSeedDerive baseSeed tagHash index =
      simSeedNormalize (simSeedMix64 (simSeedMixed baseSeed tagHash index)) := rfl

/-- Mixing is a bijection, no derived seed is zero, and two indices, or two tags, share a seed
only where one of them is mixed to zero, which happens for one pair at most. -/
theorem simSeedDerive_separates :
    Function.Bijective simSeedMix64 ∧
    (∀ baseSeed tagHash index, simSeedDerive baseSeed tagHash index ≠ 0) ∧
    (∀ baseSeed tagHash index other, index ≠ other →
      simSeedDerive baseSeed tagHash index = simSeedDerive baseSeed tagHash other →
        simSeedMix64 (simSeedMixed baseSeed tagHash index) = 0 ∨
          simSeedMix64 (simSeedMixed baseSeed tagHash other) = 0) ∧
    (∀ baseSeed tagHash index other index' other', index ≠ other → index' ≠ other' →
      simSeedDerive baseSeed tagHash index = simSeedDerive baseSeed tagHash other →
      simSeedDerive baseSeed tagHash index' = simSeedDerive baseSeed tagHash other' →
        index' = index ∧ other' = other ∨ index' = other ∧ other' = index) ∧
    (∀ baseSeed index tagHash other, tagHash ≠ other →
      simSeedDerive baseSeed tagHash index = simSeedDerive baseSeed other index →
        simSeedMix64 (simSeedMixed baseSeed tagHash index) = 0 ∨
          simSeedMix64 (simSeedMixed baseSeed other index) = 0) := by
  refine ⟨bijective_of_injective simSeedMix64_injective, ?_, ?_, ?_, ?_⟩
  · intro baseSeed tagHash index
    rw [simSeedDerive_eq, simSeedNormalize]
    split_ifs with hZero
    · decide
    · exact hZero
  · intro baseSeed tagHash index other hNe hSeed
    exact (eq_of_normalized_eq hSeed).resolve_left fun hMixed =>
      hNe (simSeedMixed_index_injective baseSeed tagHash hMixed)
  · intro baseSeed tagHash index other index' other' hNe hNe' hSeed hSeed'
    have hIndex := simSeedMixed_index_injective baseSeed tagHash
    rcases pair_unique (hIndex.ne hNe) (hIndex.ne hNe') hSeed hSeed' with
      ⟨hFirst, hSecond⟩ | ⟨hFirst, hSecond⟩
    · exact .inl ⟨hIndex hFirst, hIndex hSecond⟩
    · exact .inr ⟨hIndex hFirst, hIndex hSecond⟩
  · intro baseSeed index tagHash other hNe hSeed
    exact (eq_of_normalized_eq hSeed).resolve_left fun hMixed =>
      hNe (simSeedMixed_tag_injective baseSeed index hMixed)

end Oakfield
