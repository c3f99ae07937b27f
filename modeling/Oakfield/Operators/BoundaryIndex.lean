import Oakfield.Operators.OffsetNeighbors

/-! The coordinates which the sieve and the minimal convolution sample beyond the ends of an
axis, beside those of the neighbour search. -/
namespace Oakfield

open KernelIR Library

/-- The body which `sieve_resolve_index` and `minimal_convolution_index` share: a position and
whether there is one. Indices are above `PTRDIFF_MIN`, so that they can be negated. -/
def resolveIndex (index : ℤ) (count : ℕ) (boundary : SimIRBoundaryPolicy) : ℕ × Bool :=
  if count = 0 then (0, false)
  else
    match boundary with
    | .periodic =>
        let m := index.tmod count
        ((if m < 0 then m + count else m).toNat, true)
    | .reflective =>
        let index := if index < 0 then -index else index
        -- behind the last position nothing is mirrored
        ((if count ≤ index then (count : ℤ) - 1 else index).toNat, true)
    | .dirichlet => if index < 0 ∨ count ≤ index then (0, false) else (index.toNat, true)
    | .neumann =>
        if index < 0 then (0, true)
        else if count ≤ index then (count - 1, true)
        else (index.toNat, true)

def sieveResolveIndex (index : ℤ) (count : ℕ) (boundary : SimIRBoundaryPolicy) : ℕ × Bool :=
  resolveIndex index count boundary

/-- The convolution takes the policy from its configuration. -/
def minimalConvolutionIndex (boundary : SimIRBoundaryPolicy) (index : ℤ) (count : ℕ) : ℕ × Bool :=
  resolveIndex index count boundary

theorem resolveIndex_lt {index : ℤ} {count : ℕ} {boundary : SimIRBoundaryPolicy}
    (hCount : count ≠ 0) : (resolveIndex index count boundary).1 < count := by
  have hPos : (0 : ℤ) < count := by omega
  unfold resolveIndex
  rw [if_neg hCount]
  cases boundary with
  | periodic =>
      have hHigh := Int.emod_lt_of_pos index hPos
      dsimp only
      rw [tmod_wrapped index hPos]
      omega
  | reflective =>
      dsimp only
      omega
  | dirichlet =>
      dsimp only
      split
      · omega
      · dsimp only
        omega
  | neumann =>
      dsimp only
      split
      · omega
      · split
        · omega
        · dsimp only
          omega

/-- The three maps give one coordinate where none of them drops the index: the remainder for a
periodic axis, the mirror image for a reflective one. All drop what a Dirichlet axis has not,
and no coordinate leaves the axis. -/
structure BoundaryIndexAgrees (index : ℤ) (extent : ℕ) (boundary : SimIRBoundaryPolicy) : Prop where
  same : ∀ {target : ℤ} {wrapped : Bool},
    simNdMapCoord index extent boundary = some (target, wrapped) →
    (sieveResolveIndex index extent boundary).2 = true →
    (minimalConvolutionIndex boundary index extent).2 = true →
      (sieveResolveIndex index extent boundary).1 = target ∧
      (minimalConvolutionIndex boundary index extent).1 = target ∧
      BoundaryMaps boundary extent index (sieveResolveIndex index extent boundary).1
  outside : boundary = .dirichlet → ¬ (0 ≤ index ∧ index < extent) →
    simNdMapCoord index extent boundary = none ∧
      (sieveResolveIndex index extent boundary).2 = false ∧
      (minimalConvolutionIndex boundary index extent).2 = false
  below : (sieveResolveIndex index extent boundary).1 < extent ∧
    (minimalConvolutionIndex boundary index extent).1 < extent ∧
    ∀ {target : ℤ} {wrapped : Bool}, simNdMapCoord index extent boundary = some (target, wrapped) →
      0 ≤ target ∧ target < extent

/-- A reflective index where cutting it off at the end of the axis is mirroring it. -/
def MirroredByCutting (index : ℤ) (extent : ℕ) : Prop :=
  extent = 1 ∨ index.natAbs < extent ∨ index.natAbs % (2 * (extent - 1)) = extent - 1

instance (index : ℤ) (extent : ℕ) : Decidable (MirroredByCutting index extent) :=
  inferInstanceAs (Decidable (_ ∨ _ ∨ _))

variable {index : ℤ} {extent : ℕ} {boundary : SimIRBoundaryPolicy}

/-- Cutting off gives the mirror image exactly there. -/
theorem resolveIndex_reflective_iff (hExtent : extent ≠ 0) (hOne : extent ≠ 1) :
    ((resolveIndex index extent .reflective).1 : ℤ) = Mirror.fold (extent - 1) index ↔
      MirroredByCutting index extent := by
  have hLast : (0 : ℤ) < extent - 1 := by omega
  have hAbs : Mirror.fold (extent - 1) index = Mirror.fold (extent - 1) index.natAbs := by
    rcases Int.natAbs_eq index with hEq | hEq
    · rw [← hEq]
    · rw [hEq, Mirror.fold_neg hLast, ← hEq]
  have hCut : (resolveIndex index extent .reflective).1 = min index.natAbs (extent - 1) := by
    rw [resolveIndex, if_neg hExtent]
    dsimp only
    omega
  rw [hCut, hAbs, MirroredByCutting]
  by_cases hInside : index.natAbs < extent
  · rw [Mirror.fold_inside (by omega) (by omega)]
    omega
  · have hPeriod : ((index.natAbs % (2 * (extent - 1)) : ℕ) : ℤ) =
        (index.natAbs : ℤ) % (2 * (extent - 1)) := by
      rw [Int.natCast_emod, Int.natCast_mul, Int.natCast_sub (by omega)]
      rfl
    have hLow := Int.emod_nonneg (index.natAbs : ℤ) (Int.ne_of_gt (show 0 < 2 * ((extent : ℤ) - 1) by omega))
    rw [Mirror.fold, ← hPeriod]
    omega

theorem resolveIndex_agrees (hExtent : extent ≠ 0)
    (hCutting : boundary = .reflective → MirroredByCutting index extent) {target : ℤ}
    {wrapped : Bool} (hMap : simNdMapCoord index extent boundary = some (target, wrapped))
    (hValid : (resolveIndex index extent boundary).2 = true) :
    ((resolveIndex index extent boundary).1 : ℤ) = target := by
  have hPos : (0 : ℤ) < extent := by omega
  obtain ⟨t, rfl, hLt, hMaps⟩ := simNdMapCoord_some hExtent hMap
  cases boundary with
  | periodic =>
      have hLow := Int.emod_nonneg index (Int.ne_of_gt hPos)
      have hEq : (t : ℤ) = index % extent := hMaps
      rw [resolveIndex, if_neg hExtent]
      dsimp only
      rw [tmod_wrapped index hPos, hEq, Int.toNat_of_nonneg hLow]
  | reflective =>
      by_cases hOne : extent = 1
      · have hBelow := @resolveIndex_lt index extent .reflective hExtent
        omega
      · rw [BoundaryMaps, if_neg hOne] at hMaps
        rw [hMaps.eq_fold (by omega)]
        exact (resolveIndex_reflective_iff hExtent hOne).mpr (hCutting rfl)
  | dirichlet =>
      have hEq : (t : ℤ) = index := hMaps
      rw [resolveIndex, if_neg hExtent]
      rw [if_neg (by omega)]
      dsimp only
      omega
  | neumann =>
      have hEq : (t : ℤ) = index := hMaps
      rw [resolveIndex, if_neg hExtent]
      rw [if_neg (by omega), if_neg (by omega)]
      dsimp only
      omega

/-- The maps agree at every index of every axis, unless a reflective axis is left for a position
which is not the mirror image of its end. -/
theorem boundaryIndex_agrees_iff (index : ℤ) (boundary : SimIRBoundaryPolicy)
    (hExtent : extent ≠ 0) : BoundaryIndexAgrees index extent boundary ↔
      (boundary = .reflective → MirroredByCutting index extent) := by
  constructor
  · rintro hAgrees rfl
    by_cases hOne : extent = 1
    · exact .inl hOne
    cases hMap : simNdMapCoord index extent .reflective with
    | none =>
        rcases (simNdMapCoord_none hMap).1 with hPolicy | hPolicy
        · cases hPolicy
        · cases hPolicy
    | some result =>
        have hValid : (resolveIndex index extent .reflective).2 = true := by
          rw [resolveIndex, if_neg hExtent]
        obtain ⟨-, -, hMaps⟩ := hAgrees.same hMap hValid hValid
        rw [BoundaryMaps, if_neg hOne] at hMaps
        exact (resolveIndex_reflective_iff hExtent hOne).mp (hMaps.eq_fold (by omega))
  · intro hCutting
    refine ⟨fun {target wrapped} hMap hValid _ => ?_, ?_, resolveIndex_lt hExtent,
      resolveIndex_lt hExtent, fun {target wrapped} hMap => ?_⟩
    · have hEq := resolveIndex_agrees hExtent hCutting hMap hValid
      obtain ⟨t, rfl, -, hMaps⟩ := simNdMapCoord_some hExtent hMap
      obtain rfl := Int.ofNat_inj.mp hEq
      exact ⟨rfl, rfl, hMaps⟩
    · rintro rfl hOutside
      have hDropped : (resolveIndex index extent .dirichlet).2 = false := by
        rw [resolveIndex, if_neg hExtent]
        rw [if_pos (by omega)]
      refine ⟨?_, hDropped, hDropped⟩
      rw [simNdMapCoord, if_neg hOutside]
    · obtain ⟨t, rfl, hLt, -⟩ := simNdMapCoord_some hExtent hMap
      omega

theorem boundaryIndex_agrees_iff_four :
    BoundaryIndexAgrees (-3) 4 .reflective ↔
      (SimIRBoundaryPolicy.reflective = .reflective → MirroredByCutting (-3) 4) :=
  boundaryIndex_agrees_iff (-3) .reflective (by decide)

/-- Two positions behind the end of a row of four. -/
theorem boundaryIndex_disagrees : ¬ BoundaryIndexAgrees 5 4 .reflective := by
  intro hAgrees
  have hSame := (@hAgrees.same 1 true rfl rfl rfl).1
  exact absurd hSame (by decide)

end Oakfield
