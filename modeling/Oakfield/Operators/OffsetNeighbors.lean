import Oakfield.Cpu.Neighbors
import Oakfield.Field.Layout
import Oakfield.Library.Mirror

/-! Neighbours of an element at a vector of offsets. -/
namespace Oakfield

open KernelIR Library

/-- One round of the loop over the axes: the delta of the index and whether a coordinate was
wrapped, `none` when the policy drops the neighbour. -/
def offsetAxis (elementIndex : ℕ) (boundary : SimIRBoundaryPolicy) (extent stride : ℕ)
    (offset indexDelta : ℤ) (wrapped : Bool) : Except SimError (Option (ℤ × Bool)) :=
  if extent = 0 ∨ stride = 0 then .ok none
  else
    let coord : ℤ := (elementIndex / stride % extent : ℕ)
    if (0 < offset ∧ ptrdiffMax - offset < coord) ∨
        (offset < 0 ∧ coord < -ptrdiffMax - 1 - offset) then .error .invalidArgument
    else
      match simNdMapCoord (coord + offset) extent boundary with
      | none => .ok none
      | some (target, axisWrapped) =>
          if target = coord then .ok (some (indexDelta, wrapped || axisWrapped))
          else
            let delta := (target - coord) * stride
            if (0 < delta ∧ ptrdiffMax - delta < indexDelta) ∨
                (delta < 0 ∧ indexDelta < -ptrdiffMax - 1 - delta) then .error .invalidArgument
            else .ok (some (indexDelta + delta, wrapped || axisWrapped))

/-- The loop over the axes. -/
def offsetAxes (elementIndex : ℕ) (boundary : SimIRBoundaryPolicy) :
    List ℕ → List ℕ → List ℤ → ℤ → Bool → Except SimError (Option (ℤ × Bool))
  | extent :: shape, stride :: strides, offset :: offsets, indexDelta, wrapped =>
      match offsetAxis elementIndex boundary extent stride offset indexDelta wrapped with
      | .error failure => .error failure
      | .ok none => .ok none
      | .ok (some (indexDelta, wrapped)) =>
          offsetAxes elementIndex boundary shape strides offsets indexDelta wrapped
  | _, _, _, indexDelta, wrapped => .ok (some (indexDelta, wrapped))

/-- `sim_nd_offset_neighbor`. -/
def simNdOffsetNeighbor {D : Type} (field : SimField D) (elementIndex : ℕ) (offsets : List ℤ)
    (boundary : SimIRBoundaryPolicy) : Except SimError SimNdNeighbor :=
  let dropped : SimNdNeighbor := ⟨false, false, elementIndex⟩
  if !field.initialized ∨ field.shape = [] ∨ offsets.length ≠ field.shape.length then
    .error .invalidArgument
  else if ptrdiffMax < elementIndex then .error .invalidArgument
  else
    match offsetAxes elementIndex boundary field.shape field.strides offsets 0 false with
    | .error failure => .error failure
    | .ok none => .ok dropped
    | .ok (some (indexDelta, wrapped)) =>
        let base : ℤ := elementIndex
        if (0 < indexDelta ∧ ptrdiffMax - indexDelta < base) ∨
            (indexDelta < 0 ∧ base < -ptrdiffMax - 1 - indexDelta) then .error .invalidArgument
        else if base + indexDelta < 0 then .error .invalidArgument
        else .ok ⟨true, wrapped, (base + indexDelta).toNat⟩

/-! ### Boundary policies -/

/-- The coordinate on the axis for one that may have left it. -/
def BoundaryMaps (boundary : SimIRBoundaryPolicy) (extent : ℕ) (coord : ℤ) (target : ℕ) : Prop :=
  match boundary with
  | .periodic => (target : ℤ) = coord % extent
  | .reflective =>
      if extent = 1 then target = 0 else Mirror.Mirrored (extent - 1) coord target
  | .dirichlet | .neumann => (target : ℤ) = coord

/-- The policies which drop neighbours outside the field. -/
def Drops (boundary : SimIRBoundaryPolicy) : Prop :=
  boundary = .dirichlet ∨ boundary = .neumann

theorem tmod_wrapped (a : ℤ) {b : ℤ} (hPos : 0 < b) :
    (if a.tmod b < 0 then a.tmod b + b else a.tmod b) = a % b := by
  have hLow := Int.emod_nonneg a (Int.ne_of_gt hPos)
  have hHigh := Int.emod_lt_of_pos a hPos
  rw [Int.tmod_eq_emod]
  by_cases hSign : 0 ≤ a ∨ b ∣ a
  · rw [if_pos hSign]
    omega
  · rw [if_neg hSign]
    omega

theorem simNdMapCoord_some {coord target : ℤ} {extent : ℕ} {boundary : SimIRBoundaryPolicy}
    {wrapped : Bool} (hExtent : extent ≠ 0)
    (hMap : simNdMapCoord coord extent boundary = some (target, wrapped)) :
    ∃ t : ℕ, target = t ∧ t < extent ∧ BoundaryMaps boundary extent coord t := by
  have hPos : (0 : ℤ) < extent := by omega
  unfold simNdMapCoord at hMap
  by_cases hInside : 0 ≤ coord ∧ coord < extent
  · rw [if_pos hInside] at hMap
    obtain ⟨rfl, -⟩ := Prod.mk.inj (Option.some.inj hMap)
    refine ⟨coord.toNat, by omega, by omega, ?_⟩
    have hNat : (coord.toNat : ℤ) = coord := Int.toNat_of_nonneg hInside.1
    cases boundary with
    | neumann => exact hNat
    | dirichlet => exact hNat
    | periodic => exact hNat.trans (Int.emod_eq_of_lt hInside.1 hInside.2).symm
    | reflective =>
        unfold BoundaryMaps
        dsimp only
        split_ifs with hOne
        · omega
        · rw [hNat]
          exact .inside hInside.1 (by omega)
  · rw [if_neg hInside] at hMap
    cases boundary with
    | neumann => exact (nomatch hMap)
    | dirichlet => exact (nomatch hMap)
    | periodic =>
        obtain ⟨rfl, -⟩ := Prod.mk.inj (Option.some.inj hMap)
        have hLow := Int.emod_nonneg coord (Int.ne_of_gt hPos)
        have hHigh := Int.emod_lt_of_pos coord hPos
        rw [tmod_wrapped coord hPos]
        exact ⟨(coord % extent).toNat, by omega, by omega, Int.toNat_of_nonneg hLow⟩
    | reflective =>
        dsimp only at hMap
        by_cases hOne : extent = 1
        · rw [if_pos hOne] at hMap
          obtain ⟨rfl, -⟩ := Prod.mk.inj (Option.some.inj hMap)
          exact ⟨0, rfl, by omega, by rw [BoundaryMaps, if_pos hOne]⟩
        · rw [if_neg hOne] at hMap
          obtain ⟨rfl, -⟩ := Prod.mk.inj (Option.some.inj hMap)
          have hLast : (0 : ℤ) < extent - 1 := by omega
          have hPeriod : (0 : ℤ) < 2 * (extent - 1) := by omega
          rw [tmod_wrapped coord hPeriod]
          have hFold : (if extent ≤ coord % (2 * (extent - 1)) then
              2 * (extent - 1) - coord % (2 * (extent - 1)) else coord % (2 * (extent - 1))) =
                Mirror.fold (extent - 1) coord := by
            rw [Mirror.fold]
            omega
          rw [hFold]
          obtain ⟨hLow, hHigh⟩ := Mirror.fold_bounds hLast coord
          refine ⟨(Mirror.fold (extent - 1) coord).toNat, by omega, by omega, ?_⟩
          rw [BoundaryMaps, if_neg hOne, Int.toNat_of_nonneg hLow]
          exact Mirror.mirrored_fold hLast coord

theorem simNdMapCoord_none {coord : ℤ} {extent : ℕ} {boundary : SimIRBoundaryPolicy}
    (hMap : simNdMapCoord coord extent boundary = none) :
    Drops boundary ∧ ¬ (0 ≤ coord ∧ coord < extent) := by
  unfold simNdMapCoord at hMap
  by_cases hInside : 0 ≤ coord ∧ coord < extent
  · rw [if_pos hInside] at hMap
    exact (nomatch hMap)
  · rw [if_neg hInside] at hMap
    cases boundary with
    | neumann => exact ⟨.inr rfl, hInside⟩
    | dirichlet => exact ⟨.inl rfl, hInside⟩
    | periodic => exact (nomatch hMap)
    | reflective =>
        dsimp only at hMap
        by_cases hOne : extent = 1
        · rw [if_pos hOne] at hMap
          exact (nomatch hMap)
        · rw [if_neg hOne] at hMap
          exact (nomatch hMap)

/-- A dropping policy keeps what it does not drop. -/
theorem BoundaryMaps.of_drops {boundary : SimIRBoundaryPolicy} {extent target : ℕ} {coord : ℤ}
    (hMaps : BoundaryMaps boundary extent coord target) (hDrops : Drops boundary) :
    (target : ℤ) = coord := by
  rcases hDrops with rfl | rfl <;> exact hMaps

/-! ### One axis -/

/-- The sum of a coordinate and an offset is no `ptrdiff_t`. -/
def LeavesPtrdiff (sum : ℤ) : Prop := sum < -ptrdiffMax - 1 ∨ ptrdiffMax < sum

/-- What a step or a loop over the axes can end with. -/
inductive OffsetOutcome {α : Type} (Fails Dropped : Prop) (Gives : α → Prop) :
    Except SimError (Option α) → Prop where
  | failed {failure : SimError} (hFails : Fails) : OffsetOutcome Fails Dropped Gives (.error failure)
  | dropped (hDropped : Dropped) : OffsetOutcome Fails Dropped Gives (.ok none)
  | moved {a : α} (hGives : Gives a) : OffsetOutcome Fails Dropped Gives (.ok (some a))

variable {boundary : SimIRBoundaryPolicy}

/-- The target of an axis, when its index is not beyond what a `ptrdiff_t` holds. -/
theorem offsetAxis_outcome {k extent stride : ℕ} {offset indexDelta : ℤ} {wrapped : Bool}
    (hExtent : extent ≠ 0) (hStride : stride ≠ 0)
    (hFits : ∀ target : ℕ, target < extent → ¬ LeavesPtrdiff
      (indexDelta + (target - (k / stride % extent : ℕ)) * stride)) :
    OffsetOutcome (LeavesPtrdiff ((k / stride % extent : ℕ) + offset))
      (Drops boundary ∧ ¬ (0 ≤ ((k / stride % extent : ℕ) : ℤ) + offset ∧
        ((k / stride % extent : ℕ) : ℤ) + offset < extent))
      (fun result : ℤ × Bool => ∃ target : ℕ, target < extent ∧
        BoundaryMaps boundary extent ((k / stride % extent : ℕ) + offset) target ∧
        result.1 = indexDelta + (target - (k / stride % extent : ℕ)) * stride)
      (offsetAxis k boundary extent stride offset indexDelta wrapped) := by
  unfold offsetAxis
  rw [if_neg (not_or.mpr ⟨hExtent, hStride⟩)]
  dsimp only
  generalize k / stride % extent = coord at *
  by_cases hOverflow : (0 < offset ∧ ptrdiffMax - offset < (coord : ℤ)) ∨
      (offset < 0 ∧ (coord : ℤ) < -ptrdiffMax - 1 - offset)
  · rw [if_pos hOverflow]
    refine .failed ?_
    unfold LeavesPtrdiff
    omega
  · rw [if_neg hOverflow]
    cases hMap : simNdMapCoord (coord + offset) extent boundary with
    | none => exact .dropped (simNdMapCoord_none hMap)
    | some moved =>
        obtain ⟨target, axisWrapped⟩ := moved
        obtain ⟨t, rfl, hLt, hMaps⟩ := simNdMapCoord_some hExtent hMap
        dsimp only
        by_cases hSame : (t : ℤ) = coord
        · rw [if_pos hSame]
          refine .moved ⟨t, hLt, hMaps, ?_⟩
          rw [hSame, Int.sub_self, Int.zero_mul, Int.add_zero]
        · rw [if_neg hSame]
          have hIndex := hFits t hLt
          unfold LeavesPtrdiff at hIndex
          have hCheck : ¬ ((0 < ((t : ℤ) - coord) * stride ∧
              ptrdiffMax - ((t : ℤ) - coord) * stride < indexDelta) ∨
              (((t : ℤ) - coord) * stride < 0 ∧
                indexDelta < -ptrdiffMax - 1 - ((t : ℤ) - coord) * stride)) := by
            omega
          rw [if_neg hCheck]
          exact .moved ⟨t, hLt, hMaps, rfl⟩

/-! ### The loop over the axes -/

/-- The targets of the coordinates of an element, one for each axis. -/
inductive BoundaryMapped (boundary : SimIRBoundaryPolicy) : List ℕ → List ℤ → List ℕ → Prop where
  | nil : BoundaryMapped boundary [] [] []
  | cons {extent target : ℕ} {sum : ℤ} {shape targets : List ℕ} {sums : List ℤ}
      (hMaps : BoundaryMaps boundary extent sum target)
      (hRest : BoundaryMapped boundary shape sums targets) :
      BoundaryMapped boundary (extent :: shape) (sum :: sums) (target :: targets)

/-- Some coordinate is outside its extent. -/
def LeavesShape (shape : List ℕ) (sums : List ℤ) : Prop :=
  ∃ axis ∈ shape.zip sums, ¬ (0 ≤ axis.2 ∧ axis.2 < axis.1)

/-- The coordinates of an element, moved by the offsets. -/
def movedCoords (coords : List ℕ) (offsets : List ℤ) : List ℤ :=
  List.zipWith (fun coord offset => (coord : ℤ) + offset) coords offsets

theorem BoundaryMapped.not_leaves {shape targets : List ℕ} {sums : List ℤ}
    (hMapped : BoundaryMapped boundary shape sums targets)
    (hRange : MixedRadix.InRange targets shape) (hDrops : Drops boundary) :
    ¬ LeavesShape shape sums := by
  induction hMapped with
  | nil =>
      rintro ⟨axis, hAxis, -⟩
      exact (List.not_mem_nil hAxis)
  | @cons extent target sum shape targets sums hMaps hRest ih =>
      rintro ⟨axis, hAxis, hLeaves⟩
      obtain ⟨hLt, hRange⟩ := List.forall₂_cons.mp hRange
      rw [List.zip_cons_cons, List.mem_cons] at hAxis
      rcases hAxis with rfl | hAxis
      · have hSum := hMaps.of_drops hDrops
        dsimp only at hLeaves
        omega
      · exact ih hRange ⟨axis, hAxis, hLeaves⟩

/-- The loop adds the difference of the addresses, axis by axis: what stands above the
remaining axes is already the target's, and the index never leaves the field. -/
theorem offsetAxes_outcome {k bound : ℕ} (hElement : k < bound)
    (hBound : 2 * (bound : ℤ) ≤ ptrdiffMax) {shape : List ℕ} (hPos : 0 ∉ shape)
    {offsets : List ℤ} (hLength : offsets.length = shape.length) {indexDelta : ℤ} {wrapped : Bool}
    (hLow : 0 ≤ k + indexDelta - (k % shape.prod : ℕ))
    (hHigh : k + indexDelta - (k % shape.prod : ℕ) + shape.prod ≤ bound) :
    OffsetOutcome
      (∃ sum ∈ movedCoords (MixedRadix.digits shape (k % shape.prod)) offsets, LeavesPtrdiff sum)
      (Drops boundary ∧
        LeavesShape shape (movedCoords (MixedRadix.digits shape (k % shape.prod)) offsets))
      (fun result : ℤ × Bool => ∃ targets : List ℕ, MixedRadix.InRange targets shape ∧
        BoundaryMapped boundary shape
          (movedCoords (MixedRadix.digits shape (k % shape.prod)) offsets) targets ∧
        k + result.1 = k + indexDelta - (k % shape.prod : ℕ) +
          MixedRadix.address targets (MixedRadix.strides shape))
      (offsetAxes k boundary shape (MixedRadix.strides shape) offsets indexDelta wrapped) := by
  induction shape generalizing offsets indexDelta wrapped with
  | nil =>
      cases offsets with
      | cons offset offsets => exact (nomatch hLength)
      | nil =>
          refine .moved ⟨[], .nil, .nil, ?_⟩
          rw [List.prod_nil, Nat.mod_one]
          show (k : ℤ) + indexDelta = k + indexDelta - 0 + 0
          omega
  | cons extent shape ih =>
      cases offsets with
      | nil => exact (nomatch hLength)
      | cons offset offsets =>
          rw [List.mem_cons, not_or] at hPos
          have hStride := MixedRadix.prod_pos hPos.2
          have hExtent : 0 < extent := Nat.pos_of_ne_zero (Ne.symm hPos.1)
          have hCoord : k / shape.prod % extent < extent := Nat.mod_lt _ hExtent
          have hRest : k % shape.prod < shape.prod := Nat.mod_lt _ hStride
          have hSplit : k % (extent :: shape).prod =
              k / shape.prod % extent * shape.prod + k % shape.prod := by
            rw [List.prod_cons, Nat.mul_comm extent, Nat.mod_mul, Nat.mul_comm, Nat.add_comm]
          have hTop : ∀ target : ℕ, target < extent →
              target * shape.prod + shape.prod ≤ extent * shape.prod := by
            intro target hTarget
            rw [← Nat.succ_mul]
            exact Nat.mul_le_mul_right _ hTarget
          rw [hSplit] at hLow
          rw [hSplit, List.prod_cons] at hHigh
          have hFits : ∀ target : ℕ, target < extent → ¬ LeavesPtrdiff (indexDelta +
              (target - (k / shape.prod % extent : ℕ)) * shape.prod) := by
            intro target hTarget
            have hAbove := hTop target hTarget
            rw [Int.sub_mul, LeavesPtrdiff]
            simp only [Int.natCast_add, Int.natCast_mul] at *
            omega
          have hAxis := @offsetAxis_outcome boundary k extent shape.prod offset indexDelta
            wrapped (Nat.ne_of_gt hExtent) (Nat.ne_of_gt hStride) hFits
          rw [MixedRadix.strides_cons, offsetAxes, MixedRadix.digits_cons_mod]
          generalize offsetAxis k boundary extent shape.prod offset indexDelta wrapped = result
            at hAxis ⊢
          cases hAxis with
          | failed hFails => exact .failed ⟨_, List.mem_cons_self, hFails⟩
          | dropped hDropped =>
              exact .dropped ⟨hDropped.1, _, List.mem_cons_self, hDropped.2⟩
          | @moved result hGives =>
              obtain ⟨indexDelta', wrapped'⟩ := result
              obtain ⟨target, hTarget, hMaps, hDelta⟩ := hGives
              have hAbove := hTop target hTarget
              dsimp only at hDelta
              rw [Int.sub_mul] at hDelta
              simp only [Int.natCast_add, Int.natCast_mul] at hLow hHigh hAbove hDelta
              have hTail := @ih hPos.2 offsets (Nat.succ.inj hLength) indexDelta' wrapped'
                (by omega) (by omega)
              dsimp only
              generalize offsetAxes k boundary shape (MixedRadix.strides shape) offsets indexDelta'
                wrapped' = result at hTail ⊢
              cases hTail with
              | failed hFails =>
                  obtain ⟨sum, hSum, hLeaves⟩ := hFails
                  exact .failed ⟨sum, List.mem_cons_of_mem _ hSum, hLeaves⟩
              | dropped hDropped =>
                  obtain ⟨hDrops, axis, hAxis, hLeaves⟩ := hDropped
                  exact .dropped ⟨hDrops, axis, List.mem_cons_of_mem _ hAxis, hLeaves⟩
              | moved hGives =>
                  obtain ⟨targets, hRange, hMapped, hIndex⟩ := hGives
                  refine .moved ⟨target :: targets, .cons hTarget hRange, .cons hMaps hMapped, ?_⟩
                  rw [hIndex, hSplit, MixedRadix.address_cons]
                  simp only [Int.natCast_add, Int.natCast_mul]
                  omega

/-- What the call answers for the element at the coordinates: it fails only when a moved
coordinate is no `ptrdiff_t`, drops the neighbour exactly when the policy does not map a
coordinate outside the field, and gives the index of the mapped coordinates otherwise. -/
def OffsetNeighborSound {D : Type} (field : SimField D) (coords : List ℕ) (offsets : List ℤ)
    (boundary : SimIRBoundaryPolicy) : Except SimError SimNdNeighbor → Prop
  | .error _ => ∃ sum ∈ movedCoords coords offsets, LeavesPtrdiff sum
  | .ok neighbor =>
      (neighbor.valid = false ↔
        Drops boundary ∧ LeavesShape field.shape (movedCoords coords offsets)) ∧
      neighbor.index < SimField.elementCount field.shape ∧
      (neighbor.valid = true → ∃ targets,
        BoundaryMapped boundary field.shape (movedCoords coords offsets) targets ∧
        field.elementIndex targets = .ok neighbor.index)

theorem offsetAxis_zero {k extent stride : ℕ} {indexDelta : ℤ} {wrapped : Bool}
    (hExtent : extent ≠ 0) (hStride : stride ≠ 0) :
    offsetAxis k boundary extent stride 0 indexDelta wrapped = .ok (some (indexDelta, wrapped)) := by
  have hCoord : k / stride % extent < extent := Nat.mod_lt _ (Nat.pos_of_ne_zero hExtent)
  have hInside : (0 : ℤ) ≤ (k / stride % extent : ℕ) ∧
      ((k / stride % extent : ℕ) : ℤ) < extent := by
    omega
  rw [offsetAxis, if_neg (not_or.mpr ⟨hExtent, hStride⟩)]
  dsimp only
  rw [if_neg (by omega), Int.add_zero]
  unfold simNdMapCoord
  rw [if_pos hInside]
  dsimp only
  rw [if_pos rfl, Bool.or_false]

/-- Axes which are not moved change nothing. -/
theorem offsetAxes_zero {k : ℕ} {shape : List ℕ} (hPos : 0 ∉ shape) (indexDelta : ℤ)
    (wrapped : Bool) :
    offsetAxes k boundary shape (MixedRadix.strides shape) (List.replicate shape.length 0)
      indexDelta wrapped = .ok (some (indexDelta, wrapped)) := by
  induction shape with
  | nil => rfl
  | cons extent shape ih =>
      rw [List.mem_cons, not_or] at hPos
      have hStride := MixedRadix.prod_pos hPos.2
      rw [List.length_cons, List.replicate_succ, MixedRadix.strides_cons, offsetAxes,
        offsetAxis_zero (Ne.symm hPos.1) (Nat.ne_of_gt hStride)]
      exact ih hPos.2

/-- With one offset only its axis counts. -/
theorem offsetAxes_single {k axis extent stride : ℕ} {shape : List ℕ} {offset : ℤ}
    (hPos : 0 ∉ shape) (hExtent : shape[axis]? = some extent)
    (hStride : (MixedRadix.strides shape)[axis]? = some stride) (indexDelta : ℤ) (wrapped : Bool) :
    offsetAxes k boundary shape (MixedRadix.strides shape)
        ((List.replicate shape.length 0).set axis offset) indexDelta wrapped =
      offsetAxis k boundary extent stride offset indexDelta wrapped := by
  induction shape generalizing axis with
  | nil => exact (nomatch hExtent)
  | cons first shape ih =>
      rw [List.mem_cons, not_or] at hPos
      rw [List.length_cons, List.replicate_succ]
      cases axis with
      | zero =>
          obtain rfl := Option.some.inj hExtent
          obtain rfl := Option.some.inj hStride
          rw [List.set_cons_zero, MixedRadix.strides_cons, offsetAxes]
          cases hRun : offsetAxis k boundary first shape.prod offset indexDelta wrapped with
          | error failure => rfl
          | ok result =>
              cases result with
              | none => rfl
              | some result => exact offsetAxes_zero hPos.2 result.1 result.2
      | succ axis =>
          have hFirst := Nat.ne_of_gt (MixedRadix.prod_pos hPos.2)
          rw [List.set_cons_succ, MixedRadix.strides_cons, offsetAxes,
            offsetAxis_zero (Ne.symm hPos.1) hFirst]
          exact ih hPos.2 hExtent hStride

/-! ### Created fields -/

section Created

variable {D : Type} {field : SimField D} {shape : List ℕ}

theorem simNdOffsetNeighbor_outcome (hRank : shape ≠ []) (hPos : 0 ∉ shape)
    (hBound : 2 * (shape.prod : ℤ) ≤ ptrdiffMax) (hInit : field.initialized = true)
    (hShape : field.shape = shape) (hStrides : field.strides = (layoutStrides shape).1) {k : ℕ}
    (hElement : k < shape.prod) {offsets : List ℤ} (hLength : offsets.length = shape.length) :
    OffsetNeighborSound field (MixedRadix.digits shape k) offsets boundary
      (simNdOffsetNeighbor field k offsets boundary) := by
  have hFits : shape.prod < 2 ^ 64 := by
    rw [ptrdiffMax] at hBound
    omega
  have hCount : SimField.elementCount shape = shape.prod := by
    rw [elementCount_eq_prod_mod hRank, Nat.mod_eq_of_lt hFits]
  have hSelf : k % shape.prod = k := Nat.mod_eq_of_lt hElement
  have hAxes := @offsetAxes_outcome boundary k shape.prod hElement hBound shape hPos offsets hLength
    0 false (by omega) (by omega)
  rw [hSelf] at hAxes
  rw [simNdOffsetNeighbor, hInit, hShape, hStrides, layoutStrides_eq hPos hFits,
    if_neg (by simp [hRank, hLength]), if_neg (by omega)]
  generalize offsetAxes k boundary shape (MixedRadix.strides shape) offsets 0 false = result
    at hAxes ⊢
  cases hAxes with
  | failed hFails => exact hFails
  | dropped hDropped =>
      dsimp only
      rw [OffsetNeighborSound, hShape, hCount]
      exact ⟨iff_of_true rfl hDropped, hElement, fun hValid => nomatch hValid⟩
  | @moved result hGives =>
      obtain ⟨indexDelta, wrapped⟩ := result
      obtain ⟨targets, hRange, hMapped, hIndex⟩ := hGives
      dsimp only at hIndex ⊢
      have hTarget : (k : ℤ) + indexDelta =
          MixedRadix.address targets (MixedRadix.strides shape) := by
        omega
      have hLt := MixedRadix.address_lt hRange
      rw [if_neg (by omega), if_neg (by omega), hTarget, Int.toNat_natCast, OffsetNeighborSound,
        hShape, hCount]
      refine ⟨iff_of_false (fun hValid => nomatch hValid) ?_, hLt, fun _ => ⟨targets, hMapped, ?_⟩⟩
      · rintro ⟨hDrops, hLeaves⟩
        exact hMapped.not_leaves hRange hDrops hLeaves
      · exact elementIndex_eq_address hRank hPos hFits hShape hStrides hRange

/-- The offset of one axis is the vector which has it there and zero elsewhere. -/
theorem simNdAxisOffsetNeighbor_eq (hPos : 0 ∉ shape) (hFits : shape.prod < 2 ^ 64)
    (hInit : field.initialized = true) (hShape : field.shape = shape)
    (hStrides : field.strides = (layoutStrides shape).1) {axis : ℕ} (hAxis : axis < shape.length)
    (k : ℕ) (offset : ℤ) :
    simNdAxisOffsetNeighbor field k axis offset boundary =
      simNdOffsetNeighbor field k ((List.replicate shape.length 0).set axis offset) boundary := by
  have hRank : shape ≠ [] := List.ne_nil_of_length_pos (Nat.lt_of_le_of_lt (Nat.zero_le _) hAxis)
  have hStrideAt : axis < (MixedRadix.strides shape).length := by
    rwa [MixedRadix.length_strides]
  have hExtent := List.getElem?_eq_getElem hAxis
  have hStride := List.getElem?_eq_getElem hStrideAt
  rw [simNdAxisOffsetNeighbor, simNdOffsetNeighbor, hInit, hShape, hStrides,
    layoutStrides_eq hPos hFits, hExtent, hStride, offsetAxes_single hPos hExtent hStride]
  generalize shape[axis] = extent
  generalize (MixedRadix.strides shape)[axis] = stride
  dsimp only
  have hValid : ¬ ((!true) = true ∨ shape = [] ∨
      ((List.replicate shape.length (0 : ℤ)).set axis offset).length ≠ shape.length) := by
    simp [hRank]
  rw [if_neg (show ¬ (!true) = true by decide), if_neg hValid]
  by_cases hElement : ptrdiffMax < k
  · rw [if_pos hElement, if_pos hElement]
  rw [if_neg hElement, if_neg hElement, offsetAxis]
  by_cases hEmpty : extent = 0 ∨ stride = 0
  · rw [if_pos hEmpty, if_pos hEmpty]
  rw [if_neg hEmpty, if_neg hEmpty]
  dsimp only
  generalize k / stride % extent = coord
  by_cases hOverflow : (0 < offset ∧ ptrdiffMax - offset < (coord : ℤ)) ∨
      (offset < 0 ∧ (coord : ℤ) < -ptrdiffMax - 1 - offset)
  · rw [if_pos hOverflow, if_pos hOverflow]
  rw [if_neg hOverflow, if_neg hOverflow]
  cases simNdMapCoord (coord + offset) extent boundary with
  | none => rfl
  | some moved =>
      obtain ⟨target, wrapped⟩ := moved
      dsimp only
      by_cases hSame : target = coord
      · rw [if_pos hSame, hSame, Int.sub_self, Int.zero_mul]
        dsimp only
        rw [Bool.false_or, if_neg (by omega), if_neg (by omega), if_neg (by omega)]
      · rw [if_neg hSame]
        generalize (target - (coord : ℤ)) * stride = delta
        -- A difference which overflows on its own leaves the range from any element.
        by_cases hFails : ptrdiffMax < (k : ℤ) + delta ∨ (k : ℤ) + delta < 0
        · rw [if_pos hFails]
          by_cases hDelta : (0 < delta ∧ ptrdiffMax - delta < 0) ∨
              (delta < 0 ∧ 0 < -ptrdiffMax - 1 - delta)
          · rw [if_pos hDelta]
          · rw [if_neg hDelta]
            dsimp only
            rw [Int.zero_add]
            by_cases hSum : (0 < delta ∧ ptrdiffMax - delta < k) ∨
                (delta < 0 ∧ (k : ℤ) < -ptrdiffMax - 1 - delta)
            · rw [if_pos hSum]
            · rw [if_neg hSum, if_pos (by omega)]
        · rw [if_neg hFails, if_neg (by omega)]
          dsimp only
          rw [Int.zero_add, Bool.false_or, if_neg (by omega), if_neg (by omega)]

/-- On a field with at most `PTRDIFF_MAX / 2` elements the neighbour of every element is the
one its boundary policy maps the moved coordinates to, and moving along one axis is moving
by a vector which is zero on the others. -/
theorem simNdOffsetNeighbor_sound {heap : Heap} {elementSize : ℕ}
    {allocator : Option SimFieldAllocator}
    (hRun : simFieldInit heap shape elementSize allocator = .ok field)
    (hCount : (shape.prod : ℤ) ≤ ptrdiffMax / 2) :
    (∀ k < SimField.elementCount field.shape, ∃ coords, field.elementIndex coords = .ok k ∧
      ∀ offsets : List ℤ, offsets.length = shape.length → ∀ boundary,
        OffsetNeighborSound field coords offsets boundary
          (simNdOffsetNeighbor field k offsets boundary)) ∧
    ∀ axis < shape.length, ∀ (k : ℕ) (offset : ℤ) (boundary : SimIRBoundaryPolicy),
      simNdAxisOffsetNeighbor field k axis offset boundary =
        simNdOffsetNeighbor field k ((List.replicate shape.length 0).set axis offset) boundary := by
  obtain ⟨-, hRank, hElements, -, rfl⟩ := simFieldInit_ok hRun
  have hPos := zero_notMem_of_elementCount hElements
  have hFits : shape.prod < 2 ^ 64 := by
    rw [ptrdiffMax] at hCount
    omega
  refine ⟨?_, fun axis hAxis k offset boundary =>
    simNdAxisOffsetNeighbor_eq hPos hFits rfl rfl rfl hAxis k offset⟩
  intro k hElement
  have hElement : k < shape.prod := by
    change k < SimField.elementCount shape at hElement
    rwa [elementCount_eq_prod_mod hRank, Nat.mod_eq_of_lt hFits] at hElement
  refine ⟨MixedRadix.digits shape k, ?_, fun offsets hLength boundary =>
    simNdOffsetNeighbor_outcome hRank hPos (by omega) rfl rfl rfl hElement hLength⟩
  rw [elementIndex_eq_address hRank hPos hFits rfl rfl (MixedRadix.inRange_digits hPos hElement),
    MixedRadix.address_digits hPos hElement]

theorem simNdOffsetNeighbor_sound_matrix :
    ∃ field : SimField ℤ, simFieldInit ⟨fun _ => true⟩ [2, 1, 3] 8 none = .ok field ∧
      ∃ coords, field.elementIndex coords = .ok 4 ∧
        OffsetNeighborSound field coords [-3, 7, -9] .reflective
          (simNdOffsetNeighbor field 4 [-3, 7, -9] .reflective) := by
  have hRun : simFieldInit (D := ℤ) ⟨fun _ => true⟩ [2, 1, 3] 8 none = .ok _ := rfl
  obtain ⟨coords, hIndex, hSound⟩ := (simNdOffsetNeighbor_sound hRun (by decide)).1 4 (by decide)
  exact ⟨_, hRun, coords, hIndex, hSound [-3, 7, -9] rfl .reflective⟩

end Created

end Oakfield
