import Oakfield.Operators.OffsetNeighbors
import Mathlib.Algebra.BigOperators.Group.List.Lemmas
import Mathlib.Data.PEquiv

/-! The neighbours at a vector of offsets as links between elements, which lead back by the
negated vector unless the boundary reflects. -/
namespace Oakfield

open KernelIR Library

/-! ### One coordinate -/

variable {boundary : SimIRBoundaryPolicy}

theorem boundaryMaps_neg (hPolicy : boundary ≠ .reflective) {extent coord target : ℕ} {offset : ℤ}
    (hCoord : coord < extent)
    (hMaps : BoundaryMaps boundary extent (coord + offset) target) :
    BoundaryMaps boundary extent (target + -offset) coord := by
  cases boundary with
  | reflective => exact absurd rfl hPolicy
  | neumann | dirichlet =>
      have hSum : (target : ℤ) = coord + offset := hMaps
      show (coord : ℤ) = target + -offset
      omega
  | periodic =>
      have hSum : (target : ℤ) = (coord + offset) % extent := hMaps
      show (coord : ℤ) = (target + -offset) % extent
      rw [hSum, Int.emod_add_emod, Int.add_neg_cancel_right,
        Int.emod_eq_of_lt (by omega) (by omega)]

theorem boundaryMaps_twice (hPolicy : boundary ≠ .reflective) {extent coord target : ℕ} {offset : ℤ}
    (hCoord : coord < extent) (hTarget : target < extent) :
    BoundaryMaps boundary extent (coord + 2 * offset) target ↔
      ∃ middle < extent, BoundaryMaps boundary extent (coord + offset) middle ∧
        BoundaryMaps boundary extent (middle + offset) target := by
  cases boundary with
  | reflective => exact absurd rfl hPolicy
  | neumann | dirichlet =>
      show (target : ℤ) = coord + 2 * offset ↔ ∃ middle < extent,
        (middle : ℤ) = coord + offset ∧ (target : ℤ) = middle + offset
      constructor
      · intro hSum
        exact ⟨(coord + offset).toNat, by omega, by omega, by omega⟩
      · rintro ⟨middle, -, hFirst, hSecond⟩
        omega
  | periodic =>
      have hPos : (0 : ℤ) < extent := by omega
      have hLow := Int.emod_nonneg (coord + offset) (Int.ne_of_gt hPos)
      have hHigh := Int.emod_lt_of_pos (coord + offset) hPos
      have hTwice : (((coord : ℤ) + offset) % extent + offset) % extent =
          (coord + 2 * offset) % extent := by
        rw [Int.emod_add_emod, Int.two_mul, Int.add_assoc]
      show (target : ℤ) = (coord + 2 * offset) % extent ↔ ∃ middle < extent,
        (middle : ℤ) = (coord + offset) % extent ∧ (target : ℤ) = (middle + offset) % extent
      rw [← hTwice]
      constructor
      · intro hTarget
        refine ⟨((coord + offset) % extent : ℤ).toNat, by omega, by omega, ?_⟩
        rwa [Int.toNat_of_nonneg hLow]
      · rintro ⟨middle, -, hFirst, hSecond⟩
        rwa [← hFirst]

theorem boundaryMaps_unique (hPolicy : boundary ≠ .reflective) {extent first second : ℕ} {sum : ℤ}
    (hFirst : BoundaryMaps boundary extent sum first)
    (hSecond : BoundaryMaps boundary extent sum second) : first = second := by
  have hEq : (first : ℤ) = second := by
    cases boundary with
    | reflective => exact absurd rfl hPolicy
    | neumann | dirichlet | periodic => exact Eq.trans hFirst (Eq.symm hSecond)
  omega

/-! ### All coordinates -/

theorem boundaryMapped_cons {extent target : ℕ} {sum : ℤ} {shape targets : List ℕ} {sums : List ℤ} :
    BoundaryMapped boundary (extent :: shape) (sum :: sums) (target :: targets) ↔
      BoundaryMaps boundary extent sum target ∧ BoundaryMapped boundary shape sums targets := by
  constructor
  · intro hMapped
    cases hMapped with
    | cons hMaps hRest => exact ⟨hMaps, hRest⟩
  · rintro ⟨hMaps, hRest⟩
    exact .cons hMaps hRest

theorem movedCoords_cons (coord : ℕ) (coords : List ℕ) (offset : ℤ) (offsets : List ℤ) :
    movedCoords (coord :: coords) (offset :: offsets) =
      (coord + offset) :: movedCoords coords offsets :=
  rfl

variable {shape coords targets : List ℕ} {offsets : List ℤ}

theorem boundaryMapped_neg (hPolicy : boundary ≠ .reflective)
    (hCoords : MixedRadix.InRange coords shape) (hTargets : MixedRadix.InRange targets shape)
    (hLength : offsets.length = shape.length)
    (hMapped : BoundaryMapped boundary shape (movedCoords coords offsets) targets) :
    BoundaryMapped boundary shape (movedCoords targets (offsets.map Neg.neg)) coords := by
  induction hCoords generalizing targets offsets with
  | nil =>
      cases hTargets
      exact .nil
  | cons hCoord hRest ih =>
      cases hTargets with
      | cons hTarget hTargets =>
          cases offsets with
          | nil => exact (nomatch hLength)
          | cons offset offsets =>
              obtain ⟨hMaps, hMapped⟩ := boundaryMapped_cons.mp hMapped
              exact .cons (boundaryMaps_neg hPolicy hCoord hMaps)
                (ih hTargets (Nat.succ.inj hLength) hMapped)

theorem boundaryMapped_twice (hPolicy : boundary ≠ .reflective)
    (hCoords : MixedRadix.InRange coords shape) (hTargets : MixedRadix.InRange targets shape)
    (hLength : offsets.length = shape.length) :
    BoundaryMapped boundary shape (movedCoords coords (offsets.map (2 * ·))) targets ↔
      ∃ middles, MixedRadix.InRange middles shape ∧
        BoundaryMapped boundary shape (movedCoords coords offsets) middles ∧
        BoundaryMapped boundary shape (movedCoords middles offsets) targets := by
  induction hCoords generalizing targets offsets with
  | nil =>
      cases hTargets
      exact iff_of_true .nil ⟨[], .nil, .nil, .nil⟩
  | @cons coord extent coords shape hCoord hRest ih =>
      cases hTargets with
      | @cons target _ targets _ hTarget hTargets =>
          cases offsets with
          | nil => exact (nomatch hLength)
          | cons offset offsets =>
              have hHead := @boundaryMaps_twice boundary hPolicy extent coord target offset hCoord
                hTarget
              have hTail := ih hTargets (Nat.succ.inj hLength)
              rw [List.map_cons, movedCoords_cons, boundaryMapped_cons, hHead, hTail]
              constructor
              · rintro ⟨⟨middle, hMiddle, hFirst, hSecond⟩, middles, hMiddles, hFirsts, hSeconds⟩
                exact ⟨middle :: middles, .cons hMiddle hMiddles, .cons hFirst hFirsts,
                  .cons hSecond hSeconds⟩
              · rintro ⟨_, hMiddles, hFirsts, hSeconds⟩
                cases hMiddles with
                | cons hMiddle hMiddles =>
                    obtain ⟨hFirst, hFirsts⟩ := boundaryMapped_cons.mp hFirsts
                    obtain ⟨hSecond, hSeconds⟩ := boundaryMapped_cons.mp hSeconds
                    exact ⟨⟨_, hMiddle, hFirst, hSecond⟩, _, hMiddles, hFirsts, hSeconds⟩

theorem boundaryMapped_unique (hPolicy : boundary ≠ .reflective) {sums : List ℤ}
    {first second : List ℕ} (hFirst : BoundaryMapped boundary shape sums first)
    (hSecond : BoundaryMapped boundary shape sums second) : first = second := by
  induction hFirst generalizing second with
  | nil =>
      cases hSecond
      rfl
  | cons hMaps hRest ih =>
      cases hSecond with
      | cons hMaps' hRest' => rw [boundaryMaps_unique hPolicy hMaps hMaps', ih hRest']

/-! ### Links -/

/-- A field of the shape in a dense layout, whose bytes can be counted. -/
structure DenseField {D : Type} (field : SimField D) (shape : List ℕ) (elementSize : ℕ) :
    Prop where
  initialized : field.initialized = true
  shape_eq : field.shape = shape
  strides_eq : field.strides = (layoutStrides shape).1
  elementSize_eq : field.elementSize = elementSize
  positive : 0 ∉ shape
  bytes : shape.prod * elementSize < 2 ^ 64

/-- The offsets of a vector are far from the limits of a `ptrdiff_t`. -/
def ShortOffsets (offsets : List ℤ) : Prop :=
  ∀ offset ∈ offsets, 2 * (offset.natAbs : ℤ) ≤ ptrdiffMax

theorem movedCoords_stay (hRange : MixedRadix.InRange coords shape)
    (hExtents : ∀ extent ∈ shape, 2 * (extent : ℤ) ≤ ptrdiffMax) (hShort : ShortOffsets offsets) :
    ¬ ∃ sum ∈ movedCoords coords offsets, LeavesPtrdiff sum := by
  rintro ⟨sum, hSum, hLeaves⟩
  induction hRange generalizing offsets with
  | nil => exact (nomatch hSum)
  | @cons coord extent coords shape hCoord hRest ih =>
      cases offsets with
      | nil =>
          rw [movedCoords, List.zipWith_nil_right] at hSum
          exact (nomatch hSum)
      | cons offset offsets =>
          have hExtent := hExtents extent List.mem_cons_self
          have hOffset := hShort offset List.mem_cons_self
          rw [movedCoords_cons, List.mem_cons] at hSum
          rcases hSum with rfl | hSum
          · rw [LeavesPtrdiff] at hLeaves
            omega
          · exact ih (fun extent hExtent => hExtents extent (List.mem_cons_of_mem _ hExtent))
              (fun offset hOffset => hShort offset (List.mem_cons_of_mem _ hOffset)) hSum

/-- The element which a call answers with, if it does. -/
def neighborOf (result : Except SimError SimNdNeighbor) : Option ℕ :=
  match result with
  | .error _ => none
  | .ok neighbor => if !neighbor.valid then none else some neighbor.index

section Dense

variable {D : Type} {field : SimField D} {elementSize : ℕ}

theorem DenseField.count (hDense : DenseField field shape elementSize) (hSize : 8 ≤ elementSize) :
    shape.prod < 2 ^ 61 := by
  have hBytes := hDense.bytes
  have hLe := Nat.mul_le_mul_left shape.prod hSize
  omega

/-- The neighbour of an element is the one whose coordinates the boundary maps the moved
coordinates to. -/
theorem neighborOf_eq_some_iff (hDense : DenseField field shape elementSize)
    (hSize : 8 ≤ elementSize) (hRank : shape ≠ []) (hPolicy : boundary ≠ .reflective)
    (hLength : offsets.length = shape.length) (hShort : ShortOffsets offsets) {k j : ℕ}
    (hElement : k < shape.prod) :
    neighborOf (simNdOffsetNeighbor field k offsets boundary) = some j ↔
      j < shape.prod ∧ BoundaryMapped boundary shape
        (movedCoords (MixedRadix.digits shape k) offsets)
        (MixedRadix.digits shape j) := by
  have hCount := hDense.count hSize
  have hFits : shape.prod < 2 ^ 64 := by omega
  have hCoords := MixedRadix.inRange_digits hDense.positive hElement
  have hExtents : ∀ extent ∈ shape, 2 * (extent : ℤ) ≤ ptrdiffMax := by
    intro extent hExtent
    have hLe := Nat.le_of_dvd (MixedRadix.prod_pos hDense.positive) (List.dvd_prod hExtent)
    rw [ptrdiffMax]
    omega
  have hBound : 2 * (shape.prod : ℤ) ≤ ptrdiffMax := by
    rw [ptrdiffMax]
    omega
  have hSound := @simNdOffsetNeighbor_outcome boundary D field shape hRank hDense.positive hBound
    hDense.initialized hDense.shape_eq hDense.strides_eq k hElement offsets hLength
  have hLengths : field.strides.length = field.shape.length := by
    rw [hDense.strides_eq, hDense.shape_eq, layoutStrides_eq hDense.positive hFits,
      MixedRadix.length_strides]
  cases hRun : simNdOffsetNeighbor field k offsets boundary with
  | error failure =>
      rw [hRun] at hSound
      exact absurd hSound (movedCoords_stay hCoords hExtents hShort)
  | ok neighbor =>
      rw [hRun, OffsetNeighborSound, hDense.shape_eq] at hSound
      obtain ⟨hDropped, -, hMapped⟩ := hSound
      cases hValid : neighbor.valid with
      | false =>
          obtain ⟨hDrops, hLeaves⟩ := hDropped.mp hValid
          have hNone : neighborOf (.ok neighbor) = none := by
            rw [neighborOf, hValid]
            rfl
          rw [hNone]
          refine iff_of_false (fun hSome => (by cases hSome)) ?_
          rintro ⟨hTarget, hTargets⟩
          exact hTargets.not_leaves (MixedRadix.inRange_digits hDense.positive hTarget)
            hDrops hLeaves
      | true =>
          obtain ⟨targets, hTargets, hIndex⟩ := hMapped hValid
          have hRange : MixedRadix.InRange targets shape :=
            hDense.shape_eq ▸ inRange_of_elementIndex hLengths hIndex
          have hAddress : MixedRadix.address targets (MixedRadix.strides shape) =
            neighbor.index := by
            rw [elementIndex_eq_address hRank hDense.positive hFits hDense.shape_eq
              hDense.strides_eq
              hRange] at hIndex
            exact Except.ok.inj hIndex
          have hSome : neighborOf (.ok neighbor) = some neighbor.index := by
            rw [neighborOf, hValid]
            rfl
          rw [hSome]
          constructor
          · intro hEq
            obtain rfl := Option.some.inj hEq
            rw [← hAddress, MixedRadix.digits_address hRange]
            exact ⟨MixedRadix.address_lt hRange, hTargets⟩
          · rintro ⟨hTarget, hTargets'⟩
            rw [boundaryMapped_unique hPolicy hTargets hTargets', MixedRadix.address_digits
              hDense.positive hTarget] at hAddress
            rw [hAddress]

/-- The neighbour of an element, among the elements. -/
def neighborTarget (field : SimField D) (boundary : SimIRBoundaryPolicy) (count : ℕ)
    (offsets : List ℤ) (k : Fin count) : Option (Fin count) :=
  (neighborOf (simNdOffsetNeighbor field k offsets boundary)).bind fun j =>
    if hElement : j < count then some ⟨j, hElement⟩ else none

/-- What the links along a vector of offsets need. -/
structure Linkable (field : SimField D) (boundary : SimIRBoundaryPolicy) (shape : List ℕ)
    (elementSize : ℕ) (offsets : List ℤ) : Prop where
  dense : DenseField field shape elementSize
  size : 8 ≤ elementSize
  rank : shape ≠ []
  policy : boundary ≠ .reflective
  length : offsets.length = shape.length
  short : ShortOffsets offsets

theorem ShortOffsets.neg (hShort : ShortOffsets offsets) : ShortOffsets (offsets.map Neg.neg) := by
  intro offset hOffset
  obtain ⟨before, hBefore, rfl⟩ := List.mem_map.mp hOffset
  rw [Int.natAbs_neg]
  exact hShort before hBefore

theorem Linkable.neg (hLinks : Linkable field boundary shape elementSize offsets) :
    Linkable field boundary shape elementSize (offsets.map Neg.neg) :=
  { hLinks with
    length := (List.length_map ..).trans hLinks.length
    short := hLinks.short.neg }

theorem neighborTarget_eq_some_iff (hLinks : Linkable field boundary shape elementSize offsets)
    {k j : Fin shape.prod} :
    neighborTarget field boundary shape.prod offsets k = some j ↔
      BoundaryMapped boundary shape (movedCoords (MixedRadix.digits shape k) offsets)
        (MixedRadix.digits shape j) := by
  have hSome := @neighborOf_eq_some_iff boundary shape offsets D field elementSize hLinks.dense
    hLinks.size hLinks.rank hLinks.policy hLinks.length hLinks.short k j k.isLt
  rw [neighborTarget, Option.bind_eq_some_iff]
  constructor
  · rintro ⟨target, hTarget, hBelow⟩
    split at hBelow
    case isFalse => exact (nomatch hBelow)
    case isTrue =>
      obtain rfl := Option.some.inj hBelow
      exact (hSome.mp hTarget).2
  · intro hMapped
    exact ⟨j, hSome.mpr ⟨j.isLt, hMapped⟩, dif_pos j.isLt⟩

theorem map_neg_neg (offsets : List ℤ) : (offsets.map Neg.neg).map Neg.neg = offsets := by
  rw [List.map_map, neg_comp_neg]
  exact List.map_id offsets

theorem Linkable.inRange (hLinks : Linkable field boundary shape elementSize offsets)
    (k : Fin shape.prod) : MixedRadix.InRange (MixedRadix.digits shape k) shape :=
  MixedRadix.inRange_digits hLinks.dense.positive k.isLt

/-- The links between the elements at a vector of offsets; the negated vector leads back. -/
def neighborLinks (hLinks : Linkable field boundary shape elementSize offsets) :
    Fin shape.prod ≃. Fin shape.prod where
  toFun := neighborTarget field boundary shape.prod offsets
  invFun := neighborTarget field boundary shape.prod (offsets.map Neg.neg)
  inv k j := by
    rw [neighborTarget_eq_some_iff hLinks, neighborTarget_eq_some_iff hLinks.neg]
    constructor
    · intro hMapped
      have hBack := boundaryMapped_neg hLinks.policy (hLinks.inRange j) (hLinks.inRange k)
        hLinks.neg.length hMapped
      rwa [map_neg_neg] at hBack
    · exact boundaryMapped_neg hLinks.policy (hLinks.inRange k) (hLinks.inRange j) hLinks.length

/-- Twice the offsets lead where two links in a row lead. -/
theorem neighborLinks_twice (hLinks : Linkable field boundary shape elementSize offsets)
    (hTwice : Linkable field boundary shape elementSize (offsets.map (2 * ·))) :
    neighborLinks hTwice = (neighborLinks hLinks).trans (neighborLinks hLinks) := by
  refine PEquiv.ext fun k => Option.ext fun j => ?_
  rw [show (neighborLinks hTwice) k = neighborTarget field boundary shape.prod _ k from rfl,
    neighborTarget_eq_some_iff hTwice,
    boundaryMapped_twice hLinks.policy (hLinks.inRange k) (hLinks.inRange j) hLinks.length,
    ← Option.mem_def, PEquiv.mem_trans]
  constructor
  · rintro ⟨middles, hRange, hFirst, hSecond⟩
    have hBelow := MixedRadix.address_lt hRange
    refine ⟨⟨MixedRadix.address middles (MixedRadix.strides shape), hBelow⟩, ?_, ?_⟩
    · rw [Option.mem_def]
      refine (neighborTarget_eq_some_iff hLinks).mpr ?_
      rwa [MixedRadix.digits_address hRange]
    · rw [Option.mem_def]
      refine (neighborTarget_eq_some_iff hLinks).mpr ?_
      rwa [MixedRadix.digits_address hRange]
  · rintro ⟨middle, hFirst, hSecond⟩
    rw [Option.mem_def] at hFirst hSecond
    exact ⟨_, hLinks.inRange middle, (neighborTarget_eq_some_iff hLinks).mp hFirst,
      (neighborTarget_eq_some_iff hLinks).mp hSecond⟩

end Dense

end Oakfield
