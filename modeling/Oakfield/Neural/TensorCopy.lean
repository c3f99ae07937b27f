import Oakfield.Neural.TensorIndex
import Oakfield.Library.Scatter

/-! The lanes of a field's elements and of its tensor: the copy loops scatter the
ones into the others, and an aliased tensor keeps their order. -/
namespace Oakfield

open KernelIR Library

variable {D : Type}

/-! ### Fields with given contents -/

/-- The field with given buffer contents. -/
def SimField.withData (field : SimField D) (contents : FieldData D) : SimField D :=
  { field with data := some contents }

/-- The buffer which the copy loops read and write. -/
def SimField.typedData (field : SimField D) : Option (FieldData D) :=
  if field.storageIsComplex then field.complexData else field.realData

/-- The elements are doubles or pairs of doubles for the typed accessors. -/
def SimField.Typed (field : SimField D) : Prop :=
  field.initialized = true ∧ (field.elementSize = 16 ∨
    ¬(field.domain.kind = .integer ∨ field.domain.kind = .modular ∨ field.domain.isComplex))

instance (field : SimField D) : Decidable field.Typed :=
  inferInstanceAs (Decidable (_ ∧ _))

/-- The lanes of a tensor, two for each interleaved value. -/
def SimNeuralTensorPlan.lanes (plan : SimNeuralTensorPlan D) : ℕ :=
  plan.tensorValues * (plan.valueSize / 8)

/-! ### Lanes of the elements -/

/-- The doubles of an element. -/
def neuralComps (field : SimField D) : ℕ := if field.storageIsComplex then 2 else 1

/-- A lane of an element in the field's buffer. -/
def fieldLane (field : SimField D) (item : ℕ × ℕ) : ℕ :=
  neuralComps field * neuralFieldOffset field item.1 + item.2

/-- A lane of an element in the tensor. -/
def tensorLane (field : SimField D) (plan : SimNeuralTensorPlan D) (item : ℕ × ℕ) : ℕ :=
  match plan.valueType with
  | .complexF64Interleaved => 2 * neuralSlot field plan (item.1, 0) + item.2
  | .realF64 => neuralSlot field plan item

/-- The lanes of all elements, in the order of the copy loops. -/
def laneItems (field : SimField D) : List (ℕ × ℕ) :=
  (List.range (SimField.elementCount field.shape)).flatMap fun linear =>
    (List.range (neuralComps field)).map (linear, ·)

theorem mem_laneItems {field : SimField D} {item : ℕ × ℕ} :
    item ∈ laneItems field ↔
      item.1 < SimField.elementCount field.shape ∧ item.2 < neuralComps field := by
  obtain ⟨linear, lane⟩ := item
  simp [laneItems]

section Plan

variable {field : SimField D} {plan : SimNeuralTensorPlan D} {channelAxis : Option ℕ}

namespace PlanFor

theorem comps_of_real (hType : plan.valueType = .realF64) :
    neuralComps field = neuralParts field plan := by
  rw [neuralComps, neuralParts]
  cases field.storageIsComplex <;> simp [hType]

theorem complex_of_interleaved (hFor : PlanFor field plan channelAxis)
    (hType : plan.valueType = .complexF64Interleaved) : field.storageIsComplex = true := by
  have hValue := hFor.valueType
  rw [hType] at hValue
  split_ifs at hValue with hComplex
  · exact hComplex.1

theorem parts_of_interleaved (hType : plan.valueType = .complexF64Interleaved) :
    neuralParts field plan = 1 := by
  rw [neuralParts, hType, if_neg (by simp)]

/-- The lanes of the elements fill the tensor. -/
theorem bijOn_tensorLane (hFor : PlanFor field plan channelAxis) :
    Set.BijOn (tensorLane field plan) {item | item ∈ laneItems field} (Set.Iio plan.lanes) := by
  have hSlot := hFor.bijOn_slot
  have hSize := hFor.valueSize
  cases hType : plan.valueType with
  | realF64 =>
      rw [hType, if_pos rfl] at hSize
      have hLane : tensorLane field plan = neuralSlot field plan := by
        funext item
        rw [tensorLane, hType]
      have hItems : {item | item ∈ laneItems field} =
          Set.Iio (SimField.elementCount field.shape) ×ˢ Set.Iio (neuralParts field plan) := by
        ext item
        show item ∈ laneItems field ↔ _
        rw [mem_laneItems, comps_of_real hType]
        rfl
      rw [hLane, hItems, SimNeuralTensorPlan.lanes, hSize, Nat.div_self (by omega), Nat.mul_one]
      exact hSlot
  | complexF64Interleaved =>
      rw [hType, if_neg (by simp)] at hSize
      rw [parts_of_interleaved hType] at hSlot
      have hComps : neuralComps field = 2 := by
        rw [neuralComps, if_pos (hFor.complex_of_interleaved hType)]
      have hLane : ∀ item, tensorLane field plan item =
          2 * neuralSlot field plan (item.1, 0) + item.2 := by
        intro item
        rw [tensorLane, hType]
      have hLanes : plan.lanes = plan.tensorValues * 2 := by
        rw [SimNeuralTensorPlan.lanes, hSize]
      have hBound : ∀ item ∈ laneItems field,
          item.1 < SimField.elementCount field.shape ∧ item.2 < 2 := by
        intro item hItem
        rwa [mem_laneItems, hComps] at hItem
      have hElement : ∀ item ∈ laneItems field, (item.1, 0) ∈
          Set.Iio (SimField.elementCount field.shape) ×ˢ Set.Iio 1 :=
        fun item hItem => ⟨(hBound item hItem).1, Nat.one_pos⟩
      rw [hLanes]
      refine ⟨?_, ?_, ?_⟩
      · intro item hItem
        have hBelow : neuralSlot field plan (item.1, 0) < plan.tensorValues :=
          hSlot.mapsTo (hElement item hItem)
        have hPart := (hBound item hItem).2
        rw [Set.mem_Iio, hLane]
        omega
      · intro item hItem other hOther hEq
        have hPart := (hBound item hItem).2
        have hPiece := (hBound other hOther).2
        rw [hLane, hLane] at hEq
        have hSame : (item.1, 0) = (other.1, 0) :=
          hSlot.injOn (hElement item hItem) (hElement other hOther) (by omega)
        rw [hSame] at hEq
        exact Prod.ext (Prod.mk.inj hSame).1 (by omega)
      · intro k hK
        rw [Set.mem_Iio] at hK
        obtain ⟨⟨linear, part⟩, ⟨hLinear, hPart⟩, hEq⟩ :=
          hSlot.surjOn (show k / 2 ∈ Set.Iio plan.tensorValues from (by
            rw [Set.mem_Iio]
            omega))
        have hZero : part = 0 := Nat.lt_one_iff.mp hPart
        refine ⟨(linear, k % 2), ?_, ?_⟩
        · show (linear, k % 2) ∈ laneItems field
          rw [mem_laneItems, hComps]
          exact ⟨hLinear, Nat.mod_lt _ (by omega)⟩
        · rw [hLane, ← hZero, hEq]
          exact Nat.div_add_mod k 2

end PlanFor

end Plan

/-! ### Copies -/

section Lanes

variable {field : SimField D} {plan : SimNeuralTensorPlan D} {channelAxis : Option ℕ}

theorem elementCount_ne_zero (hFor : PlanFor field plan channelAxis) :
    SimField.elementCount field.shape ≠ 0 := by
  rw [hFor.elementCount_eq]
  exact List.prod_ne_zero hFor.shape_positive

/-- A complex element has two lanes, stored one after the other. -/
theorem scatter_laneItems {target : ℕ × ℕ → ℕ} {value : ℕ × ℕ → D} {memory : ℕ → D}
    (hComplex : field.storageIsComplex = true) :
    scatter target value (laneItems field) memory =
      (List.range (SimField.elementCount field.shape)).foldl (fun memory linear =>
        Function.update (Function.update memory (target (linear, 0)) (value (linear, 0)))
          (target (linear, 1)) (value (linear, 1))) memory := by
  have hComps : neuralComps field = 2 := by rw [neuralComps, if_pos hComplex]
  rw [laneItems, hComps, scatter_flatMap]
  rfl

theorem scatter_laneItems_real {target : ℕ × ℕ → ℕ} {value : ℕ × ℕ → D} {memory : ℕ → D}
    (hReal : field.storageIsComplex = false) :
    scatter target value (laneItems field) memory =
      (List.range (SimField.elementCount field.shape)).foldl (fun memory linear =>
        Function.update memory (target (linear, 0)) (value (linear, 0))) memory := by
  have hComps : neuralComps field = 1 := by rw [neuralComps, hReal]; rfl
  rw [laneItems, hComps, scatter_flatMap]
  rfl

/-- Where the copy loops find the lanes of a complex element in the tensor. -/
theorem tensorLane_complex (hComplex : field.storageIsComplex = true) (linear lane : ℕ) :
    tensorLane field plan (linear, lane) =
      match plan.valueType with
      | .complexF64Interleaved =>
          2 * neuralTensorOffset field plan (neuralChannel field plan linear) linear + lane
      | .realF64 =>
          neuralTensorOffset field plan (neuralChannel field plan linear * 2 + lane) linear := by
  cases hType : plan.valueType with
  | realF64 => simp [tensorLane, hType, neuralSlot, neuralParts, hComplex]
  | complexF64Interleaved => simp [tensorLane, hType, neuralSlot, neuralParts]

theorem tensorLane_real (hFor : PlanFor field plan channelAxis)
    (hReal : field.storageIsComplex = false) (linear : ℕ) :
    tensorLane field plan (linear, 0) =
      neuralTensorOffset field plan (neuralChannel field plan linear) linear := by
  have hType := hFor.valueType
  rw [hReal, if_neg (by simp)] at hType
  simp [tensorLane, hType, neuralSlot, neuralParts, hReal]

end Lanes

section Copies

variable [CDouble D] {field : SimField D} {plan : SimNeuralTensorPlan D} {channelAxis : Option ℕ}

theorem neuralTensorAffineApply_disabled {affine : SimNeuralTensorAffineHook D}
    (hAffine : affine.enabled = false) (value : D) :
    neuralTensorAffineApply value affine = value := by
  rw [neuralTensorAffineApply, hAffine]
  rfl

/-- Copying from a typed field scatters its lanes into the tensor. -/
theorem neuralTensorCopyFromField_eq (hFor : PlanFor field plan channelAxis)
    (hAffine : plan.config.affine.enabled = false) {src : FieldData D}
    (hData : field.typedData = some src) (data : ℕ → D) (metrics : SimNeuralTensorMapMetrics) :
    ∃ counted, neuralTensorCopyFromField field plan data metrics =
      .ok (scatter (tensorLane field plan) (src.lane ∘ fieldLane field) (laneItems field) data,
        counted) := by
  rw [SimField.typedData] at hData
  rw [neuralTensorCopyFromField, if_neg (elementCount_ne_zero hFor)]
  cases hComplex : field.storageIsComplex with
  | true =>
      rw [hComplex, if_pos rfl] at hData
      rw [if_pos rfl, hData, scatter_laneItems hComplex]
      refine ⟨_, congrArg (fun lanes => Except.ok (lanes, _)) ?_⟩
      congr 1
      funext memory linear
      have hComps : neuralComps field = 2 := by rw [neuralComps, if_pos hComplex]
      simp only [neuralTensorAffineApply_disabled hAffine, tensorLane_complex hComplex,
        Function.comp_apply, fieldLane, hComps, Nat.add_zero]
      cases plan.valueType <;> rfl
  | false =>
      rw [hComplex, if_neg (by simp)] at hData
      rw [if_neg (by simp), hData, scatter_laneItems_real hComplex]
      refine ⟨_, congrArg (fun lanes => Except.ok (lanes, _)) ?_⟩
      congr 1
      funext memory linear
      have hComps : neuralComps field = 1 := by rw [neuralComps, hComplex]; rfl
      simp only [neuralTensorAffineApply_disabled hAffine, tensorLane_real hFor hComplex,
        Function.comp_apply, fieldLane, hComps, Nat.add_zero, Nat.one_mul]

/-- Copying to a typed field scatters the tensor into its lanes. -/
theorem neuralTensorCopyToField_eq (hFor : PlanFor field plan channelAxis)
    (hAffine : plan.config.affine.enabled = false) {dst : FieldData D}
    (hData : field.typedData = some dst) (data : ℕ → D) (metrics : SimNeuralTensorMapMetrics) :
    ∃ counted, neuralTensorCopyToField field plan data metrics =
      .ok (field.withData (.lanes
        (scatter (fieldLane field) (data ∘ tensorLane field plan) (laneItems field) dst.lane)),
        counted) := by
  rw [SimField.typedData] at hData
  rw [neuralTensorCopyToField, if_neg (elementCount_ne_zero hFor)]
  cases hComplex : field.storageIsComplex with
  | true =>
      rw [hComplex, if_pos rfl] at hData
      rw [if_pos rfl, hData, scatter_laneItems hComplex]
      refine ⟨_, congrArg (fun lanes => Except.ok (field.withData (.lanes lanes), _)) ?_⟩
      congr 1
      funext memory linear
      have hComps : neuralComps field = 2 := by rw [neuralComps, if_pos hComplex]
      simp only [neuralTensorAffineApply_disabled hAffine, tensorLane_complex hComplex,
        Function.comp_apply, fieldLane, hComps, Nat.add_zero]
      cases plan.valueType <;> rfl
  | false =>
      rw [hComplex, if_neg (by simp)] at hData
      rw [if_neg (by simp), hData, scatter_laneItems_real hComplex]
      refine ⟨_, congrArg (fun lanes => Except.ok (field.withData (.lanes lanes), _)) ?_⟩
      congr 1
      funext memory linear
      have hComps : neuralComps field = 1 := by rw [neuralComps, hComplex]; rfl
      have hType : plan.valueType = .realF64 := by
        rw [hFor.valueType, hComplex, if_neg (by simp)]
      simp only [neuralTensorAffineApply_disabled hAffine, tensorLane_real hFor hComplex,
        Function.comp_apply, fieldLane, hComps, hType, Nat.add_zero, Nat.one_mul]

theorem neuralTensorCopyFromField_untyped (hData : field.typedData = none) (data : ℕ → D)
    (metrics : SimNeuralTensorMapMetrics) :
    neuralTensorCopyFromField field plan data metrics = .error .invalidArgument := by
  rw [SimField.typedData] at hData
  rw [neuralTensorCopyFromField]
  split_ifs with hCount hComplex
  · rfl
  · rw [if_pos hComplex] at hData
    rw [hData]
  · rw [if_neg hComplex] at hData
    rw [hData]

theorem neuralTensorCopyToField_untyped (hData : field.typedData = none) (data : ℕ → D)
    (metrics : SimNeuralTensorMapMetrics) :
    neuralTensorCopyToField field plan data metrics = .error .invalidArgument := by
  rw [SimField.typedData] at hData
  rw [neuralTensorCopyToField]
  split_ifs with hCount hComplex
  · rfl
  · rw [if_pos hComplex] at hData
    rw [hData]
  · rw [if_neg hComplex] at hData
    rw [hData]

end Copies

/-! ### The contents do not matter to a plan -/

section Contents

variable {field : SimField D} {plan : SimNeuralTensorPlan D} {channelAxis : Option ℕ}

theorem typedData_withData (hSize : field.elementSize = 8 ∨ field.elementSize = 16)
    (contents : FieldData D) :
    (field.withData contents).typedData = if field.Typed then some contents else none := by
  have hDomain : (field.withData contents).domain = field.domain := rfl
  rw [SimField.typedData, SimField.complexData, SimField.realData, hDomain]
  show (if field.storageIsComplex then _ else _) = _
  cases hInit : field.initialized with
  | false => simp [SimField.Typed, SimField.withData, hInit]
  | true =>
      rcases hSize with hReal | hComplex
      · simp [SimField.Typed, SimField.withData, SimField.storageIsComplex, hInit, hReal, -not_or]
      · simp [SimField.Typed, SimField.withData, SimField.storageIsComplex, hInit, hComplex]

theorem PlanFor.withData (hFor : PlanFor field plan channelAxis) (contents : FieldData D) :
    PlanFor (field.withData contents) plan channelAxis :=
  ⟨hFor.elementSize, hFor.rank, hFor.batch, hFor.axis, hFor.onlyAxis, hFor.hasAxis, hFor.fieldAxis,
    hFor.spatial, hFor.valueType, hFor.valueSize, hFor.shape, hFor.tensorAxis, hFor.strides,
    hFor.values, hFor.positive, hFor.fits⟩

/-- Resolving a resolved configuration changes nothing. -/
theorem neuralTensorPlanBuild_resolved [CDouble D] {requested : Option (SimNeuralTensorMapConfig D)}
    (hPlan : neuralTensorPlanBuild field requested = .ok plan) :
    neuralTensorPlanBuild field (some plan.config) = .ok plan := by
  have hConfig : plan.config = neuralTensorConfigResolve requested := by
    obtain ⟨_, _, _, channelAxis, values, _, _, rfl, _⟩ := neuralTensorPlanBuild_ok hPlan
    rfl
  have hTwice : neuralTensorConfigResolve (some plan.config) =
    neuralTensorConfigResolve requested := by
    rw [hConfig]
    generalize hRequested : requested.getD simNeuralTensorMapConfigDefaults = config
    simp only [neuralTensorConfigResolve, Option.getD_some, hRequested]
    congr 1
    · split_ifs <;> rfl
    · cases config.complexMode <;> rfl
    · congr 1
      · split_ifs <;> rfl
      · split_ifs <;> rfl
  rw [neuralTensorPlanBuild, hTwice, ← neuralTensorPlanBuild, hPlan]

end Contents

/-! ### Aliased tensors -/

section Aliased

theorem spatialAxes_last (rank : ℕ) : neuralTensorSpatialAxes (rank + 1) (some rank) =
    List.range rank := by
  rw [neuralTensorSpatialAxes, List.range_succ, List.filter_append, List.filter_eq_self.mpr]
  · simp
  · intro axis hAxis
    rw [List.mem_range] at hAxis
    simp [Nat.ne_of_lt hAxis]

theorem spatialAxes_first (rank : ℕ) :
    neuralTensorSpatialAxes (rank + 1) (some 0) = (List.range rank).map Nat.succ := by
  rw [neuralTensorSpatialAxes, List.range_succ_eq_map, List.filter_cons, List.filter_eq_self.mpr]
  · simp
  · intro axis hAxis
    obtain ⟨before, _, rfl⟩ := List.mem_map.mp hAxis
    simp

/-- When the channels stand where the tensor has them, the axes keep their order. -/
theorem tensorIndices_kept {channelsLast : Bool} {axis : ℕ} {list : List ℕ} (hRank : list ≠ [])
    (hAxis : axis = if channelsLast then list.length - 1 else 0) (batch : ℕ) :
    tensorIndices channelsLast batch (list.getD axis 0)
      ((neuralTensorSpatialAxes list.length (some axis)).map (list.getD · 0)) = batch :: list := by
  obtain ⟨rank, hLength⟩ := Nat.exists_eq_succ_of_ne_zero (List.length_pos_iff.mpr hRank).ne'
  have hAll := map_getD_range list
  rw [hLength] at hAll ⊢
  cases channelsLast with
  | true =>
      rw [if_pos rfl, hLength] at hAxis
      rw [hAxis, Nat.succ_sub_one, spatialAxes_last, tensorIndices, if_pos rfl]
      rw [List.range_succ, List.map_append] at hAll
      exact congrArg (batch :: ·) hAll
  | false =>
      rw [if_neg (by simp)] at hAxis
      rw [hAxis, spatialAxes_first, tensorIndices, if_neg (by simp)]
      rw [List.range_succ_eq_map, List.map_cons] at hAll
      exact congrArg (batch :: ·) hAll

variable {field : SimField D} {plan : SimNeuralTensorPlan D} {channelAxis : Option ℕ}

theorem neuralTensorCanZeroCopy_eq (hZero : neuralTensorCanZeroCopy field plan = true) :
    (field.storageIsComplex = true → plan.config.complexMode = .interleaved) ∧
      (plan.hasFieldChannelAxis = true →
        plan.fieldChannelAxis =
          if plan.config.channelsLast then field.shape.length - 1 else 0) := by
  rw [neuralTensorCanZeroCopy] at hZero
  split_ifs at hZero with hAffine hContiguous hBatch hComplex hHas hLast
  · rw [not_and, not_not] at hComplex
    exact ⟨hComplex, fun _ => by simpa [hLast] using hZero⟩
  · rw [not_and, not_not] at hComplex
    exact ⟨hComplex, fun _ => by simpa [hLast] using hZero⟩
  · rw [not_and, not_not] at hComplex
    exact ⟨hComplex, fun hHas' => absurd hHas' hHas⟩

namespace PlanFor

theorem parts_aliased (hFor : PlanFor field plan channelAxis)
    (hZero : neuralTensorCanZeroCopy field plan = true) : neuralParts field plan = 1 := by
  have hMode := (neuralTensorCanZeroCopy_eq hZero).1
  rw [neuralParts]
  apply if_neg
  rintro ⟨hComplex, hReal⟩
  have hType := hFor.valueType
  rw [hReal, hComplex, hMode hComplex] at hType
  simp at hType

/-- In an aliased tensor the elements keep their linear order. -/
theorem slot_aliased (hFor : PlanFor field plan channelAxis)
    (hZero : neuralTensorCanZeroCopy field plan = true) {linear : ℕ}
    (hLinear : linear < field.shape.prod) : neuralSlot field plan (linear, 0) = linear := by
  have hParts := hFor.parts_aliased hZero
  have hAxis := (neuralTensorCanZeroCopy_eq hZero).2
  have hDecode := hFor.inRange_decode hLinear
  have hLength := hDecode.length_eq
  have hAddress : MixedRadix.address (neuralTensorDecodeIndex field.shape linear)
      (MixedRadix.strides field.shape) = linear := by
    rw [neuralTensorDecodeIndex_eq hFor.shape_positive hLinear]
    exact MixedRadix.address_digits hFor.shape_positive hLinear
  rw [hFor.slot_eq hLinear (by omega), hFor.shape, tensorIndex, hParts, Nat.mul_one, Nat.mul_one,
    Nat.add_zero, hFor.channel_eq, neuralSpatialIndices, hFor.spatial]
  cases hCase : channelAxis with
  | some axis =>
      rw [hFor.hasAxis, hFor.fieldAxis, hCase] at hAxis
      have hPlace := hAxis rfl
      rw [Option.getD_some] at hPlace
      have hRank : neuralTensorDecodeIndex field.shape linear ≠ [] := by
        intro hNil
        rw [hNil, List.length_nil, eq_comm, List.length_eq_zero_iff] at hLength
        exact hFor.rank hLength
      rw [fieldChannel, neuralTensorChannels, tensorIndices_kept hFor.rank hPlace, ← hLength,
        tensorIndices_kept hRank (by rw [hPlace, hLength]), MixedRadix.strides, MixedRadix.address,
        Nat.zero_mul, Nat.zero_add, hAddress]
  | none =>
      obtain ⟨extent, hShape⟩ := List.length_eq_one_iff.mp (hFor.onlyAxis hCase)
      rw [hShape] at hLength hAddress ⊢
      obtain ⟨index, hIndex⟩ := List.length_eq_one_iff.mp hLength
      rw [hIndex] at hAddress ⊢
      rw [← hAddress]
      cases plan.config.channelsLast <;>
        simp [tensorIndices, neuralTensorSpatialAxes, fieldChannel, neuralTensorChannels,
          MixedRadix.strides, MixedRadix.address]

/-- So do their lanes. -/
theorem tensorLane_aliased (hFor : PlanFor field plan channelAxis)
    (hZero : neuralTensorCanZeroCopy field plan = true) {item : ℕ × ℕ}
    (hItem : item ∈ laneItems field) :
    tensorLane field plan item = neuralComps field * item.1 + item.2 := by
  rw [mem_laneItems, hFor.elementCount_eq] at hItem
  have hSlot := hFor.slot_aliased hZero hItem.1
  rw [tensorLane]
  cases hType : plan.valueType with
  | complexF64Interleaved =>
      show 2 * _ + _ = _
      rw [hSlot, neuralComps, if_pos (hFor.complex_of_interleaved hType)]
  | realF64 =>
      have hComps : neuralComps field = 1 := (comps_of_real hType).trans (hFor.parts_aliased hZero)
      obtain ⟨linear, lane⟩ := item
      have hLane : lane = 0 := Nat.lt_one_iff.mp (hComps ▸ hItem.2)
      show neuralSlot field plan (linear, lane) = _
      rw [hLane, hSlot, hComps, Nat.one_mul, Nat.add_zero]

end PlanFor

end Aliased

end Oakfield
