import Oakfield.Neural.TensorMap
import Oakfield.Field.Layout
import Mathlib.Data.Finset.Prod
import Mathlib.Order.Interval.Finset.Nat
import Mathlib.Data.List.GetD

/-! Tensor indices of a plan: the three index functions are the row-major
addresses of the field's shape and of the tensor's shape, and the values of the
elements lie at different offsets which fill the tensor. -/
namespace Oakfield

open KernelIR Library

/-! ### Products, strides and digits -/

theorem neuralTensorProductLoop_eq {shape : List ℕ} {product : ℕ} (hPos : 0 < product)
    (hProduct : neuralTensorProductLoop shape product ≠ 0) :
    0 ∉ shape ∧ neuralTensorProductLoop shape product = product * shape.prod ∧
      (product < 2 ^ 64 → product * shape.prod < 2 ^ 64) := by
  induction shape generalizing product with
  | nil => simp [neuralTensorProductLoop]
  | cons extent shape ih =>
      rw [neuralTensorProductLoop] at hProduct ⊢
      split_ifs at hProduct ⊢ with hZero hFits
      · exact absurd rfl hProduct
      · exact absurd rfl hProduct
      · rw [Nat.not_lt, Nat.le_div_iff_mul_le hPos, Nat.mul_comm] at hFits
        obtain ⟨hRest, hEq, hBound⟩ :=
          ih (Nat.mul_pos hPos (Nat.pos_of_ne_zero hZero)) hProduct
        rw [hEq, List.prod_cons, List.mem_cons, not_or, Nat.mul_assoc]
        rw [Nat.mul_assoc] at hBound
        exact ⟨⟨Ne.symm hZero, hRest⟩, rfl, fun _ => hBound (by omega)⟩

/-- A product which is not reported as 0 is exact. -/
theorem neuralTensorProduct_eq {shape : List ℕ} (hProduct : neuralTensorProduct shape ≠ 0) :
    0 ∉ shape ∧ neuralTensorProduct shape = shape.prod ∧ shape.prod < 2 ^ 64 := by
  obtain ⟨hPos, hEq, hBound⟩ := neuralTensorProductLoop_eq Nat.one_pos hProduct
  rw [Nat.one_mul] at hEq hBound
  exact ⟨hPos, hEq, hBound (by norm_num)⟩

theorem neuralTensorStridesLoop_eq {shape : List ℕ} (hPos : 0 ∉ shape)
    (hFits : shape.prod < 2 ^ 64) :
    neuralTensorStridesLoop shape = (MixedRadix.strides shape, shape.prod) := by
  induction shape with
  | nil => rfl
  | cons extent shape ih =>
      rw [List.mem_cons, not_or] at hPos
      have hExtent : 0 < extent := Nat.pos_of_ne_zero (Ne.symm hPos.1)
      rw [List.prod_cons] at hFits
      have hTail : shape.prod < 2 ^ 64 :=
        Nat.lt_of_le_of_lt (Nat.le_mul_of_pos_left _ hExtent) hFits
      rw [neuralTensorStridesLoop, ih hPos.2 hTail]
      dsimp only
      rw [Nat.mul_comm, Nat.mod_eq_of_lt hFits]
      rfl

theorem neuralTensorDecodeLoop_eq {shape : List ℕ} (hPos : 0 ∉ shape) (linear : ℕ) :
    neuralTensorDecodeLoop shape linear =
      (MixedRadix.digits shape (linear % shape.prod), linear / shape.prod) := by
  induction shape with
  | nil => simp [neuralTensorDecodeLoop, MixedRadix.digits]
  | cons dim shape ih =>
      rw [List.mem_cons, not_or] at hPos
      have hHead : linear % (dim * shape.prod) / shape.prod = linear / shape.prod % dim := by
        rw [Nat.mul_comm, Nat.mod_mul_right_div_self]
      have hTail : linear % (dim * shape.prod) % shape.prod = linear % shape.prod :=
        Nat.mod_mod_of_dvd _ (Nat.dvd_mul_left _ _)
      rw [neuralTensorDecodeLoop, ih hPos.2]
      dsimp only
      rw [if_neg (Ne.symm hPos.1), MixedRadix.digits, List.prod_cons, hHead, hTail,
        Nat.div_div_eq_div_mul, Nat.mul_comm]

/-- Decoding gives the digits of a linear index. -/
theorem neuralTensorDecodeIndex_eq {shape : List ℕ} (hPos : 0 ∉ shape) {linear : ℕ}
    (hLinear : linear < shape.prod) :
    neuralTensorDecodeIndex shape linear = MixedRadix.digits shape linear := by
  rw [neuralTensorDecodeIndex, neuralTensorDecodeLoop_eq hPos, Nat.mod_eq_of_lt hLinear]

/-! ### Offsets of tensor values -/

/-- The axes of a tensor in order: batch, then channels last or first. -/
def tensorIndices (channelsLast : Bool) (batch channel : ℕ) (spatial : List ℕ) : List ℕ :=
  if channelsLast then batch :: (spatial ++ [channel]) else batch :: channel :: spatial

theorem neuralTensorShape_eq (channelsLast : Bool) (batchSize : ℕ) (spatial : List ℕ)
    (channels : ℕ) :
    (neuralTensorShape channelsLast batchSize spatial channels).1 =
      tensorIndices channelsLast batchSize channels spatial := by
  cases channelsLast <;> rfl

theorem valueOffsetLoop_batch (channelAxis channel stride : ℕ) (strides spatial : List ℕ)
    (offset : ℕ) :
    neuralTensorValueOffsetLoop channelAxis channel (stride :: strides) 0 spatial offset =
      neuralTensorValueOffsetLoop channelAxis channel strides 1 spatial offset := by
  rw [neuralTensorValueOffsetLoop.eq_def]
  simp

theorem valueOffsetLoop_channel {channelAxis : ℕ} (hAxis : 0 < channelAxis) (channel stride : ℕ)
    (strides spatial : List ℕ) (offset : ℕ) :
    neuralTensorValueOffsetLoop channelAxis channel (stride :: strides) channelAxis spatial offset =
      neuralTensorValueOffsetLoop channelAxis channel strides (channelAxis + 1) spatial
        ((offset + channel * stride) % 2 ^ 64) := by
  rw [neuralTensorValueOffsetLoop.eq_def]
  simp [Nat.ne_of_gt hAxis]

/-- After the batch axis and the channels, or before the channels, the loop adds
up an address. -/
theorem valueOffsetLoop_spatial {channelAxis channel : ℕ} {strides : List ℕ} {axis : ℕ}
    {spatial : List ℕ} {offset : ℕ} (hAxis : 0 < axis)
    (hBefore : channelAxis < axis) (hLength : strides.length = spatial.length)
    (hFits : offset + MixedRadix.address spatial strides < 2 ^ 64) :
    neuralTensorValueOffsetLoop channelAxis channel strides axis spatial offset =
      offset + MixedRadix.address spatial strides := by
  induction strides generalizing axis spatial offset with
  | nil =>
      rw [List.length_nil, eq_comm, List.length_eq_zero_iff] at hLength
      rw [hLength, neuralTensorValueOffsetLoop, MixedRadix.address, Nat.add_zero]
      simp
  | cons stride strides ih =>
      cases spatial with
      | nil => simp at hLength
      | cons index spatial =>
          rw [MixedRadix.address] at hFits ⊢
          have hStep : (offset + index * stride) % 2 ^ 64 = offset + index * stride :=
            Nat.mod_eq_of_lt (by omega)
          rw [neuralTensorValueOffsetLoop, if_neg (by omega), if_neg (by omega), hStep,
            ih (by omega) (by omega) (by simpa using hLength) (by omega), Nat.add_assoc]

theorem valueOffsetLoop_channelLast {channelAxis channel : ℕ} {strides : List ℕ} {axis : ℕ}
    {spatial : List ℕ} {offset : ℕ} (hAxis : 0 < axis)
    (hChannel : channelAxis = axis + spatial.length) (hLength : strides.length = spatial.length + 1)
    (hFits : offset + MixedRadix.address (spatial ++ [channel]) strides < 2 ^ 64) :
    neuralTensorValueOffsetLoop channelAxis channel strides axis spatial offset =
      offset + MixedRadix.address (spatial ++ [channel]) strides := by
  induction spatial generalizing axis strides offset with
  | nil =>
      obtain ⟨stride, rfl⟩ := List.length_eq_one_iff.mp hLength
      simp only [List.nil_append, MixedRadix.address, Nat.add_zero] at hFits ⊢
      rw [List.length_nil, Nat.add_zero] at hChannel
      rw [neuralTensorValueOffsetLoop, if_neg (by omega), if_pos hChannel.symm,
        neuralTensorValueOffsetLoop, Nat.mod_eq_of_lt hFits]
  | cons index spatial ih =>
      cases strides with
      | nil => simp at hLength
      | cons stride strides =>
          rw [List.length_cons] at hChannel
          rw [List.cons_append, MixedRadix.address] at hFits ⊢
          have hStep : (offset + index * stride) % 2 ^ 64 = offset + index * stride :=
            Nat.mod_eq_of_lt (by omega)
          rw [neuralTensorValueOffsetLoop, if_neg (by omega), if_neg (by omega), hStep,
            ih (by omega) (by omega) (by simpa using hLength) (by omega), Nat.add_assoc]

/-- The value offset is the address of the tensor index. -/
theorem valueOffsetLoop_eq {channelsLast : Bool} {channel : ℕ} {spatial strides : List ℕ}
    (hLength : strides.length = spatial.length + 2)
    (hFits : MixedRadix.address (tensorIndices channelsLast 0 channel spatial) strides < 2 ^ 64) :
    neuralTensorValueOffsetLoop (if channelsLast then 1 + spatial.length else 1) channel strides 0
        spatial 0 =
      MixedRadix.address (tensorIndices channelsLast 0 channel spatial) strides := by
  cases strides with
  | nil => simp at hLength
  | cons batch strides =>
      rw [List.length_cons] at hLength
      cases channelsLast with
      | true =>
          simp only [tensorIndices, if_true, MixedRadix.address, Nat.zero_mul,
            Nat.zero_add] at hFits ⊢
          rw [valueOffsetLoop_batch, valueOffsetLoop_channelLast Nat.one_pos rfl (by omega)
            (by omega), Nat.zero_add]
      | false =>
          cases strides with
          | nil => simp at hLength
          | cons stride strides =>
              simp only [tensorIndices, Bool.false_eq_true, if_false, MixedRadix.address,
                Nat.zero_mul,
                Nat.zero_add] at hFits ⊢
              rw [valueOffsetLoop_batch, valueOffsetLoop_channel Nat.one_pos, Nat.zero_add,
                Nat.mod_eq_of_lt (by omega), valueOffsetLoop_spatial (by omega) (by omega)
                  (by simpa using hLength) hFits]

/-! ### Axes of a field -/

/-- The channel of an index tuple. -/
def fieldChannel (indices : List ℕ) : Option ℕ → ℕ
  | none => 0
  | some axis => indices.getD axis 0

theorem mem_neuralTensorSpatialAxes {rank axis : ℕ} {channelAxis : Option ℕ} :
    axis ∈ neuralTensorSpatialAxes rank channelAxis ↔ axis < rank ∧ channelAxis ≠ some axis := by
  cases channelAxis with
  | none => simp [neuralTensorSpatialAxes]
  | some channel =>
      rw [neuralTensorSpatialAxes, List.mem_filter, List.mem_range, decide_eq_true_eq]
      exact and_congr_right fun _ => ⟨fun hNe hEq => hNe (Option.some.inj hEq).symm,
        fun hNe hEq => hNe (congrArg some hEq.symm)⟩

theorem neuralTensorChannelAxis_lt {D : Type} {rank axis : ℕ} {config : SimNeuralTensorMapConfig D}
    (hRank : rank ≠ 0) (hAxis : neuralTensorChannelAxis rank config = .ok (some axis)) :
    axis < rank := by
  rw [neuralTensorChannelAxis] at hAxis
  split_ifs at hAxis with hAuto hOne hLast hBelow
  · cases hAxis
  · cases hAxis
    omega
  · cases hAxis
    omega
  · cases hAxis
    omega

theorem map_getD_range (list : List ℕ) : (List.range list.length).map (list.getD · 0) = list := by
  apply List.ext_getElem (by simp)
  intro axis hLeft hRight
  rw [List.getElem_map, List.getElem_range, List.getD_eq_getElem list 0 hRight]

section Axes

variable {shape : List ℕ} {channelAxis : Option ℕ}

/-- The spatial extents and the channels make up the shape. -/
theorem prod_spatial_mul_channels (hAxis : ∀ axis, channelAxis = some axis → axis < shape.length) :
    ((neuralTensorSpatialAxes shape.length channelAxis).map (shape.getD · 0)).prod *
      neuralTensorChannels shape channelAxis = shape.prod := by
  cases channelAxis with
  | none => rw [neuralTensorSpatialAxes, map_getD_range, neuralTensorChannels, Nat.mul_one]
  | some axis =>
      have hMem : axis ∈ List.range shape.length := List.mem_range.mpr (hAxis axis rfl)
      have hPerm := List.perm_cons_erase hMem
      rw [List.nodup_range.erase_eq_filter] at hPerm
      have hProd := (hPerm.map (shape.getD · 0)).prod_eq
      rw [map_getD_range, List.map_cons, List.prod_cons] at hProd
      have hFilter : (fun other => decide (other ≠ axis)) = fun other => other != axis := by
        funext other
        rw [bne, beq_eq_decide, decide_not]
      rw [hProd, Nat.mul_comm, neuralTensorChannels, neuralTensorSpatialAxes, hFilter]

/-- The spatial indices of a tuple in range are in range. -/
theorem forall₂_spatial {indices : List ℕ} (hRange : MixedRadix.InRange indices shape) :
    MixedRadix.InRange
      ((neuralTensorSpatialAxes shape.length channelAxis).map (indices.getD · 0))
      ((neuralTensorSpatialAxes shape.length channelAxis).map (shape.getD · 0)) := by
  rw [MixedRadix.InRange, List.forall₂_map_left_iff, List.forall₂_map_right_iff, List.forall₂_same]
  intro axis hMem
  have hAxis := (mem_neuralTensorSpatialAxes.mp hMem).1
  have hIndex : axis < indices.length := hRange.length_eq ▸ hAxis
  rw [List.getD_eq_getElem _ _ hAxis, List.getD_eq_getElem _ _ hIndex]
  exact hRange.get hIndex hAxis

theorem fieldChannel_lt {indices : List ℕ} (hRange : MixedRadix.InRange indices shape)
    (hAxis : ∀ axis, channelAxis = some axis → axis < shape.length) :
    fieldChannel indices channelAxis < neuralTensorChannels shape channelAxis := by
  cases channelAxis with
  | none => exact Nat.one_pos
  | some axis =>
      have hBound := hAxis axis rfl
      have hIndex : axis < indices.length := hRange.length_eq ▸ hBound
      rw [fieldChannel, neuralTensorChannels, List.getD_eq_getElem _ _ hBound,
        List.getD_eq_getElem _ _ hIndex]
      exact hRange.get hIndex hBound

/-- Channel and spatial indices determine a tuple. -/
theorem indices_determined {indices other : List ℕ} (hLength : indices.length = shape.length)
    (hOther : other.length = shape.length)
    (hChannel : fieldChannel indices channelAxis = fieldChannel other channelAxis)
    (hSpatial : (neuralTensorSpatialAxes shape.length channelAxis).map (indices.getD · 0) =
      (neuralTensorSpatialAxes shape.length channelAxis).map (other.getD · 0)) :
      indices = other := by
  apply List.ext_getElem (hLength.trans hOther.symm)
  intro axis hLeft hRight
  rw [← List.getD_eq_getElem _ 0 hLeft, ← List.getD_eq_getElem _ 0 hRight]
  by_cases hAxis : channelAxis = some axis
  · rw [hAxis] at hChannel
    exact hChannel
  · exact List.map_inj_left.mp hSpatial axis
      (mem_neuralTensorSpatialAxes.mpr ⟨hLength ▸ hLeft, hAxis⟩)

end Axes

/-! ### Tensor indices -/

theorem tensorIndices_inj {channelsLast : Bool} {batch channel other : ℕ} {spatial rest : List ℕ}
    (hEq : tensorIndices channelsLast batch channel spatial =
      tensorIndices channelsLast batch other rest) : channel = other ∧ spatial = rest := by
  cases channelsLast with
  | true =>
      rw [tensorIndices, tensorIndices, if_pos rfl, if_pos rfl, List.cons.injEq] at hEq
      obtain ⟨hSpatial, hChannel⟩ := List.append_inj' hEq.2 rfl
      exact ⟨List.singleton_inj.mp hChannel, hSpatial⟩
  | false =>
      rw [tensorIndices, tensorIndices, if_neg (by simp), if_neg (by simp), List.cons.injEq,
        List.cons.injEq] at hEq
      exact hEq.2

theorem inRange_tensorIndices {channelsLast : Bool} {channel channels : ℕ} {spatial shape : List ℕ}
    (hChannel : channel < channels) (hSpatial : MixedRadix.InRange spatial shape) :
    MixedRadix.InRange (tensorIndices channelsLast 0 channel spatial)
      (tensorIndices channelsLast 1 channels shape) := by
  cases channelsLast with
  | true => exact .cons Nat.one_pos (List.rel_append hSpatial (.cons hChannel .nil))
  | false => exact .cons Nat.one_pos (.cons hChannel hSpatial)

theorem prod_tensorIndices (channelsLast : Bool) (channels : ℕ) (shape : List ℕ) :
    (tensorIndices channelsLast 1 channels shape).prod = shape.prod * channels := by
  cases channelsLast with
  | true => simp [tensorIndices]
  | false => simp [tensorIndices, Nat.mul_comm]

theorem length_tensorIndices (channelsLast : Bool) (batch channel : ℕ) (spatial : List ℕ) :
    (tensorIndices channelsLast batch channel spatial).length = spatial.length + 2 := by
  cases channelsLast <;> simp [tensorIndices]

/-! ### Built plans -/

section Built

variable {D : Type}

/-- The real tensor channels of an element: the two parts of a complex one when
they are split. -/
def neuralParts (field : SimField D) (plan : SimNeuralTensorPlan D) : ℕ :=
  if field.storageIsComplex ∧ plan.valueType = .realF64 then 2 else 1

/-- The tensor offset of a part of an element. -/
def neuralSlot (field : SimField D) (plan : SimNeuralTensorPlan D) (element : ℕ × ℕ) : ℕ :=
  neuralTensorOffset field plan
    (neuralChannel field plan element.1 * neuralParts field plan + element.2) element.1

/-- What a plan says of its field, with the field axis of the channels. -/
structure PlanFor (field : SimField D) (plan : SimNeuralTensorPlan D) (channelAxis : Option ℕ) :
    Prop where
  elementSize : field.elementSize = 8 ∨ field.elementSize = 16
  rank : field.shape ≠ []
  batch : plan.config.batchSize = 1
  axis : ∀ axis, channelAxis = some axis → axis < field.shape.length
  onlyAxis : channelAxis = none → field.shape.length = 1
  hasAxis : plan.hasFieldChannelAxis = channelAxis.isSome
  fieldAxis : plan.fieldChannelAxis = channelAxis.getD 0
  spatial : plan.fieldSpatialAxes = neuralTensorSpatialAxes field.shape.length channelAxis
  valueType : plan.valueType =
    if field.storageIsComplex ∧ plan.config.complexMode ≠ .splitChannels then .complexF64Interleaved
    else .realF64
  valueSize : plan.valueSize = if plan.valueType = .realF64 then 8 else 16
  shape : plan.tensorShape = tensorIndices plan.config.channelsLast 1
    (neuralTensorChannels field.shape channelAxis * neuralParts field plan)
    ((neuralTensorSpatialAxes field.shape.length channelAxis).map (field.shape.getD · 0))
  tensorAxis : plan.tensorChannelAxis =
    if plan.config.channelsLast then 1 + plan.fieldSpatialAxes.length else 1
  strides : plan.tensorStrides = MixedRadix.strides plan.tensorShape
  values : plan.tensorValues = plan.tensorShape.prod
  positive : 0 ∉ plan.tensorShape
  fits : plan.tensorValues < 2 ^ 64

theorem neuralTensorValues_ok {complex : Bool} {mode : SimNeuralTensorComplexMode} {channels : ℕ}
    {values : ℕ × SimNeuralTensorValueType × ℕ}
    (hValues : neuralTensorValues complex mode channels = .ok values) :
    values.2.1 = (if complex ∧ mode ≠ .splitChannels then .complexF64Interleaved else .realF64) ∧
      values.2.2 = (if values.2.1 = .realF64 then 8 else 16) ∧
      values.1 = channels * (if complex ∧ values.2.1 = .realF64 then 2 else 1) := by
  rw [neuralTensorValues] at hValues
  split_ifs at hValues with hComplex hSplit hChannels
  · cases hValues
    simp [hComplex, hSplit]
  · cases hValues
    simp [hComplex, hSplit]
  · cases hValues
    simp [hComplex]

variable [CDouble D]

theorem neuralTensorPlanBuild_ok {field : SimField D}
    {requested : Option (SimNeuralTensorMapConfig D)}
    {plan : SimNeuralTensorPlan D} (hPlan : neuralTensorPlanBuild field requested = .ok plan) :
    (field.elementSize = 8 ∨ field.elementSize = 16) ∧ field.shape.length ≠ 0 ∧
      (neuralTensorConfigResolve requested).batchSize = 1 ∧
      ∃ channelAxis values,
        neuralTensorChannelAxis field.shape.length (neuralTensorConfigResolve requested) =
          .ok channelAxis ∧
        neuralTensorValues field.storageIsComplex (neuralTensorConfigResolve requested).complexMode
          (neuralTensorChannels field.shape channelAxis) = .ok values ∧
        plan = neuralTensorPlanOf (neuralTensorConfigResolve requested) field.shape
          channelAxis values ∧
        plan.tensorValues ≠ 0 := by
  rw [neuralTensorPlanBuild] at hPlan
  split_ifs at hPlan with hSize hRank hBatch
  cases hAxis : neuralTensorChannelAxis field.shape.length
    (neuralTensorConfigResolve requested) with
  | error failure =>
      rw [hAxis] at hPlan
      cases hPlan
  | ok channelAxis =>
      simp only [hAxis] at hPlan
      split_ifs at hPlan with hChannels hSpatial
      cases hValues : neuralTensorValues field.storageIsComplex
          (neuralTensorConfigResolve requested).complexMode
          (neuralTensorChannels field.shape channelAxis) with
      | error failure =>
          rw [hValues] at hPlan
          cases hPlan
      | ok values =>
          simp only [hValues] at hPlan
          split_ifs at hPlan with hMax hZero
          cases hPlan
          rw [not_and_or, not_not, not_not] at hSize
          rw [not_or] at hRank
          exact ⟨hSize, hRank.1, not_not.mp hBatch, channelAxis, values, rfl, hValues, rfl, hZero⟩

/-- A built plan belongs to its field. -/
theorem neuralTensorPlanBuild_planFor {field : SimField D}
    {requested : Option (SimNeuralTensorMapConfig D)} {plan : SimNeuralTensorPlan D}
    (hPlan : neuralTensorPlanBuild field requested = .ok plan) :
    ∃ channelAxis, PlanFor field plan channelAxis := by
  obtain ⟨hSize, hRank, hBatch, channelAxis, values, hAxis, hValues, rfl, hZero⟩ :=
    neuralTensorPlanBuild_ok hPlan
  obtain ⟨hType, hValueSize, hChannels⟩ := neuralTensorValues_ok hValues
  obtain ⟨hPositive, hProduct, hFits⟩ := neuralTensorProduct_eq hZero
  refine ⟨channelAxis, ⟨hSize, fun hNil => hRank (by rw [hNil]; rfl), hBatch, ?_, ?_, rfl,
    rfl, rfl, hType,
    hValueSize, ?_, ?_, ?_, hProduct, hPositive, hProduct.trans_lt hFits⟩⟩
  · rintro axis rfl
    exact neuralTensorChannelAxis_lt hRank hAxis
  · rintro rfl
    rw [neuralTensorChannelAxis] at hAxis
    split_ifs at hAxis with hAuto hOne hLast
    · exact hOne
    all_goals cases hAxis
  · show (neuralTensorShape _ _ _ _).1 = _
    rw [neuralTensorShape_eq, hBatch, hChannels]
    rfl
  · show (neuralTensorShape _ _ _ _).2 = _
    rw [neuralTensorShape, apply_ite Prod.snd, List.length_map]
    congr
  · show neuralTensorComputeContiguousStrides _ = _
    rw [neuralTensorComputeContiguousStrides, neuralTensorStridesLoop_eq hPositive hFits]
    rfl

end Built

/-! ### Elements of a field as tensor values -/

namespace PlanFor

variable {D : Type} {field : SimField D} {plan : SimNeuralTensorPlan D} {channelAxis : Option ℕ}

theorem parts_pos (field : SimField D) (plan : SimNeuralTensorPlan D) :
    0 < neuralParts field plan := by
  rw [neuralParts]
  split_ifs <;> omega

theorem tensorValues_eq (hFor : PlanFor field plan channelAxis) :
    plan.tensorValues = field.shape.prod * neuralParts field plan := by
  rw [hFor.values, hFor.shape, prod_tensorIndices, ← Nat.mul_assoc,
    prod_spatial_mul_channels hFor.axis]

theorem shape_positive (hFor : PlanFor field plan channelAxis) : 0 ∉ field.shape := by
  intro hZero
  apply List.prod_ne_zero hFor.positive
  rw [← hFor.values, hFor.tensorValues_eq, List.prod_eq_zero hZero, Nat.zero_mul]

theorem elementCount_eq (hFor : PlanFor field plan channelAxis) :
    SimField.elementCount field.shape = field.shape.prod := by
  have hFits := hFor.fits
  rw [hFor.tensorValues_eq] at hFits
  rw [elementCount_eq_prod_mod hFor.rank, Nat.mod_eq_of_lt]
  exact Nat.lt_of_le_of_lt (Nat.le_mul_of_pos_right _ (parts_pos field plan)) hFits

variable {linear part : ℕ}

theorem inRange_decode (hFor : PlanFor field plan channelAxis)
    (hLinear : linear < field.shape.prod) :
    MixedRadix.InRange (neuralTensorDecodeIndex field.shape linear) field.shape := by
  rw [neuralTensorDecodeIndex_eq hFor.shape_positive hLinear]
  exact MixedRadix.inRange_digits hFor.shape_positive hLinear

theorem channel_eq (hFor : PlanFor field plan channelAxis) (linear : ℕ) :
    neuralChannel field plan linear =
      fieldChannel (neuralTensorDecodeIndex field.shape linear) channelAxis := by
  rw [neuralChannel, hFor.hasAxis, hFor.fieldAxis]
  cases channelAxis <;> rfl

/-- The tensor index of a part of an element. -/
def tensorIndex (field : SimField D) (plan : SimNeuralTensorPlan D) (element : ℕ × ℕ) : List ℕ :=
  tensorIndices plan.config.channelsLast 0
    (neuralChannel field plan element.1 * neuralParts field plan + element.2)
    (neuralSpatialIndices field plan element.1)

theorem inRange_tensorIndex (hFor : PlanFor field plan channelAxis)
    (hLinear : linear < field.shape.prod) (hPart : part < neuralParts field plan) :
    MixedRadix.InRange (tensorIndex field plan (linear, part)) plan.tensorShape := by
  have hDecode := hFor.inRange_decode hLinear
  have hChannel := fieldChannel_lt hDecode hFor.axis
  rw [← hFor.channel_eq] at hChannel
  have hSlot : neuralChannel field plan linear * neuralParts field plan + part <
      neuralTensorChannels field.shape channelAxis * neuralParts field plan := by
    calc
      neuralChannel field plan linear * neuralParts field plan + part
          < neuralChannel field plan linear * neuralParts field plan + neuralParts field plan :=
            Nat.add_lt_add_left hPart _
      _ = (neuralChannel field plan linear + 1) * neuralParts field plan :=
            (Nat.succ_mul _ _).symm
      _ ≤ neuralTensorChannels field.shape channelAxis * neuralParts field plan :=
            Nat.mul_le_mul_right _ hChannel
  rw [hFor.shape, tensorIndex]
  apply inRange_tensorIndices hSlot
  rw [neuralSpatialIndices, hFor.spatial]
  exact forall₂_spatial hDecode

/-- A slot is the row-major address of its tensor index. -/
theorem slot_eq (hFor : PlanFor field plan channelAxis) (hLinear : linear < field.shape.prod)
    (hPart : part < neuralParts field plan) :
    neuralSlot field plan (linear, part) =
      MixedRadix.address (tensorIndex field plan (linear, part))
        (MixedRadix.strides plan.tensorShape) := by
  have hRange := hFor.inRange_tensorIndex hLinear hPart
  have hLength : (neuralSpatialIndices field plan linear).length =
    plan.fieldSpatialAxes.length := by
    rw [neuralSpatialIndices, List.length_map]
  rw [neuralSlot, neuralTensorOffset, neuralTensorValueOffset, hFor.tensorAxis, hFor.strides,
    ← hLength]
  apply valueOffsetLoop_eq
  · rw [MixedRadix.length_strides, ← hRange.length_eq, tensorIndex, length_tensorIndices]
  · have hAddress := MixedRadix.address_lt hRange
    rw [← hFor.values] at hAddress
    exact hAddress.trans hFor.fits

theorem tensorIndex_injOn (hFor : PlanFor field plan channelAxis) :
    Set.InjOn (tensorIndex field plan)
      {element | element.1 < field.shape.prod ∧ element.2 < neuralParts field plan} := by
  rintro ⟨linear, part⟩ ⟨hLinear, hPart⟩ ⟨other, piece⟩ ⟨hOther, hPiece⟩ hEq
  obtain ⟨hChannel, hSpatial⟩ := tensorIndices_inj hEq
  have hPartEq : part = piece := by
    have hMod := congrArg (· % neuralParts field plan) hChannel
    simpa [Nat.mul_add_mod', Nat.mod_eq_of_lt hPart, Nat.mod_eq_of_lt hPiece] using hMod
  have hChannelEq : neuralChannel field plan linear = neuralChannel field plan other := by
    apply Nat.eq_of_mul_eq_mul_right (parts_pos field plan)
    simp only at hChannel
    omega
  rw [hFor.channel_eq, hFor.channel_eq] at hChannelEq
  simp only [neuralSpatialIndices, hFor.spatial] at hSpatial
  have hDecode := indices_determined (hFor.inRange_decode hLinear).length_eq
    (hFor.inRange_decode hOther).length_eq hChannelEq hSpatial
  have hShape := hFor.shape_positive
  rw [neuralTensorDecodeIndex_eq hShape hLinear,
    neuralTensorDecodeIndex_eq hShape hOther] at hDecode
  have hLinearEq : linear = other :=
    (MixedRadix.address_digits hShape hLinear).symm.trans
      ((congrArg (MixedRadix.address · _) hDecode).trans (MixedRadix.address_digits hShape hOther))
  rw [hLinearEq, hPartEq]

/-- The parts of the elements fill the tensor, one value each. -/
theorem bijOn_slot (hFor : PlanFor field plan channelAxis) :
    Set.BijOn (neuralSlot field plan)
      (Set.Iio (SimField.elementCount field.shape) ×ˢ Set.Iio (neuralParts field plan))
      (Set.Iio plan.tensorValues) := by
  rw [hFor.elementCount_eq]
  have hMaps : Set.MapsTo (neuralSlot field plan)
      (Set.Iio field.shape.prod ×ˢ Set.Iio (neuralParts field plan))
      (Set.Iio plan.tensorValues) := by
    rintro ⟨linear, part⟩ ⟨hLinear, hPart⟩
    rw [hFor.slot_eq hLinear hPart, hFor.values]
    exact MixedRadix.address_lt (hFor.inRange_tensorIndex hLinear hPart)
  have hInj : Set.InjOn (neuralSlot field plan)
      (Set.Iio field.shape.prod ×ˢ Set.Iio (neuralParts field plan)) := by
    rintro ⟨linear, part⟩ ⟨hLinear, hPart⟩ ⟨other, piece⟩ ⟨hOther, hPiece⟩ hEq
    rw [hFor.slot_eq hLinear hPart, hFor.slot_eq hOther hPiece] at hEq
    apply hFor.tensorIndex_injOn ⟨hLinear, hPart⟩ ⟨hOther, hPiece⟩
    exact (MixedRadix.bijOn_address hFor.positive).injOn (hFor.inRange_tensorIndex hLinear hPart)
      (hFor.inRange_tensorIndex hOther hPiece) hEq
  apply Set.BijOn.mk hMaps hInj
  have hSource : Set.Iio field.shape.prod ×ˢ Set.Iio (neuralParts field plan) =
      ((Finset.range field.shape.prod ×ˢ Finset.range (neuralParts field plan) : Finset (ℕ × ℕ)) :
        Set (ℕ × ℕ)) := by
    rw [Finset.coe_product, Finset.coe_range, Finset.coe_range]
  have hTarget : Set.Iio plan.tensorValues = (Finset.range plan.tensorValues : Set ℕ) :=
    (Finset.coe_range _).symm
  rw [hSource, hTarget] at hMaps ⊢
  rw [hSource] at hInj
  apply Finset.surjOn_of_injOn_of_card_le _ hMaps hInj
  rw [Finset.card_product, Finset.card_range, Finset.card_range, Finset.card_range,
    hFor.tensorValues_eq]

end PlanFor

end Oakfield
