import Oakfield.Field.Representation

/-! Neural tensor mapping (`neural_tensor_map.c`): a field as a tensor of one
batch, its channels and its spatial axes. The tensor aliases the field's buffer
or is a copy, and a copied output is written back when it is unmapped. -/
namespace Oakfield

open KernelIR

/-! ### Configuration -/

inductive SimNeuralTensorValueType where
  | realF64
  | complexF64Interleaved
deriving DecidableEq, Repr

/-- `SimNeuralTensorComplexMode`; `other` is any value outside the enumerators. -/
inductive SimNeuralTensorComplexMode where
  | interleaved
  | splitChannels
  | other
deriving DecidableEq, Repr

structure SimNeuralTensorAffineHook (D : Type) where
  enabled : Bool
  scale : D
  bias : D

/-- `SimNeuralTensorMapConfig`; the channel axis is a byte. -/
structure SimNeuralTensorMapConfig (D : Type) where
  channelAxis : ℕ
  channelsLast : Bool
  batchSize : ℕ
  complexMode : SimNeuralTensorComplexMode
  affine : SimNeuralTensorAffineHook D

/-- `SIM_NEURAL_TENSOR_CHANNEL_AXIS_AUTO`. -/
def simNeuralTensorChannelAxisAuto : ℕ := 255

/-- `SIM_NEURAL_TENSOR_MAX_RANK`. -/
def simNeuralTensorMaxRank : ℕ := 5

section Config

variable {D : Type} [CDouble D]

/-- `sim_neural_tensor_map_config_defaults`. -/
def simNeuralTensorMapConfigDefaults : SimNeuralTensorMapConfig D where
  channelAxis := simNeuralTensorChannelAxisAuto
  channelsLast := true
  batchSize := 1
  complexMode := .interleaved
  affine := ⟨false, CDouble.one, CDouble.zero⟩

/-- `neural_tensor_config_resolve`; a null pointer asks for the defaults. -/
def neuralTensorConfigResolve (src : Option (SimNeuralTensorMapConfig D)) :
    SimNeuralTensorMapConfig D :=
  let config := src.getD simNeuralTensorMapConfigDefaults
  { config with
    batchSize := if config.batchSize = 0 then 1 else config.batchSize
    complexMode :=
      match config.complexMode with
      | .interleaved => .interleaved
      | .splitChannels => .splitChannels
      | .other => .interleaved
    affine :=
      { config.affine with
        scale := if CDouble.isfinite config.affine.scale then config.affine.scale else CDouble.one
        bias := if CDouble.isfinite config.affine.bias then config.affine.bias else CDouble.zero } }

/-- `neural_tensor_affine_apply`. -/
def neuralTensorAffineApply (value : D) (affine : SimNeuralTensorAffineHook D) : D :=
  if !affine.enabled then value
  else CDouble.add (CDouble.mul value affine.scale) affine.bias

end Config

/-! ### Plans -/

/-- The loop of `neural_tensor_product`, which gives 0 for a product outside `size_t`. -/
def neuralTensorProductLoop : List ℕ → ℕ → ℕ
  | [], product => product
  | extent :: shape, product =>
      if extent = 0 then 0
      else if (2 ^ 64 - 1) / product < extent then 0
      else neuralTensorProductLoop shape (product * extent)

/-- `neural_tensor_product`. -/
def neuralTensorProduct (shape : List ℕ) : ℕ := neuralTensorProductLoop shape 1

/-- The loop of `neural_tensor_compute_contiguous_strides`, last axis first: the
strides, and the stride of the axis before them. -/
def neuralTensorStridesLoop : List ℕ → List ℕ × ℕ
  | [] => ([], 1)
  | extent :: shape =>
      let (strides, stride) := neuralTensorStridesLoop shape
      (stride :: strides, stride * extent % 2 ^ 64)

/-- `neural_tensor_compute_contiguous_strides`. -/
def neuralTensorComputeContiguousStrides (shape : List ℕ) : List ℕ :=
  (neuralTensorStridesLoop shape).1

/-- `SimNeuralTensorPlan`. The ranks are the lengths of the shape and of the list
of spatial axes. -/
structure SimNeuralTensorPlan (D : Type) where
  config : SimNeuralTensorMapConfig D
  valueType : SimNeuralTensorValueType
  valueSize : ℕ
  tensorShape : List ℕ
  tensorStrides : List ℕ
  tensorValues : ℕ
  tensorChannelAxis : ℕ
  logicalChannels : ℕ
  tensorChannels : ℕ
  hasFieldChannelAxis : Bool
  fieldChannelAxis : ℕ
  fieldSpatialAxes : List ℕ

section Plan

variable {D : Type}

/-- The field axis of the channels, if there is one. -/
def neuralTensorChannelAxis (rank : ℕ) (config : SimNeuralTensorMapConfig D) :
    Except SimError (Option ℕ) :=
  if config.channelAxis = simNeuralTensorChannelAxisAuto then
    if rank = 1 then .ok none else .ok (some (if config.channelsLast then rank - 1 else 0))
  else if rank ≤ config.channelAxis then .error .invalidArgument
  else .ok (some config.channelAxis)

/-- The axes which are left for the spatial dimensions. -/
def neuralTensorSpatialAxes (rank : ℕ) : Option ℕ → List ℕ
  | none => List.range rank
  | some channelAxis => (List.range rank).filter (· ≠ channelAxis)

/-- Channels, value type and value size of the tensor. -/
def neuralTensorValues (complex : Bool) (mode : SimNeuralTensorComplexMode) (channels : ℕ) :
    Except SimError (ℕ × SimNeuralTensorValueType × ℕ) :=
  if complex then
    if mode = .splitChannels then
      if (2 ^ 64 - 1) / 2 < channels then .error .invalidArgument
      else .ok (channels * 2, .realF64, 8)
    else .ok (channels, .complexF64Interleaved, 16)
  else .ok (channels, .realF64, 8)

/-- The tensor's shape and its channel axis. -/
def neuralTensorShape (channelsLast : Bool) (batchSize : ℕ) (spatial : List ℕ) (channels : ℕ) :
    List ℕ × ℕ :=
  if channelsLast then (batchSize :: (spatial ++ [channels]), 1 + spatial.length)
  else (batchSize :: channels :: spatial, 1)

/-- The number of logical channels. -/
def neuralTensorChannels (shape : List ℕ) : Option ℕ → ℕ
  | none => 1
  | some axis => shape.getD axis 0

/-- The plan of a field shape whose channel axis and tensor values are known. -/
def neuralTensorPlanOf (config : SimNeuralTensorMapConfig D) (shape : List ℕ)
    (channelAxis : Option ℕ)
    (values : ℕ × SimNeuralTensorValueType × ℕ) : SimNeuralTensorPlan D :=
  let spatialAxes := neuralTensorSpatialAxes shape.length channelAxis
  let tensorShape :=
    neuralTensorShape config.channelsLast config.batchSize
      (spatialAxes.map (shape.getD · 0)) values.1
  { config := config
    valueType := values.2.1
    valueSize := values.2.2
    tensorShape := tensorShape.1
    tensorStrides := neuralTensorComputeContiguousStrides tensorShape.1
    tensorValues := neuralTensorProduct tensorShape.1
    tensorChannelAxis := tensorShape.2
    logicalChannels := neuralTensorChannels shape channelAxis
    tensorChannels := values.1
    hasFieldChannelAxis := channelAxis.isSome
    fieldChannelAxis := channelAxis.getD 0
    fieldSpatialAxes := spatialAxes }

/-- `neural_tensor_plan_build`. -/
def neuralTensorPlanBuild [CDouble D] (field : SimField D)
    (requested : Option (SimNeuralTensorMapConfig D)) : Except SimError (SimNeuralTensorPlan D) :=
  let rank := field.shape.length
  let config := neuralTensorConfigResolve requested
  if field.elementSize ≠ 8 ∧ field.elementSize ≠ 16 then .error .typeMismatch
  else if rank = 0 ∨ 3 < rank then .error .notSupported
  else if config.batchSize ≠ 1 then .error .notSupported
  else
    match neuralTensorChannelAxis rank config with
    | .error failure => .error failure
    | .ok channelAxis =>
        let channels := neuralTensorChannels field.shape channelAxis
        if channels = 0 then .error .invalidArgument
        else if 3 < (neuralTensorSpatialAxes rank channelAxis).length then .error .notSupported
        else
          match neuralTensorValues field.storageIsComplex config.complexMode channels with
          | .error failure => .error failure
          | .ok values =>
              let plan := neuralTensorPlanOf config field.shape channelAxis values
              if simNeuralTensorMaxRank < 2 + plan.fieldSpatialAxes.length then .error .notSupported
              else if plan.tensorValues = 0 then .error .invalidArgument
              else .ok plan

/-- `neural_tensor_can_zero_copy`. The storage order has a single value,
`SIM_FIELD_STORAGE_ROW_MAJOR`. -/
def neuralTensorCanZeroCopy (field : SimField D) (plan : SimNeuralTensorPlan D) : Bool :=
  if plan.config.affine.enabled then false
  else if !field.contiguous then false
  else if plan.config.batchSize ≠ 1 then false
  else if field.storageIsComplex ∧ plan.config.complexMode ≠ .interleaved then false
  else if plan.hasFieldChannelAxis then
    if plan.config.channelsLast then plan.fieldChannelAxis = field.shape.length - 1
    else plan.fieldChannelAxis = 0
  else true

end Plan

/-! ### Index functions -/

/-- `neural_tensor_decode_index`, last axis first: the indices, and the rest of
the linear index. -/
def neuralTensorDecodeLoop : List ℕ → ℕ → List ℕ × ℕ
  | [], linear => ([], linear)
  | dim :: shape, linear =>
      let (indices, linear) := neuralTensorDecodeLoop shape linear
      if dim = 0 then (0 :: indices, linear) else (linear % dim :: indices, linear / dim)

/-- `neural_tensor_decode_index`. -/
def neuralTensorDecodeIndex (shape : List ℕ) (linear : ℕ) : List ℕ :=
  (neuralTensorDecodeLoop shape linear).1

/-- `neural_field_data_offset`. -/
def neuralFieldDataOffset (strides logicalIndices : List ℕ) : ℕ :=
  (logicalIndices.zip strides).foldl
    (fun offset (index, stride) => (offset + index * stride) % 2 ^ 64) 0

/-- The loop of `neural_tensor_value_offset` over the strides from an axis on,
with the spatial indices which the cursor has not passed. -/
def neuralTensorValueOffsetLoop (channelAxis channel : ℕ) : List ℕ → ℕ → List ℕ → ℕ → ℕ
  | [], _, _, offset => offset
  | stride :: strides, axis, spatial, offset =>
      if axis = 0 then
        neuralTensorValueOffsetLoop channelAxis channel strides (axis + 1) spatial offset
      else if axis = channelAxis then
        neuralTensorValueOffsetLoop channelAxis channel strides (axis + 1) spatial
          ((offset + channel * stride) % 2 ^ 64)
      else
        match spatial with
        | [] => neuralTensorValueOffsetLoop channelAxis channel strides (axis + 1) [] offset
        | index :: spatial =>
            neuralTensorValueOffsetLoop channelAxis channel strides (axis + 1) spatial
              ((offset + index * stride) % 2 ^ 64)

/-- `neural_tensor_value_offset`. -/
def neuralTensorValueOffset {D : Type} (plan : SimNeuralTensorPlan D) (channel : ℕ)
    (spatialIndices : List ℕ) : ℕ :=
  neuralTensorValueOffsetLoop plan.tensorChannelAxis channel plan.tensorStrides 0 spatialIndices 0

section Place

variable {D : Type}

/-- What each copy loop computes of a linear index: the field offset. -/
def neuralFieldOffset (field : SimField D) (linear : ℕ) : ℕ :=
  neuralFieldDataOffset field.strides (neuralTensorDecodeIndex field.shape linear)

/-- The channel of a linear index. -/
def neuralChannel (field : SimField D) (plan : SimNeuralTensorPlan D) (linear : ℕ) : ℕ :=
  if plan.hasFieldChannelAxis then
    (neuralTensorDecodeIndex field.shape linear).getD plan.fieldChannelAxis 0
  else 0

/-- The spatial indices of a linear index. -/
def neuralSpatialIndices (field : SimField D) (plan : SimNeuralTensorPlan D)
    (linear : ℕ) : List ℕ :=
  plan.fieldSpatialAxes.map fun axis => (neuralTensorDecodeIndex field.shape linear).getD axis 0

/-- The tensor offset of a linear index, whose channel may be one of two parts. -/
def neuralTensorOffset (field : SimField D) (plan : SimNeuralTensorPlan D)
    (channel linear : ℕ) : ℕ :=
  neuralTensorValueOffset plan channel (neuralSpatialIndices field plan linear)

end Place

/-! ### Copy loops -/

/-- `SimNeuralTensorMapMetrics`. -/
structure SimNeuralTensorMapMetrics where
  zeroCopy : Bool
  usedCopyFallback : Bool
  bytesCopiedFromField : ℕ
  bytesCopiedToField : ℕ
  affineElementOps : ℕ
deriving DecidableEq, Repr

section Copy

variable {D : Type} [CDouble D]

/-- `metrics.affine_element_ops += ops`, once an element. -/
def SimNeuralTensorMapMetrics.countAffine (metrics : SimNeuralTensorMapMetrics)
    (affine : SimNeuralTensorAffineHook D) (ops count : ℕ) : SimNeuralTensorMapMetrics :=
  if affine.enabled then
    { metrics with affineElementOps := (metrics.affineElementOps + ops * count) % 2 ^ 64 }
  else metrics

/-- `neural_tensor_copy_from_field`; the tensor data is a buffer of doubles. -/
def neuralTensorCopyFromField (field : SimField D) (plan : SimNeuralTensorPlan D) (data : ℕ → D)
    (metrics : SimNeuralTensorMapMetrics) :
    Except SimError ((ℕ → D) × SimNeuralTensorMapMetrics) :=
  let logicalCount := SimField.elementCount field.shape
  let affine := plan.config.affine
  if logicalCount = 0 then .error .invalidArgument
  else if field.storageIsComplex then
    match field.complexData with
    | none => .error .invalidArgument
    | some src =>
        let data := (List.range logicalCount).foldl (fun data linear =>
          let offset := neuralFieldOffset field linear
          let channel := neuralChannel field plan linear
          let re := neuralTensorAffineApply (src.lane (2 * offset)) affine
          let im := neuralTensorAffineApply (src.lane (2 * offset + 1)) affine
          match plan.valueType with
          | .complexF64Interleaved =>
              let dst := neuralTensorOffset field plan channel linear
              Function.update (Function.update data (2 * dst) re) (2 * dst + 1) im
          | .realF64 =>
              Function.update
                (Function.update data (neuralTensorOffset field plan (channel * 2) linear) re)
                (neuralTensorOffset field plan (channel * 2 + 1) linear) im) data
        .ok (data, { metrics.countAffine affine 2 logicalCount with
          bytesCopiedFromField := logicalCount * field.elementSize % 2 ^ 64 })
  else
    match field.realData with
    | none => .error .invalidArgument
    | some src =>
        let data := (List.range logicalCount).foldl (fun data linear =>
          Function.update data
            (neuralTensorOffset field plan (neuralChannel field plan linear) linear)
            (neuralTensorAffineApply (src.lane (neuralFieldOffset field linear)) affine)) data
        .ok (data, { metrics.countAffine affine 1 logicalCount with
          bytesCopiedFromField := logicalCount * field.elementSize % 2 ^ 64 })

/-- `neural_tensor_copy_to_field`. -/
def neuralTensorCopyToField (field : SimField D) (plan : SimNeuralTensorPlan D) (data : ℕ → D)
    (metrics : SimNeuralTensorMapMetrics) :
    Except SimError (SimField D × SimNeuralTensorMapMetrics) :=
  let logicalCount := SimField.elementCount field.shape
  let affine := plan.config.affine
  if logicalCount = 0 then .error .invalidArgument
  else if field.storageIsComplex then
    match field.complexData with
    | none => .error .invalidArgument
    | some dst =>
        let lanes := (List.range logicalCount).foldl (fun lanes linear =>
          let offset := neuralFieldOffset field linear
          let channel := neuralChannel field plan linear
          let (re, im) :=
            match plan.valueType with
            | .complexF64Interleaved =>
                let src := neuralTensorOffset field plan channel linear
                (data (2 * src), data (2 * src + 1))
            | .realF64 =>
                (data (neuralTensorOffset field plan (channel * 2) linear),
                  data (neuralTensorOffset field plan (channel * 2 + 1) linear))
          Function.update (Function.update lanes (2 * offset) (neuralTensorAffineApply re affine))
            (2 * offset + 1) (neuralTensorAffineApply im affine)) dst.lane
        .ok ({ field with data := some (.lanes lanes) },
          { metrics.countAffine affine 2 logicalCount with
            bytesCopiedToField := logicalCount * field.elementSize % 2 ^ 64 })
  else
    match field.realData with
    | none => .error .invalidArgument
    | some dst =>
        let lanes := (List.range logicalCount).foldl (fun lanes linear =>
          let src := neuralTensorOffset field plan (neuralChannel field plan linear) linear
          let value :=
            match plan.valueType with
            | .complexF64Interleaved => data (2 * src)
            | .realF64 => data src
          Function.update lanes (neuralFieldOffset field linear)
            (neuralTensorAffineApply value affine)) dst.lane
        .ok ({ field with data := some (.lanes lanes) },
          { metrics.countAffine affine 1 logicalCount with
            bytesCopiedToField := logicalCount * field.elementSize % 2 ^ 64 })

end Copy

/-! ### Mappings -/

/-- `SimNeuralTensorView` without its data pointer. -/
structure SimNeuralTensorView where
  valueType : SimNeuralTensorValueType
  valueSize : ℕ
  shape : List ℕ
  strides : List ℕ
  batchAxis : ℕ
  channelAxis : ℕ
  spatialRank : ℕ

/-- `SimNeuralTensorMapping`. The view's data is the scratch buffer, or the
buffer of the field when there is none. -/
structure SimNeuralTensorMapping (D : Type) where
  view : SimNeuralTensorView
  metrics : SimNeuralTensorMapMetrics
  config : SimNeuralTensorMapConfig D
  scratch : Option (ℕ → D)
  scratchBytes : ℕ
  fieldRank : ℕ
  fieldChannelAxis : ℕ
  fieldSpatialAxes : List ℕ
  hasFieldChannelAxis : Bool
  outputMode : Bool
  active : Bool

section Mapping

variable {D : Type} [CDouble D]

/-- `neural_tensor_mapping_set_view`. -/
def neuralTensorMappingSetView (plan : SimNeuralTensorPlan D) : SimNeuralTensorView where
  valueType := plan.valueType
  valueSize := plan.valueSize
  shape := plan.tensorShape
  strides := plan.tensorStrides
  batchAxis := 0
  channelAxis := plan.tensorChannelAxis
  spatialRank := plan.fieldSpatialAxes.length

/-- The mapping before its data is set. -/
def neuralTensorMappingStart (field : SimField D) (plan : SimNeuralTensorPlan D)
    (zeroCopy outputMode : Bool) : SimNeuralTensorMapping D where
  view := neuralTensorMappingSetView plan
  metrics := ⟨zeroCopy, !zeroCopy, 0, 0, 0⟩
  config := plan.config
  scratch := none
  scratchBytes := 0
  fieldRank := field.shape.length
  fieldChannelAxis := plan.fieldChannelAxis
  fieldSpatialAxes := plan.fieldSpatialAxes
  hasFieldChannelAxis := plan.hasFieldChannelAxis
  outputMode := outputMode
  active := true

/-- The zero-copy branch of `neural_tensor_map_common`. -/
def neuralTensorMapZeroCopy (field : SimField D) (plan : SimNeuralTensorPlan D)
    (outputMode : Bool) :
    Except SimError (SimNeuralTensorMapping D) :=
  match field.buffer with
  | none => .error .invalidArgument
  | some _ => .ok (neuralTensorMappingStart field plan true outputMode)

/-- The copying branch of `neural_tensor_map_common`. The scratch buffer starts
as zero bytes. -/
def neuralTensorMapCopy (heap : Heap) (field : SimField D) (plan : SimNeuralTensorPlan D)
    (outputMode : Bool) : Except SimError (SimNeuralTensorMapping D) :=
  let bytes := plan.tensorValues * plan.valueSize % 2 ^ 64
  let mapping := neuralTensorMappingStart field plan false outputMode
  if 0 < plan.valueSize ∧ (2 ^ 64 - 1) / plan.valueSize < plan.tensorValues then
    .error .invalidArgument
  else if bytes = 0 then .error .invalidArgument
  else if !heap.calloc 1 bytes then .error .outOfMemory
  else if outputMode then
    .ok { mapping with scratch := some fun _ => CDouble.ofBits 0, scratchBytes := bytes }
  else
    match neuralTensorCopyFromField field plan (fun _ => CDouble.ofBits 0) mapping.metrics with
    | .error failure => .error failure
    | .ok (data, metrics) =>
        .ok { mapping with scratch := some data, scratchBytes := bytes, metrics := metrics }

/-- `neural_tensor_map_common`. -/
def neuralTensorMapCommon (heap : Heap) (field : SimField D)
    (requested : Option (SimNeuralTensorMapConfig D)) (outputMode : Bool) :
    Except SimError (SimNeuralTensorMapping D) :=
  match neuralTensorPlanBuild field requested with
  | .error failure => .error failure
  | .ok plan =>
      if neuralTensorCanZeroCopy field plan then neuralTensorMapZeroCopy field plan outputMode
      else neuralTensorMapCopy heap field plan outputMode

/-- `sim_neural_tensor_map_input`. -/
def simNeuralTensorMapInput (heap : Heap) (field : SimField D)
    (config : Option (SimNeuralTensorMapConfig D)) : Except SimError (SimNeuralTensorMapping D) :=
  neuralTensorMapCommon heap field config false

/-- `sim_neural_tensor_map_output`. -/
def simNeuralTensorMapOutput (heap : Heap) (field : SimField D)
    (config : Option (SimNeuralTensorMapConfig D)) : Except SimError (SimNeuralTensorMapping D) :=
  neuralTensorMapCommon heap field config true

/-- `sim_neural_tensor_unmap_output` of a mapping of the field. -/
def simNeuralTensorUnmapOutput (field : SimField D) (mapping : SimNeuralTensorMapping D) :
    Except SimError (SimField D × SimNeuralTensorMapping D) :=
  if !mapping.active || !mapping.outputMode then .error .invalidArgument
  else if mapping.metrics.zeroCopy then .ok (field, mapping)
  else
    match neuralTensorPlanBuild field (some mapping.config) with
    | .error failure => .error failure
    | .ok plan =>
        match mapping.scratch with
        | none => .error .invalidArgument
        | some data =>
            match neuralTensorCopyToField field plan data mapping.metrics with
            | .error failure => .error failure
            | .ok (field, metrics) => .ok (field, { mapping with metrics := metrics })

/-! ### The tensor which a caller sees -/

/-- Lane `k` of the tensor. -/
def SimNeuralTensorMapping.lane (field : SimField D) (mapping : SimNeuralTensorMapping D)
    (k : ℕ) : D :=
  match mapping.scratch, field.data with
  | some data, _ => data k
  | none, some data => data.lane k
  | none, none => CDouble.indeterminate

/-- The first lanes of a buffer are replaced. -/
def overwriteLanes (lanes : ℕ) (tensor data : ℕ → D) (k : ℕ) : D :=
  if k < lanes then tensor k else data k

/-- The caller writes the whole tensor. -/
def SimNeuralTensorMapping.writeTensor (lanes : ℕ) (tensor : ℕ → D) (field : SimField D)
    (mapping : SimNeuralTensorMapping D) : SimField D × SimNeuralTensorMapping D :=
  match mapping.scratch with
  | some data => (field, { mapping with scratch := some (overwriteLanes lanes tensor data) })
  | none =>
      let overwrite (data : FieldData D) : FieldData D :=
        .lanes (overwriteLanes lanes tensor data.lane)
      ({ field with data := field.data.map overwrite }, mapping)

end Mapping

end Oakfield
