import Oakfield.Field.Representation
import Oakfield.KernelIR.Evaluator
import Oakfield.Operators.BoundaryIndex
import Oakfield.Operators.Stateful

/-! The `minimal_convolution` operator: small kernels along the axes of a field. -/
namespace Oakfield

open KernelIR CDouble

/-! ### Configuration -/

inductive SimMinimalConvolutionMode where
  | axis
  | separable
  | kernel2d
deriving DecidableEq, Repr

inductive SimMinimalConvolutionAxis where
  | x
  | y
deriving DecidableEq, Repr

/-- The axis of the second pass of the separable mode. -/
def SimMinimalConvolutionAxis.other : SimMinimalConvolutionAxis → SimMinimalConvolutionAxis
  | .y => .x
  | .x => .y

/-- `SIM_MINIMAL_CONVOLUTION_MAX_TAPS`, and the elements of the larger array. -/
def minimalConvolutionMaxTaps : ℕ := 9

def minimalConvolutionMaxTaps2d : ℕ := minimalConvolutionMaxTaps * minimalConvolutionMaxTaps

/-- `SimMinimalConvolutionOperatorConfig`. -/
structure SimMinimalConvolutionOperatorConfig (D : Type) where
  inputField : ℕ
  outputField : ℕ
  kernelLength : ℕ
  kernel : ℕ → D
  mode : SimMinimalConvolutionMode
  axis : SimMinimalConvolutionAxis
  kernelRows : ℕ
  kernelCols : ℕ
  kernel2d : ℕ → D
  stride : ℕ
  wrap : Bool
  boundary : SimIRBoundaryPolicy
  accumulate : Bool
  scaleByDt : Bool

/-- `g_supported_kernel_lengths`. -/
def supportedKernelLengths : List ℕ := [3, 5, 7, 9]

/-- `minimal_convolution_is_supported_length`. -/
def minimalConvolutionIsSupportedLength (value : ℕ) : Bool :=
  decide (value ∈ supportedKernelLengths)

/-- `minimal_convolution_default_length`. -/
def minimalConvolutionDefaultLength : ℕ := 3

variable {D : Type} [CDouble D]

/-- `minimal_convolution_default_kernel`, and `minimal_convolution_default_kernel_2d` with the
product of its sides: equal weights, and zeros behind them. -/
def minimalConvolutionDefaultKernel (length : ℕ) (k : ℕ) : D :=
  if k < length then div one (ofU64 (BitVec.ofNat 64 length)) else zero

/-- The coefficients after normalising: those given, or the default where all of them are zero
or no numbers. -/
def minimalConvolutionCoefficients (kernel : ℕ → D) (length k : ℕ) : D :=
  if (List.range length).any fun i => isfinite (kernel i) && !eq (kernel i) zero then
    if k < length ∧ isfinite (kernel k) then kernel k else zero
  else minimalConvolutionDefaultKernel length k

namespace SimMinimalConvolutionOperatorConfig

/-- `minimal_convolution_validate_kernel`: no coefficients behind the declared ones. -/
def validateKernel (config : SimMinimalConvolutionOperatorConfig D) : Bool :=
  minimalConvolutionIsSupportedLength config.kernelLength &&
    (List.range' config.kernelLength (minimalConvolutionMaxTaps - config.kernelLength)).all fun i =>
      isfinite (config.kernel i) && !gt (fabs (config.kernel i)) zero

/-- `minimal_convolution_validate_kernel_2d`. -/
def validateKernel2d (config : SimMinimalConvolutionOperatorConfig D) : Bool :=
  minimalConvolutionIsSupportedLength config.kernelRows &&
    minimalConvolutionIsSupportedLength config.kernelCols &&
    decide (config.kernelRows * config.kernelCols ≠ 0 ∧
      config.kernelRows * config.kernelCols ≤ minimalConvolutionMaxTaps2d)

/-- `minimal_convolution_normalize_config`, with the configuration if it is accepted. -/
def normalize (config : SimMinimalConvolutionOperatorConfig D) :
    Option (SimMinimalConvolutionOperatorConfig D) :=
  let config :=
    if minimalConvolutionIsSupportedLength config.kernelLength then config
    else { config with kernelLength := minimalConvolutionDefaultLength }
  if !config.validateKernel then none
  else
    let sides (n : ℕ) : ℕ :=
      if minimalConvolutionIsSupportedLength n then n else config.kernelLength
    let config := { config with
      stride := min (if config.stride = 0 then 1 else config.stride) 16
      kernel := minimalConvolutionCoefficients config.kernel config.kernelLength
      kernelRows := sides config.kernelRows
      kernelCols := sides config.kernelCols }
    if !config.validateKernel2d then none
    else
      some { config with
        kernel2d :=
          minimalConvolutionCoefficients config.kernel2d (config.kernelRows * config.kernelCols)
        wrap := decide (config.boundary = .periodic) }

end SimMinimalConvolutionOperatorConfig

/-! ### Samples -/

/-- What the loops over real and over complex samples do with them: an accumulator starts from
`zero`, and every other operation adds a multiple. Arrays of samples are read from lanes, and
written back to them. -/
structure Samples (D V : Type) where
  zero : V
  addScaled : V → D → V → V
  read : (ℕ → D) → ℕ → V
  lanes : (ℕ → V) → ℕ → D

def realSamples : Samples D D where
  zero := CDouble.zero
  addScaled sum factor sample := add sum (mul factor sample)
  read lane := lane
  lanes values := values

def complexSamples : Samples D (SimComplexDouble D) where
  zero := ⟨CDouble.zero, CDouble.zero⟩
  addScaled sum factor sample :=
    ⟨add sum.re (mul factor sample.re), add sum.im (mul factor sample.im)⟩
  read lane i := ⟨lane (2 * i), lane (2 * i + 1)⟩
  lanes values k := if k % 2 = 0 then (values (k / 2)).re else (values (k / 2)).im

variable {V : Type}

namespace Samples

variable (S : Samples D V)

/-- An accumulator over the first taps, some of which have no sample. -/
def tapSum (start : V) (coeff : ℕ → D) (sample : ℕ → Option V) : ℕ → V
  | 0 => start
  | k + 1 =>
      match sample k with
      | some value => S.addScaled (tapSum start coeff sample k) (coeff k) value
      | none => tapSum start coeff sample k

/-- A write of the output. -/
def stored (accumulate : Bool) (scale : D) (old sum : V) : V :=
  if accumulate then S.addScaled old scale sum else sum

/-- `sim_accel_copy_scale_real` and `sim_accel_copy_scale_complex` with their flag set: so many
samples from a place on are added to those from another place on. -/
def copyScale (src : ℕ → V) (source : ℕ) (dst : ℕ → V) (target count : ℕ) (scale : D) (p : ℕ) : V :=
  if target ≤ p ∧ p < target + count then
    S.addScaled (dst p) scale (src (source + (p - target)))
  else dst p

end Samples

/-! ### Operator state -/

/-- `SimMinimalConvolutionOperatorState`, without the cache of the kernel path. -/
structure SimMinimalConvolutionOperatorState (D : Type) where
  config : SimMinimalConvolutionOperatorConfig D
  kernelLength : ℕ
  kernel : ℕ → D
  kernelRows : ℕ
  kernelCols : ℕ
  kernel2d : ℕ → D
  scratch : Option (DoubleBuffer D)
  scratchComplex : Bool

/-- `minimal_convolution_validate_fields`. -/
def minimalConvolutionValidateFields (fields : List (SimField D))
    (config : SimMinimalConvolutionOperatorConfig D) : Bool :=
  match fields[config.inputField]?, fields[config.outputField]? with
  | some input, some output =>
      let rank (field : SimField D) := if field.initialized then field.shape.length else 0
      let count := SimField.elementCount input.shape
      decide (config.inputField ≠ config.outputField ∧ rank input ≠ 0 ∧ rank input ≤ 2 ∧
        rank output = rank input ∧ count = SimField.elementCount output.shape ∧ count ≠ 0 ∧
        (rank input = 2 → input.shape = output.shape) ∧ input.elementSize = output.elementSize ∧
        (input.elementSize = 8 ∨ input.elementSize = 16))
  | _, _ => false

namespace SimMinimalConvolutionOperatorState

/-- What `sim_add_minimal_convolution_operator` and `sim_minimal_convolution_update` make of a
configuration, which they store together with its kernels. -/
def configure (fields : List (SimField D)) (config : SimMinimalConvolutionOperatorConfig D)
    (state : SimMinimalConvolutionOperatorState D) :
    SimMinimalConvolutionOperatorState D × Except SimError Unit :=
  match config.normalize with
  | none => (state, .error .invalidArgument)
  | some config =>
      if !minimalConvolutionValidateFields fields config then (state, .error .invalidArgument)
      else
        ({ state with
          config := config
          kernelLength := config.kernelLength
          kernel := config.kernel
          kernelRows := config.kernelRows
          kernelCols := config.kernelCols
          kernel2d := config.kernel2d }, .ok ())

/-- `minimal_convolution_require_scratch`: a buffer which is kept is not cleared. -/
def requireScratch (heap : Heap) (bytes : ℕ) (isComplex : Bool)
    (state : SimMinimalConvolutionOperatorState D) :
    Option (SimMinimalConvolutionOperatorState D) :=
  if bytes = 0 then some state
  else
    match state.scratch with
    | some buffer =>
        if bytes ≤ buffer.bytes ∧ state.scratchComplex = isComplex then some state else fresh
    | none => fresh
where
  fresh : Option (SimMinimalConvolutionOperatorState D) :=
    if !heap.grants bytes then none
    else some { state with
      scratch := some ⟨bytes, fun _ => indeterminate⟩
      scratchComplex := isComplex }

/-! ### Rows -/

variable (S : Samples D V) (state : SimMinimalConvolutionOperatorState D)

/-- The stride of the loops. -/
def stride : ℕ := if 0 < state.config.stride then state.config.stride else 1

/-- The index which a tap samples; the cast to `ptrdiff_t` wraps. -/
def tapIndex (i k radius : ℕ) : ℤ :=
  (BitVec.ofNat 64 (i * state.stride)).toInt + k - radius

/-- The position of such a sample, if it is on the axis. -/
def tapPosition (extent i k radius : ℕ) : Option ℕ :=
  let sample := minimalConvolutionIndex state.config.boundary (state.tapIndex i k radius) extent
  if sample.2 then some sample.1 else none

/-- A tap of the shifted copies of a row, whose ends are copied apart. -/
def periodicRowTap (src : ℕ → V) (row count k radius : ℕ) (coeff : D) (dst : ℕ → V) : ℕ → V :=
  let shift : ℤ := (k : ℤ) - radius
  let offset := shift.natAbs % count
  if shift = 0 ∨ offset = 0 then S.copyScale src row dst row count coeff
  else
    let mainCount := count - offset
    if 0 < shift then
      S.copyScale src row (S.copyScale src (row + offset) dst row mainCount coeff)
        (row + mainCount) offset coeff
    else
      S.copyScale src (row + mainCount) (S.copyScale src row dst (row + offset) mainCount coeff)
        row offset coeff

/-- `minimal_convolution_apply_real_periodic_row` and its complex sibling, on the row which
begins at a place. -/
def applyPeriodicRow (src dst : ℕ → V) (row count : ℕ) (accumulate : Bool) (accumulateScale : D) :
    ℕ → V :=
  if count = 0 then dst
  else
    let radius := state.kernelLength / 2
    let scale := if accumulate then accumulateScale else one
    (List.range state.kernelLength).foldl
      (fun dst k =>
        let coeff := mul scale (state.kernel k)
        if eq coeff zero then dst else periodicRowTap S src row count k radius coeff dst)
      (if accumulate then dst
        else fun p => if row ≤ p ∧ p < row + count then S.zero else dst p)

/-- The loop of `minimal_convolution_apply_real` and its complex sibling over the elements. -/
def applyElements (src dst : ℕ → V) (count : ℕ) (accumulateScale : D) (p : ℕ) : V :=
  if p < count then
    S.stored state.config.accumulate accumulateScale (dst p)
      (S.tapSum S.zero state.kernel (fun k =>
        (state.tapPosition count p k (state.kernelLength / 2)).map src) state.kernelLength)
  else dst p

/-- `minimal_convolution_apply_real` and `minimal_convolution_apply_complex`. -/
def apply (src dst : ℕ → V) (count : ℕ) (accumulateScale : D) : ℕ → V :=
  if count = 0 then dst
  else if state.config.boundary = .periodic ∧ state.stride = 1 then
    state.applyPeriodicRow S src dst 0 count state.config.accumulate accumulateScale
  else state.applyElements S src dst count accumulateScale

end SimMinimalConvolutionOperatorState

/-! ### Planes -/

/-- `minimal_convolution_layout_2d`: the extents and the strides of a plane. -/
structure PlaneLayout where
  width : ℕ
  height : ℕ
  strideX : ℕ
  strideY : ℕ

/-- `minimal_convolution_layout_2d`. -/
def minimalConvolutionLayout2d (field : SimField D) : Option PlaneLayout :=
  match field.shape, field.strides with
  | [height, width], [strideY, strideX] =>
      if 0 < width ∧ 0 < height then some ⟨width, height, strideX, strideY⟩ else none
  | _, _ => none

namespace PlaneLayout

variable (plane : PlaneLayout)

/-- `minimal_convolution_is_row_major_2d`. -/
def isRowMajor : Bool :=
  decide (0 < plane.width ∧ 0 < plane.height ∧ plane.strideX = 1 ∧ plane.strideY = plane.width)

/-- Where an element lies. -/
def address (y x : ℕ) : ℕ := (y * plane.strideY + x * plane.strideX) % 2 ^ 64

/-- The two loops over the elements of a plane, each of which is replaced. -/
def replace (value : ℕ → ℕ → V → V) (dst : ℕ → V) : ℕ → V :=
  (List.range plane.height).foldl (fun dst y =>
    (List.range plane.width).foldl (fun dst x =>
      Function.update dst (plane.address y x) (value y x (dst (plane.address y x)))) dst) dst

end PlaneLayout

namespace SimMinimalConvolutionOperatorState

variable (S : Samples D V) (state : SimMinimalConvolutionOperatorState D) (plane : PlaneLayout)

/-- The sum of a round of `minimal_convolution_apply_real_axis_2d` or its sibling. -/
def axisSum (axis : SimMinimalConvolutionAxis) (src : ℕ → V) (y x : ℕ) : V :=
  let radius := state.kernelLength / 2
  S.tapSum S.zero state.kernel (fun k =>
    match axis with
    | .y => (state.tapPosition plane.height y k radius).map fun y => src (plane.address y x)
    | .x => (state.tapPosition plane.width x k radius).map fun x => src (plane.address y x))
    state.kernelLength

/-- Their loops over the elements. -/
def axisElements (axis : SimMinimalConvolutionAxis) (src dst : ℕ → V) (accumulate : Bool)
    (accumulateScale : D) : ℕ → V :=
  plane.replace (fun y x old =>
    S.stored accumulate accumulateScale old (state.axisSum S plane axis src y x)) dst

/-- Their loop over the rows of a periodic plane. -/
def axisRows (src dst : ℕ → V) (accumulate : Bool) (accumulateScale : D) : ℕ → V :=
  (List.range plane.height).foldl (fun dst y =>
    state.applyPeriodicRow S src dst (y * plane.strideY) plane.width accumulate accumulateScale) dst

/-- `minimal_convolution_apply_real_axis_2d` and `minimal_convolution_apply_complex_axis_2d`. -/
def applyAxis2d (axis : SimMinimalConvolutionAxis) (src dst : ℕ → V) (accumulate : Bool)
    (accumulateScale : D) : ℕ → V :=
  if axis = .x ∧ state.config.boundary = .periodic ∧ state.stride = 1 ∧ plane.isRowMajor then
    state.axisRows S plane src dst accumulate accumulateScale
  else state.axisElements S plane axis src dst accumulate accumulateScale

/-- The accumulator of the two-dimensional kernel over its first rows. -/
def kernelSum (src : ℕ → V) (y x : ℕ) : ℕ → V
  | 0 => S.zero
  | ky + 1 =>
      match state.tapPosition plane.height y ky (state.kernelRows / 2) with
      | some sampleY =>
          S.tapSum (kernelSum src y x ky) (fun kx => state.kernel2d (ky * state.kernelCols + kx))
            (fun kx => (state.tapPosition plane.width x kx (state.kernelCols / 2)).map fun x =>
              src (plane.address sampleY x)) state.kernelCols
      | none => kernelSum src y x ky

/-- `minimal_convolution_apply_real_kernel_2d` and `minimal_convolution_apply_complex_kernel_2d`. -/
def applyKernel2d (src dst : ℕ → V) (accumulate : Bool) (accumulateScale : D) : ℕ → V :=
  plane.replace (fun y x old =>
    S.stored accumulate accumulateScale old (state.kernelSum S plane src y x state.kernelRows)) dst

end SimMinimalConvolutionOperatorState

/-! ### Application -/

/-- The outcome of a rejected call. -/
def SimMinimalConvolutionOperatorState.failed (state : SimMinimalConvolutionOperatorState D)
    (failure : SimError) : CallbackOutcome D (SimMinimalConvolutionOperatorState D) :=
  ⟨fun _ => none, state, .error failure⟩

/-- The branches of `minimal_convolution_evaluate` behind the choice of the samples. -/
def minimalConvolutionEvaluateSamples (S : Samples D V) (heap : Heap) (accumulateScale : D)
    (input output : SimField D) (src dst : ℕ → D) (isComplex : Bool)
    (state : SimMinimalConvolutionOperatorState D) :
    CallbackOutcome D (SimMinimalConvolutionOperatorState D) :=
  let count := SimField.elementCount input.shape
  let config := state.config
  let done (state : SimMinimalConvolutionOperatorState D) (values : ℕ → V) :
      CallbackOutcome D (SimMinimalConvolutionOperatorState D) :=
    ⟨fun k => if k = config.outputField then
      some ⟨.lanes (S.lanes values), output.repr, output.complexMode⟩ else none, state, .ok ()⟩
  if input.shape.length = 1 then
    done state (state.apply S (S.read src) (S.read dst) count accumulateScale)
  else if input.shape.length = 2 then
    match minimalConvolutionLayout2d input with
    | none => state.failed .invalidArgument
    | some plane =>
        match config.mode with
        | .separable =>
            match state.requireScratch heap (count * input.elementSize % 2 ^ 64) isComplex with
            | none => state.failed .outOfMemory
            | some state =>
                match state.scratch with
                | none => ⟨fun _ => none, state, .ok ()⟩
                | some scratch =>
                    let between := state.applyAxis2d S plane config.axis (S.read src)
                      (S.read scratch.lane) false one
                    done { state with scratch := some { scratch with lane := S.lanes between } }
                      (state.applyAxis2d S plane config.axis.other between (S.read dst)
                        config.accumulate accumulateScale)
        | .kernel2d =>
            done state (state.applyKernel2d S plane (S.read src) (S.read dst) config.accumulate
              accumulateScale)
        | .axis =>
            done state (state.applyAxis2d S plane config.axis (S.read src) (S.read dst)
              config.accumulate accumulateScale)
  else state.failed .invalidArgument

/-- `minimal_convolution_evaluate`. The two fields are not the same: registration and updates
see to that. -/
def minimalConvolutionEvaluate (heap : Heap) (accumulateScale : D) :
    Callback D (SimMinimalConvolutionOperatorState D) := fun fields _ state =>
  match fields[state.config.inputField]?, fields[state.config.outputField]? with
  | some input, some output =>
      let count := SimField.elementCount input.shape
      if count = 0 then ⟨fun _ => none, state, .ok ()⟩
      else if count ≠ SimField.elementCount output.shape then state.failed .invalidArgument
      else if input.elementSize ≠ output.elementSize then state.failed .invalidArgument
      else if input.elementSize = 8 then
        match input.realData, output.realData with
        | some src, some dst =>
            minimalConvolutionEvaluateSamples realSamples heap accumulateScale input output src.lane
              dst.lane false state
        | _, _ => state.failed .invalidArgument
      else if input.elementSize = 16 then
        match input.complexData, output.complexData with
        | some src, some dst =>
            minimalConvolutionEvaluateSamples complexSamples heap accumulateScale input output
              src.lane dst.lane true state
        | _, _ => state.failed .invalidArgument
      else state.failed .invalidArgument
  | _, _ => state.failed .invalidArgument

/-- `minimal_convolution_step`. -/
def minimalConvolutionStep (heap : Heap) (dtSub : D) :
    Callback D (SimMinimalConvolutionOperatorState D) := fun fields runtime state =>
  minimalConvolutionEvaluate heap (if state.config.scaleByDt then fmax dtSub zero else one) fields
    runtime state

end Oakfield
