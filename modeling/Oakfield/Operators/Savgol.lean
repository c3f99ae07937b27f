import Oakfield.Field.Representation
import Oakfield.KernelIR.ExactDouble
import Oakfield.Library.GaussJordan
import Oakfield.Operators.BoundaryIndex
import Oakfield.Operators.Stateful

/-! The `sieve` operator with the kernels of Savitzky and Golay. -/
namespace Oakfield

open KernelIR CDouble Library

/-! ### Configuration -/

inductive SimSieveMode where
  | lowPass
  | highPass
  | bandPassDog
  | bandStopDog
  | savgolSmooth
  | savgolDerivative
  | hannLowPass
  | hannHighPass
  | blackmanLowPass
  | blackmanHighPass
  | tukeyLowPass
  | tukeyHighPass
deriving DecidableEq, Repr

/-- `sieve_mode_is_high_pass_like`. -/
def SimSieveMode.isHighPassLike : SimSieveMode → Bool
  | .highPass | .bandStopDog | .hannHighPass | .blackmanHighPass | .tukeyHighPass => true
  | _ => false

/-- `SimSieveOperatorConfig`, without the parameters of the other kernels. -/
structure SimSieveOperatorConfig (D : Type) where
  inputField : ℕ
  outputField : ℕ
  taps : ℕ
  polyOrder : ℕ
  derivativeOrder : ℕ
  sampleSpacing : D
  gain : D
  mode : SimSieveMode
  boundary : SimIRBoundaryPolicy
  accumulate : Bool
  scaleByDt : Bool

/-- `sieve_normalize_taps`, with the taps before an update: an odd number, and at least three. -/
def sieveNormalizeTaps (taps : ℕ) (previous : Option ℕ) : ℕ :=
  let taps := if taps < 3 then 3 else taps
  if taps % 2 = 0 then
    match previous with
    | some before => if 3 ≤ before ∧ taps < before then taps - 1 else taps + 1
    | none => taps + 1
  else taps

variable {D : Type} [CDouble D]

/-- `sieve_normalize_config`. -/
def SimSieveOperatorConfig.normalize (config : SimSieveOperatorConfig D) (previous : Option ℕ) :
    SimSieveOperatorConfig D :=
  let taps := sieveNormalizeTaps config.taps previous
  let polyOrder := if taps ≤ config.polyOrder then taps - 1 else config.polyOrder
  let derivativeOrder :=
    if taps ≤ config.derivativeOrder then taps - 1 else config.derivativeOrder
  let derivativeOrder :=
    if config.mode = .savgolDerivative ∧ derivativeOrder < 1 then 1 else derivativeOrder
  { config with
    taps := taps
    gain := if isfinite config.gain then config.gain else one
    sampleSpacing :=
      if !isfinite config.sampleSpacing || le config.sampleSpacing zero then one
      else if lt config.sampleSpacing (lit 1 (-9)) then lit 1 (-9)
      else config.sampleSpacing
    derivativeOrder := derivativeOrder
    polyOrder :=
      if config.mode = .savgolDerivative ∧ polyOrder < derivativeOrder then derivativeOrder
      else polyOrder }

/-! ### Loops -/

/-- A sum which a loop collects, some of whose rounds have no term. -/
def loopSum (term : ℕ → Option D) : ℕ → D
  | 0 => zero
  | n + 1 =>
      match term n with
      | some value => add (loopSum term n) value
      | none => loopSum term n

/-- An `unsigned int` converted to `int`. -/
def intOfUint (n : ℕ) : ℤ := (BitVec.ofNat 32 n).toInt

/-- `sieve_factorial`. -/
def sieveFactorial : ℕ → D
  | 0 | 1 => one
  | n + 2 => mul (sieveFactorial (n + 1)) (doubleOfUint (n + 2))

/-! ### Inversion -/

/-- The search of a column for a pivot: the entry and its row. -/
def sievePivot (n i : ℕ) (a : ℕ → ℕ → D) : D × ℕ :=
  (List.range' (i + 1) (n - (i + 1))).foldl
    (fun best r => if gt (fabs (a r i)) (fabs best.1) then (a r i, r) else best) (a i i, i)

/-- The row of a turn times the inverse of its pivot. -/
def sieveScaleRow (n i : ℕ) (invPivot : D) (a : ℕ → ℕ → D) (r c : ℕ) : D :=
  if r = i ∧ c < n then mul (a r c) invPivot else a r c

/-- Multiples of the row of a turn off the others. -/
def sieveClearRows (n i : ℕ) (factor : ℕ → D) (a : ℕ → ℕ → D) (r c : ℕ) : D :=
  if r ≠ i ∧ r < n ∧ c < n then sub (a r c) (mul (factor r) (a i c)) else a r c

/-- The matrix which is reduced, and the one which becomes its inverse. -/
abbrev SieveMatrices (D : Type) := (ℕ → ℕ → D) × (ℕ → ℕ → D)

/-- A turn of the loop of `sieve_invert_matrix`. Exchanging a row with itself changes nothing. -/
def sieveInvertTurn (n i : ℕ) (matrices : SieveMatrices D) : Option (SieveMatrices D) :=
  let pivot := sievePivot n i matrices.1
  if lt (fabs pivot.1) (lit 1 (-12)) then none
  else
    let swapped := GaussJordan.swapRows n i pivot.2 matrices.1
    let invPivot := div one (swapped i i)
    let scaled := sieveScaleRow n i invPivot swapped
    let clear := sieveClearRows n i fun r => scaled r i
    some (clear scaled,
      clear (sieveScaleRow n i invPivot (GaussJordan.swapRows n i pivot.2 matrices.2)))

/-- The first turns of that loop. -/
def sieveInvertTurns (n : ℕ) (matrices : SieveMatrices D) : ℕ → Option (SieveMatrices D)
  | 0 => some matrices
  | i + 1 => (sieveInvertTurns n matrices i).bind (sieveInvertTurn n i)

/-- `sieve_invert_matrix`, with the inverse if there is one. -/
def sieveInvertMatrix (n : ℕ) (a : ℕ → ℕ → D) : Option (ℕ → ℕ → D) :=
  (sieveInvertTurns n (a, fun r c => if r = c then one else zero) n).map Prod.snd

/-! ### Kernels -/

/-- The radius of a kernel, by a signed division. -/
def savgolRadius (taps : ℕ) : ℤ := (intOfUint taps).tdiv 2

/-- The normal equations: sums of powers of the offsets within the radius. -/
def savgolNormal (radius : ℤ) (i j : ℕ) : D :=
  loopSum (fun k => some (pow (doubleOfInt (-radius + k)) (doubleOfUint (i + j))))
    (2 * radius + 1).toNat

/-- The kernel that a row of the inverse stands for. -/
def savgolRow (m derivOrder : ℕ) (radius : ℤ) (inv : ℕ → ℕ → D) (k : ℕ) : D :=
  mul (loopSum (fun j =>
    some (mul (inv derivOrder j) (pow (doubleOfInt (intOfUint k - radius)) (doubleOfUint j)))) m)
    (sieveFactorial derivOrder)

/-- What is done to the kernel in the end: it is normalised, or scaled by the spacing. -/
def savgolRescale (taps derivOrder : ℕ) (sampleSpacing : D) (kernel : ℕ → D) :
    (ℕ → D) × Bool :=
  let times factor := fun k => if k < taps then mul (kernel k) factor else kernel k
  if derivOrder = 0 then
    let sum := loopSum (fun k => some (kernel k)) taps
    (if gt (fabs sum) (lit 1 (-12)) then times (div one sum) else kernel, true)
  else
    let spacingScale := pow sampleSpacing (doubleOfUint derivOrder)
    if !isfinite spacingScale || lt (fabs spacingScale) (lit 1 (-18)) then (kernel, false)
    else (times (div one spacingScale), true)

/-- `sieve_build_savgol` on an array with the given content: the content it leaves, and its
result. The matrices have `m * m` elements, a product of `unsigned int`; where it wraps, the
stores leave them, and no result is defined. -/
def sieveBuildSavgol (heap : Heap) (before : ℕ → D) (taps order derivOrder : ℕ)
    (sampleSpacing : D) : Option ((ℕ → D) × Bool) :=
  if order < derivOrder then some (before, false)
  else
    let m := (order + 1) % 2 ^ 32
    if !heap.calloc (m * m % 2 ^ 32) 8 then some (before, false)
    else if 2 ^ 32 ≤ m * m then none
    else
      let radius := savgolRadius taps
      match sieveInvertMatrix m (savgolNormal radius) with
      | none => some (before, false)
      | some inv =>
          some (savgolRescale taps derivOrder sampleSpacing fun k =>
            if k < taps then savgolRow m derivOrder radius inv k else before k)

/-! ### Application -/

/-- `SimSieveOperatorState`. The scratch arrays, as far as they are modelled, are their lengths.
The last field is not in the C record: whether a loop has left its scratch array. -/
structure SimSieveOperatorState (D : Type) where
  config : SimSieveOperatorConfig D
  kernel : ℕ → D
  kernelSize : ℕ
  scratch : ℕ
  scratchComplex : ℕ
  scratchCapacity : ℕ
  overran : Bool

namespace SimSieveOperatorState

/-- `sieve_ensure_scratch`. The capacity is one for both arrays. -/
def ensureScratch (heap : Heap) (count : ℕ) (isComplex : Bool) (state : SimSieveOperatorState D) :
    SimSieveOperatorState D × Except SimError Unit :=
  if count ≤ state.scratchCapacity then (state, .ok ())
  else
    let size := if isComplex then 16 else 8
    let bytes := count * size % 2 ^ 64
    if !heap.grants bytes then (state, .error .outOfMemory)
    else
      ({ state with
        scratch := if isComplex then state.scratch else bytes / size
        scratchComplex := if isComplex then bytes / size else state.scratchComplex
        scratchCapacity := count }, .ok ())

/-- The sum of a round of the first loop: the kernel against the samples around a position. -/
def filtered (state : SimSieveOperatorState D) (count : ℕ) (data : ℕ → D) (i : ℕ) : D :=
  loopSum (fun k =>
    let sample := sieveResolveIndex ((i : ℤ) + k - (state.kernelSize / 2 : ℕ)) count
      state.config.boundary
    if sample.2 then some (mul (state.kernel k) (data sample.1)) else none) state.kernelSize

end SimSieveOperatorState

namespace SimSieveOperatorConfig

/-- The value of a round of the second loop. -/
def value (config : SimSieveOperatorConfig D) (original filtered : D) : D :=
  mul (if config.mode.isHighPassLike then sub original filtered else filtered) config.gain

/-- Its write to the output. -/
def stored (config : SimSieveOperatorConfig D) (dt old value : D) : D :=
  let scale := if config.scaleByDt then fmax dt zero else one
  if config.accumulate then add old (mul scale value) else value

end SimSieveOperatorConfig

/-- `sim_operator_field_domain_is_f64_or_c64`. -/
def simOperatorFieldDomainIsF64OrC64 (field : SimField D) : Bool :=
  decide (field.domain = simScalarDomainF64) || decide (field.domain = simScalarDomainC64)

/-- The checks of `sieve_apply` on its fields: the number of elements. -/
def sieveDescribeFields (input output : SimField D) : Except SimError ℕ :=
  if !simOperatorFieldDomainIsF64OrC64 input || !simOperatorFieldDomainIsF64OrC64 output then
    .error .typeMismatch
  else if input.storageIsComplex ≠ output.storageIsComplex then .error .typeMismatch
  else if input.storageIsComplex then
    let count := SimField.elementCount input.shape
    if count ≠ SimField.elementCount output.shape then .error .invalidArgument else .ok count
  else if input.elementSize ≠ 8 ∨ output.elementSize ≠ 8 then .error .invalidArgument
  else if input.bytes / 8 ≠ output.bytes / 8 then .error .invalidArgument
  else .ok (input.bytes / 8)

/-- The lanes which the real loops leave in the output. -/
def sieveRealLanes (state : SimSieveOperatorState D) (dt : D) (count : ℕ) (src dst : ℕ → D)
    (k : ℕ) : D :=
  let value := state.config.value (src k) (state.filtered count src k)
  if k < count ∧ isfinite value then state.config.stored dt (dst k) value else dst k

/-- The lanes which the complex loops leave, real and imaginary parts in turn. -/
def sieveComplexLanes (state : SimSieveOperatorState D) (dt : D) (count : ℕ) (src dst : ℕ → D)
    (k : ℕ) : D :=
  let part (p : ℕ) : D :=
    state.config.value (src (2 * (k / 2) + p))
      (state.filtered count (fun i => src (2 * i + p)) (k / 2))
  if k < 2 * count ∧ isfinite (part 0) ∧ isfinite (part 1) then
    state.config.stored dt (dst k) (part (k % 2))
  else dst k

/-- `sieve_apply`. The first loop has read the whole input before the second writes, so the two
fields may be one. -/
def sieveApply (heap : Heap) (dt : D) : Callback D (SimSieveOperatorState D) :=
  fun fields _ state =>
    match fields[state.config.inputField]?, fields[state.config.outputField]? with
    | some input, some output =>
        match sieveDescribeFields input output with
        | .error failure => ⟨fun _ => none, state, .error failure⟩
        | .ok count =>
            let isComplex := input.storageIsComplex
            if count = 0 then ⟨fun _ => none, state, .ok ()⟩
            else
              match state.ensureScratch heap count isComplex with
              | (state, .error failure) => ⟨fun _ => none, state, .error failure⟩
              | (state, .ok _) =>
                  let held := if isComplex then state.scratchComplex else state.scratch
                  let source := if isComplex then input.complexData else input.buffer
                  let target := if isComplex then output.complexData else output.buffer
                  let lanes := if isComplex then sieveComplexLanes else sieveRealLanes
                  match source, target with
                  | some src, some dst =>
                      ⟨fun k => if k = state.config.outputField then
                          some ⟨.lanes (lanes state dt count src.lane dst.lane), output.repr,
                            output.complexMode⟩
                        else none,
                        { state with overran := state.overran || decide (held < count) }, .ok ()⟩
                  | _, _ => ⟨fun _ => none, state, .error .invalidArgument⟩
    | _, _ => ⟨fun _ => none, state, .error .invalidArgument⟩

end Oakfield
