import Oakfield.Field.Init
import Oakfield.KernelIR.Evaluator
import Oakfield.KernelIR.ExactDouble
import Oakfield.Library.BitReversal
import Oakfield.Library.Scatter

/-! Plans of fast Fourier transforms. -/
namespace Oakfield

open KernelIR CDouble Library

variable {D : Type} [CDouble D]

/-! ### Complex arithmetic -/

namespace SimComplexDouble

/-- `CMPLX(0.0, 0.0)` and `CMPLX(1.0, 0.0)`. -/
def zero : SimComplexDouble D := ⟨CDouble.zero, CDouble.zero⟩

def one : SimComplexDouble D := ⟨CDouble.one, CDouble.zero⟩

def plus (a b : SimComplexDouble D) : SimComplexDouble D := ⟨add a.re b.re, add a.im b.im⟩

def minus (a b : SimComplexDouble D) : SimComplexDouble D := ⟨sub a.re b.re, sub a.im b.im⟩

def times (a b : SimComplexDouble D) : SimComplexDouble D :=
  ⟨sub (mul a.re b.re) (mul a.im b.im), add (mul a.re b.im) (mul a.im b.re)⟩

def conj (a : SimComplexDouble D) : SimComplexDouble D := ⟨a.re, neg a.im⟩

/-- A product with a `double`, and a quotient by one. -/
def timesReal (a : SimComplexDouble D) (scale : D) : SimComplexDouble D :=
  ⟨mul a.re scale, mul a.im scale⟩

def overReal (a : SimComplexDouble D) (divisor : D) : SimComplexDouble D :=
  ⟨div a.re divisor, div a.im divisor⟩

/-- `CMPLX(cos(angle), sin(angle))`. -/
def cis (angle : D) : SimComplexDouble D := ⟨cos angle, sin angle⟩

end SimComplexDouble

open SimComplexDouble

/-- An array of complex numbers. -/
abbrev ComplexArray (D : Type) := ℕ → SimComplexDouble D

/-! ### Sizes -/

def fftIsPowerOfTwo (n : ℕ) : Bool := decide (0 < n ∧ n &&& (n - 1) = 0)

/-- The loop of `fft_next_power_of_two`, which does not end behind the largest power. -/
def fftNextPowerOfTwoLoop (n : ℕ) : ℕ → ℕ → Option ℕ
  | 0, _ => none
  | fuel + 1, value =>
      if value < n then fftNextPowerOfTwoLoop n fuel (value * 2 % 2 ^ 64) else some value

def fftNextPowerOfTwo (n : ℕ) : Option ℕ := fftNextPowerOfTwoLoop n 65 1

def fftReverseBits (value bits : ℕ) : ℕ :=
  ((List.range bits).foldl (fun state _ => ((state.1 <<< 1) ||| (state.2 &&& 1), state.2 >>> 1))
    (0, value)).1

/-- The loop which counts the stages of a power of two. -/
def fftLevels (n : ℕ) : ℕ → ℕ → ℕ
  | 0, levels => levels
  | fuel + 1, levels => if 1 < n >>> levels then fftLevels n fuel (levels + 1) else levels

/-! ### Radix two -/

structure FFTPow2Plan (D : Type) where
  n : ℕ
  levels : ℕ
  bitReverse : ℕ → ℕ
  stageTwiddles : ComplexArray D

/-- `fft_pow2_plan_init`. -/
def fftPow2PlanInit (heap : Heap) (n : ℕ) : Except SimError (FFTPow2Plan D) :=
  if n = 0 || !fftIsPowerOfTwo n then .error .invalidArgument
  else
    let levels := fftLevels n 64 0
    if !heap.calloc n 8 || !heap.calloc levels 16 then .error .outOfMemory
    else .ok {
      n := n
      levels := levels
      bitReverse := fun i => fftReverseBits i levels
      stageTwiddles := fun level =>
        cis (div (mul (lit (-2) 0) pi) (doubleOfUint (2 ^ (level + 1)))) }

/-- The first rounds of the innermost loop, on a block: the data and the factor. -/
def fftButterflies (half k : ℕ) (wM : SimComplexDouble D) (data : ComplexArray D) :
    ℕ → ComplexArray D × SimComplexDouble D
  | 0 => (data, one)
  | j + 1 =>
      let before := fftButterflies half k wM data j
      let index := k + j
      let offset := index + half
      let t := times before.2 (before.1 offset)
      let u := before.1 index
      (Function.update (Function.update before.1 index (plus u t)) offset (minus u t),
        times before.2 wM)

/-- The loop over the first blocks of a stage. -/
def fftBlocks (half : ℕ) (wM : SimComplexDouble D) (data : ComplexArray D) : ℕ → ComplexArray D
  | 0 => data
  | b + 1 => (fftButterflies half (b * (2 * half)) wM (fftBlocks half wM data b) half).1

/-- The first stages. -/
def fftStages (plan : FFTPow2Plan D) (inverse : Bool) (data : ComplexArray D) : ℕ → ComplexArray D
  | 0 => data
  | level + 1 =>
      let m := 2 ^ (level + 1)
      let w := plan.stageTwiddles level
      fftBlocks (m / 2) (if inverse then conj w else w) (fftStages plan inverse data level)
        ((plan.n + m - 1) / m)

/-- `fft_pow2_execute`. -/
def fftPow2Execute (plan : FFTPow2Plan D) (data : ComplexArray D) (inverse : Bool) :
    ComplexArray D :=
  let done := fftStages plan inverse (BitReversal.exchangeLoop plan.bitReverse data plan.n)
    plan.levels
  if inverse then fun i =>
    if i < plan.n then timesReal (done i) (div CDouble.one (doubleOfUint plan.n)) else done i
  else done

/-! ### Plans of any length -/

/-- `FFTPlan`, with the plan which is used. The work buffers are written before they are read;
of `scratch_n` it is kept whether there is one. -/
structure FFTPlan (D : Type) where
  n : ℕ
  useBluestein : Bool
  pow2Plan : FFTPow2Plan D
  bluesteinSize : ℕ
  chirp : ComplexArray D
  chirpConj : ComplexArray D
  bFft : ComplexArray D
  scratchN : Bool

/-- The chirp in both directions around the origin, before its transform. -/
def fftChirpKernel (n size : ℕ) (chirp : ComplexArray D) : ComplexArray D := fun p =>
  if 0 < size - p ∧ size - p < n then chirp (size - p) else if p < n then chirp p else zero

/-- `fft_plan_init`; there is no result where it does not return. Sizes and squares are computed
in `size_t`. -/
def fftPlanInit (heap : Heap) (n : ℕ) : Option (Except SimError (FFTPlan D)) :=
  if n = 0 then some (.error .invalidArgument)
  else if fftIsPowerOfTwo n then
    some (match fftPow2PlanInit heap n with
      | .error failure => .error failure
      | .ok plan =>
          if !heap.calloc n 16 then .error .outOfMemory
          else .ok ⟨n, false, plan, 0, fun _ => zero, fun _ => zero, fun _ => zero, true⟩)
  else
    match fftNextPowerOfTwo ((2 * n + 2 ^ 64 - 1) % 2 ^ 64) with
    | none => none
    | some size =>
        some (match fftPow2PlanInit heap size with
          | .error failure => .error failure
          | .ok plan =>
              if !heap.calloc n 16 || !heap.calloc size 16 then .error .outOfMemory
              else
                let chirp : ComplexArray D := fun i =>
                  cis (div (mul pi (doubleOfUint (i * i))) (doubleOfUint n))
                .ok ⟨n, true, plan, size, chirp, fun i => conj (chirp i),
                  fftPow2Execute plan (fftChirpKernel n size chirp) false, true⟩)

/-- `fft_plan_forward`: what it leaves in the output. -/
def fftPlanForward (plan : FFTPlan D) (input output : ComplexArray D) : ComplexArray D :=
  if !plan.useBluestein then
    fftPow2Execute plan.pow2Plan (fun i => if i < plan.n then input i else output i) false
  else
    let buffer : ComplexArray D := fun i =>
      if i < plan.n then times (input i) (plan.chirpConj i) else zero
    let buffer := fftPow2Execute plan.pow2Plan buffer false
    let buffer := fftPow2Execute plan.pow2Plan (fun i => times (buffer i) (plan.bFft i)) true
    fun i => if i < plan.n then times (buffer i) (plan.chirpConj i) else output i

/-- `fft_plan_inverse`. -/
def fftPlanInverse (plan : FFTPlan D) (input output : ComplexArray D) :
    Except SimError (ComplexArray D) :=
  if !plan.scratchN then .error .invalidState
  else
    let output := fftPlanForward plan (fun i => conj (input i)) output
    .ok fun i => if i < plan.n then overReal (conj (output i)) (doubleOfUint plan.n) else output i

/-! ### Planes -/

/-- `FFTPlan2D`; of its scratch buffers it is kept whether there are both. -/
structure FFTPlan2D (D : Type) where
  rows : ℕ
  cols : ℕ
  rowStride : ℕ
  colStride : ℕ
  rowPlan : FFTPlan D
  colPlan : FFTPlan D
  scratch : Bool

/-- `fft_plan2d_init`. -/
def fftPlan2dInit (heap : Heap) (rows cols rowStride colStride : ℕ) :
    Option (Except SimError (FFTPlan2D D)) :=
  if rows = 0 ∨ cols = 0 ∨ rowStride = 0 ∨ colStride = 0 then some (.error .invalidArgument)
  else
    match fftPlanInit heap cols with
    | none => none
    | some (.error failure) => some (.error failure)
    | some (.ok rowPlan) =>
        match fftPlanInit heap rows with
        | none => none
        | some (.error failure) => some (.error failure)
        | some (.ok colPlan) =>
            some (if !heap.calloc (if cols < rows then rows else cols) 16 then .error .outOfMemory
              else .ok ⟨rows, cols, rowStride, colStride, rowPlan, colPlan, true⟩)

/-- The transform of a line in either direction. -/
def fftPlanLine (plan : FFTPlan D) (inverse : Bool) (input output : ComplexArray D) :
    Except SimError (ComplexArray D) :=
  if inverse then fftPlanInverse plan input output else .ok (fftPlanForward plan input output)

/-- The transform of a row, in the output itself when the input is the same array. -/
def fftPlan2dRow (plan : FFTPlan2D D) (inverse inPlace : Bool) (input output : ComplexArray D)
    (row : ℕ) : Except SimError (ComplexArray D) :=
  let source := if inPlace then output else input
  let base := row * plan.rowStride
  if plan.colStride = 1 then
    -- the plan works on the row where it lies
    (fftPlanLine plan.rowPlan inverse (fun i => source (base + i))
      fun i => output (base + i)).map fun line p =>
        if base ≤ p then line (p - base) else output p
  else
    (fftPlanLine plan.rowPlan inverse (fun col => source (base + col * plan.colStride))
      fun _ => zero).map fun line =>
        scatter (fun col => base + col * plan.colStride) line (List.range plan.cols) output

/-- The transform of a column, through the scratch buffers. -/
def fftPlan2dColumn (plan : FFTPlan2D D) (inverse : Bool) (output : ComplexArray D) (col : ℕ) :
    Except SimError (ComplexArray D) :=
  let base := col * plan.colStride
  (fftPlanLine plan.colPlan inverse (fun row => output (row * plan.rowStride + base))
    fun _ => zero).map fun line =>
      scatter (fun row => row * plan.rowStride + base) line (List.range plan.rows) output

/-- The first rows, and the first columns. -/
def fftPlan2dRows (plan : FFTPlan2D D) (inverse inPlace : Bool) (input output : ComplexArray D) :
    ℕ → Except SimError (ComplexArray D)
  | 0 => .ok output
  | row + 1 =>
      (fftPlan2dRows plan inverse inPlace input output row).bind fun output =>
        fftPlan2dRow plan inverse inPlace input output row

def fftPlan2dColumns (plan : FFTPlan2D D) (inverse : Bool) (output : ComplexArray D) :
    ℕ → Except SimError (ComplexArray D)
  | 0 => .ok output
  | col + 1 =>
      (fftPlan2dColumns plan inverse output col).bind fun output =>
        fftPlan2dColumn plan inverse output col

/-- `fft_plan2d_execute`. -/
def fftPlan2dExecute (plan : FFTPlan2D D) (inverse inPlace : Bool)
    (input output : ComplexArray D) : Except SimError (ComplexArray D) :=
  if plan.rows = 0 ∨ plan.cols = 0 then .error .invalidArgument
  else if !plan.scratch then .error .invalidState
  else
    (fftPlan2dRows plan inverse inPlace input output plan.rows).bind fun output =>
      fftPlan2dColumns plan inverse output plan.cols

end Oakfield
