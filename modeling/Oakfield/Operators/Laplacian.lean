import Oakfield.Context.Execute
import Oakfield.Field.Representation
import Oakfield.KernelIR.Evaluator
import Oakfield.Operators.OffsetNeighbors

/-! The `laplacian` operator: finite differences along two axes of a field. -/
namespace Oakfield

open KernelIR CDouble

inductive SimLaplacianStencil where
  | cross2
  | cross4
  | isotropic9
deriving DecidableEq, Repr

structure SimLaplacianOperatorConfig (D : Type) where
  inputField : ℕ
  outputField : ℕ
  spacingX : D
  spacingY : D
  axisX : ℕ
  axisY : ℕ
  stencil : SimLaplacianStencil
  boundary : SimIRBoundaryPolicy
  accumulate : Bool
  scaleByDt : Bool

/-- `SIM_LAPLACIAN_AXIS_AUTO`. -/
def simLaplacianAxisAuto : ℕ := 2 ^ 64 - 1

variable {D : Type}

/-! ### Checks -/

/-- `laplacian_resolve_axes`. -/
def laplacianResolveAxes (field : SimField D) (config : SimLaplacianOperatorConfig D) :
    Option (ℕ × ℕ) :=
  let rank := if field.initialized then field.shape.length else 0
  if rank < 2 then none
  else
    let axisX := if config.axisX = simLaplacianAxisAuto then rank - 1 else config.axisX
    let axisY := if config.axisY = simLaplacianAxisAuto then rank - 2 else config.axisY
    if rank ≤ axisX ∨ rank ≤ axisY ∨ axisX = axisY then none else some (axisX, axisY)

/-- `laplacian_validate_fields`. -/
def laplacianValidateFields (input output : SimField D) : Bool :=
  let count := SimField.elementCount input.shape
  if count = 0 ∨ SimField.elementCount output.shape ≠ count then false
  else if input.elementSize ≠ output.elementSize then false
  else decide (input.elementSize = 8 ∨ input.elementSize = 16)

variable [CDouble D]

/-- What the nine-point stencil asks of the field and the spacing. -/
def laplacianIsotropicAllowed (field : SimField D) (config : SimLaplacianOperatorConfig D) : Bool :=
  let delta := fabs (sub config.spacingX config.spacingY)
  decide (field.shape.length = 2) &&
    !gt delta (mul (lit 1 (-12)) (fmax (fabs config.spacingX) (fabs config.spacingY)))

/-- The factor of every write. -/
def laplacianScale (dt : D) (config : SimLaplacianOperatorConfig D) : D :=
  if config.scaleByDt then fmax dt zero else one

/-! ### Samplers -/

/-- What the real samplers make of a neighbour. -/
def laplacianSampleReal (neighbor : Except SimError SimNdNeighbor) (src : ℕ → D)
    (boundary : SimIRBoundaryPolicy) (center : D) : D :=
  let missing := if boundary = .dirichlet then zero else center
  match neighbor with
  | .error _ => missing
  | .ok neighbor => if !neighbor.valid then missing else src neighbor.index

/-- What the complex samplers make of one. -/
def laplacianSampleComplex (neighbor : Except SimError SimNdNeighbor)
    (src : ℕ → SimComplexDouble D) (boundary : SimIRBoundaryPolicy)
    (center : SimComplexDouble D) : SimComplexDouble D :=
  let missing := if boundary = .dirichlet then ⟨zero, zero⟩ else center
  match neighbor with
  | .error _ => missing
  | .ok neighbor =>
      if !neighbor.valid then missing else ⟨(src neighbor.index).re, (src neighbor.index).im⟩

section Samplers

variable (field : SimField D) (index : ℕ) (boundary : SimIRBoundaryPolicy)

/-- `laplacian_sample_real_axis`. -/
def laplacianSampleRealAxis (src : ℕ → D) (axis : ℕ) (offset : ℤ) (center : D) : D :=
  laplacianSampleReal (simNdAxisOffsetNeighbor field index axis offset boundary) src boundary center

/-- `laplacian_sample_complex_axis`. -/
def laplacianSampleComplexAxis (src : ℕ → SimComplexDouble D) (axis : ℕ) (offset : ℤ)
    (center : SimComplexDouble D) : SimComplexDouble D :=
  laplacianSampleComplex (simNdAxisOffsetNeighbor field index axis offset boundary) src boundary
    center

/-- `laplacian_sample_real_offset`. -/
def laplacianSampleRealOffset (src : ℕ → D) (offsets : List ℤ) (center : D) : D :=
  laplacianSampleReal (simNdOffsetNeighbor field index offsets boundary) src boundary center

/-- `laplacian_sample_complex_offset`. -/
def laplacianSampleComplexOffset (src : ℕ → SimComplexDouble D) (offsets : List ℤ)
    (center : SimComplexDouble D) : SimComplexDouble D :=
  laplacianSampleComplex (simNdOffsetNeighbor field index offsets boundary) src boundary center

end Samplers

/-! ### Stencils -/

/-- The quotient of the fourth-order cross stencil. -/
def laplacianCross4 (dx f0 fp1 fm1 fp2 fm2 : D) : D :=
  div (sub (add (sub (add (neg fp2) (mul (lit 16 0) fp1)) (mul (lit 30 0) f0))
    (mul (lit 16 0) fm1)) fm2) (mul (mul (lit 12 0) dx) dx)

/-- The quotient of the second-order one. -/
def laplacianCross2 (dx f0 fp1 fm1 : D) : D :=
  div (add (sub fp1 (mul two f0)) fm1) (mul dx dx)

/-- The nine-point stencil, from its two sums. -/
def laplacianIsotropic9 (dx center axialSum diagSum : D) : D :=
  let inv := div one (mul dx dx)
  mul (sub (add (mul (lit 4 0) axialSum) diagSum) (mul (lit 20 0) center)) (div inv (lit 6 0))

section Stencils

variable (field : SimField D) (config : SimLaplacianOperatorConfig D)

/-- `laplacian_second_real`. -/
def laplacianSecondReal (src : ℕ → D) (index axis : ℕ) (dx : D) : D :=
  let f0 := src index
  let sample offset := laplacianSampleRealAxis field index config.boundary src axis offset f0
  match config.stencil with
  | .cross4 => laplacianCross4 dx f0 (sample 1) (sample (-1)) (sample 2) (sample (-2))
  | .cross2 | .isotropic9 => laplacianCross2 dx f0 (sample 1) (sample (-1))

/-- `laplacian_second_complex`. -/
def laplacianSecondComplex (src : ℕ → SimComplexDouble D) (index axis : ℕ) (dx : D) :
    SimComplexDouble D :=
  let f0 := src index
  let sample offset := laplacianSampleComplexAxis field index config.boundary src axis offset f0
  match config.stencil with
  | .cross4 =>
      let p1 := sample 1
      let m1 := sample (-1)
      let p2 := sample 2
      let m2 := sample (-2)
      ⟨laplacianCross4 dx f0.re p1.re m1.re p2.re m2.re,
        laplacianCross4 dx f0.im p1.im m1.im p2.im m2.im⟩
  | .cross2 | .isotropic9 =>
      let p1 := sample 1
      let m1 := sample (-1)
      ⟨laplacianCross2 dx f0.re p1.re m1.re, laplacianCross2 dx f0.im p1.im m1.im⟩

/-- The value of a round of the real loops of `laplacian_apply`. -/
def laplacianRealValue (axes : ℕ × ℕ) (src : ℕ → D) (i : ℕ) : D :=
  match config.stencil with
  | .isotropic9 =>
      let center := src i
      let sample offsets := laplacianSampleRealOffset field i config.boundary src offsets center
      let axialSum := add (add (add (add zero (sample [1, 0])) (sample [-1, 0])) (sample [0, 1]))
        (sample [0, -1])
      let diagSum := add (add (add (add zero (sample [1, 1])) (sample [1, -1])) (sample [-1, 1]))
        (sample [-1, -1])
      laplacianIsotropic9 config.spacingX center axialSum diagSum
  | .cross2 | .cross4 =>
      add (laplacianSecondReal field config src i axes.1 config.spacingX)
        (laplacianSecondReal field config src i axes.2 config.spacingY)

/-- The value of a round of the complex loops, whose first summand is sampled in place. -/
def laplacianComplexValue (axes : ℕ × ℕ) (src : ℕ → SimComplexDouble D) (i : ℕ) :
    SimComplexDouble D :=
  match config.stencil with
  | .isotropic9 =>
      let center := src i
      let sample offsets := laplacianSampleComplexOffset field i config.boundary src offsets center
      let plus (a b : SimComplexDouble D) : SimComplexDouble D := ⟨add a.re b.re, add a.im b.im⟩
      let axial := plus (plus (plus (sample [1, 0]) (sample [-1, 0])) (sample [0, 1]))
        (sample [0, -1])
      let diagSum := plus (plus (plus (sample [1, 1]) (sample [1, -1])) (sample [-1, 1]))
        (sample [-1, -1])
      ⟨laplacianIsotropic9 config.spacingX center.re axial.re diagSum.re,
        laplacianIsotropic9 config.spacingX center.im axial.im diagSum.im⟩
  | .cross2 | .cross4 =>
      let d2x := laplacianSecondComplex field config src i axes.1 config.spacingX
      let d2y := laplacianSecondComplex field config src i axes.2 config.spacingY
      ⟨add d2x.re d2y.re, add d2x.im d2y.im⟩

end Stencils

/-! ### Application -/

/-- A write of the output. -/
def laplacianStore (config : SimLaplacianOperatorConfig D) (scale old lap : D) : D :=
  if config.accumulate then add old (mul scale lap) else mul scale lap

/-- `laplacian_apply`, on the configuration of the operator. Its two fields are not the same:
registration and updates see to that. -/
def laplacianApply (dt : D) : Callback D (SimLaplacianOperatorConfig D) := fun fields _ config =>
  let rejected : CallbackOutcome D (SimLaplacianOperatorConfig D) :=
    ⟨fun _ => none, config, .error .invalidArgument⟩
  match fields[config.inputField]?, fields[config.outputField]? with
  | some input, some output =>
      if !laplacianValidateFields input output then rejected
      else
        match laplacianResolveAxes input config with
        | none => rejected
        | some axes =>
            let count := SimField.elementCount input.shape
            let scale := laplacianScale dt config
            if config.stencil = .isotropic9 ∧ laplacianIsotropicAllowed input config = false then
              rejected
            else
              let done (lane : ℕ → D) : CallbackOutcome D (SimLaplacianOperatorConfig D) :=
                ⟨fun k => if k = config.outputField then
                  some ⟨.lanes lane, output.repr, output.complexMode⟩ else none, config, .ok ()⟩
              if input.storageIsComplex then
                match input.complexData, output.complexData with
                | some src, some dst =>
                    let values := laplacianComplexValue input config axes fun i =>
                      ⟨src.lane (2 * i), src.lane (2 * i + 1)⟩
                    done fun k =>
                      if k < 2 * count then
                        laplacianStore config scale (dst.lane k)
                          (if k % 2 = 0 then (values (k / 2)).re else (values (k / 2)).im)
                      else dst.lane k
                | _, _ => rejected
              else
                match input.realData, output.realData with
                | some src, some dst =>
                    let values := laplacianRealValue input config axes src.lane
                    done fun k =>
                      if k < count then laplacianStore config scale (dst.lane k) (values k)
                      else dst.lane k
                | _, _ => rejected
  | _, _ => rejected

end Oakfield
