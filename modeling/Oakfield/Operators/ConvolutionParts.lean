import Oakfield.Operators.LaplacianDiffusion
import Oakfield.Operators.MinimalConvolution

/-! The complex convolution is the real one on the real and on the imaginary parts, in whatever
arithmetic the doubles have. -/
namespace Oakfield

open KernelIR CDouble

variable {D V : Type} [CDouble D]

/-- A component of samples on which the loops act as they act on real ones. -/
structure Samples.Part (S : Samples D V) (part : V → D) : Prop where
  zero_eq : part S.zero = CDouble.zero
  addScaled_eq : ∀ sum factor sample,
    part (S.addScaled sum factor sample) = add (part sum) (mul factor (part sample))

/-- The real or the imaginary part. -/
def complexPart (p : Bool) (z : SimComplexDouble D) : D := if p then z.im else z.re

theorem complexPart_part (p : Bool) : (complexSamples (D := D)).Part (complexPart p) := by
  cases p with
  | false => exact ⟨rfl, fun _ _ _ => rfl⟩
  | true => exact ⟨rfl, fun _ _ _ => rfl⟩

omit [CDouble D] in
theorem complex_ext {z w : SimComplexDouble D} (hParts : ∀ p, complexPart p z = complexPart p w) :
    z = w := by
  cases z
  cases w
  exact congrArg₂ SimComplexDouble.mk (hParts false) (hParts true)

theorem complexPart_lanes (values : ℕ → SimComplexDouble D) (i : ℕ) (p : Bool) :
    complexSamples.lanes values (2 * i + p.toNat) = complexPart p (values i) := by
  cases p with
  | false =>
      show (if (2 * i) % 2 = 0 then (values (2 * i / 2)).re else _) = _
      rw [if_pos (Nat.mul_mod_right 2 i), Nat.mul_div_cancel_left i (by decide)]
      rfl
  | true =>
      show (if (2 * i + 1) % 2 = 0 then _ else (values ((2 * i + 1) / 2)).im) = _
      rw [if_neg (by omega), show (2 * i + 1) / 2 = i by omega]
      rfl

theorem complexPart_read (lane : ℕ → D) (p : Bool) :
    complexPart p ∘ complexSamples.read lane = fun i => lane (2 * i + p.toNat) := by
  cases p with
  | false => rfl
  | true => rfl

section Parts

variable {S : Samples D V} {part : V → D} (hPart : S.Part part)
include hPart

theorem tapSum_part (start : V) (coeff : ℕ → D) (sample : ℕ → Option V) (n : ℕ) :
    part (S.tapSum start coeff sample n) =
      realSamples.tapSum (part start) coeff (fun k => (sample k).map part) n := by
  induction n with
  | zero => rfl
  | succ n ih =>
      rw [Samples.tapSum, Samples.tapSum]
      cases sample n with
      | none => exact ih
      | some value =>
          rw [Option.map_some]
          dsimp only
          rw [hPart.addScaled_eq, ih]
          rfl

theorem stored_part (accumulate : Bool) (scale : D) (old sum : V) :
    part (S.stored accumulate scale old sum) =
      realSamples.stored accumulate scale (part old) (part sum) := by
  cases accumulate with
  | false => rfl
  | true => exact hPart.addScaled_eq old scale sum

theorem copyScale_part (src : ℕ → V) (source : ℕ) (dst : ℕ → V) (target count : ℕ) (scale : D) :
    part ∘ S.copyScale src source dst target count scale =
      realSamples.copyScale (part ∘ src) source (part ∘ dst) target count scale := by
  funext p
  show part (S.copyScale src source dst target count scale p) = _
  rw [Samples.copyScale, Samples.copyScale, apply_ite part, hPart.addScaled_eq]
  rfl

namespace SimMinimalConvolutionOperatorState

variable (state : SimMinimalConvolutionOperatorState D)

theorem periodicRowTap_part (src : ℕ → V) (row count k radius : ℕ) (coeff : D) (dst : ℕ → V) :
    part ∘ periodicRowTap S src row count k radius coeff dst =
      periodicRowTap realSamples (part ∘ src) row count k radius coeff (part ∘ dst) := by
  unfold periodicRowTap
  dsimp only
  split
  · exact copyScale_part hPart ..
  · split
    · rw [copyScale_part hPart, copyScale_part hPart]
    · rw [copyScale_part hPart, copyScale_part hPart]

theorem applyPeriodicRow_part (src dst : ℕ → V) (row count : ℕ) (accumulate : Bool) (scale : D) :
    part ∘ state.applyPeriodicRow S src dst row count accumulate scale =
      state.applyPeriodicRow realSamples (part ∘ src) (part ∘ dst) row count accumulate scale := by
  unfold applyPeriodicRow
  split
  · rfl
  · have hStart : (part ∘ if accumulate = true then dst
        else fun p => if row ≤ p ∧ p < row + count then S.zero else dst p) =
          if accumulate = true then part ∘ dst
          else fun p => if row ≤ p ∧ p < row + count then realSamples.zero else (part ∘ dst) p := by
      cases accumulate with
      | true => rfl
      | false =>
          funext p
          show part (if row ≤ p ∧ p < row + count then S.zero else dst p) = _
          rw [apply_ite part, hPart.zero_eq]
          rfl
    dsimp only
    rw [← hStart]
    refine (List.foldl_hom (part ∘ ·) fun dst k => ?_).symm
    rw [apply_ite (part ∘ ·), ← periodicRowTap_part hPart]

theorem applyElements_part (src dst : ℕ → V) (count : ℕ) (scale : D) :
    part ∘ state.applyElements S src dst count scale =
      state.applyElements realSamples (part ∘ src) (part ∘ dst) count scale := by
  funext p
  show part (state.applyElements S src dst count scale p) = _
  rw [applyElements, applyElements, apply_ite part, stored_part hPart, tapSum_part hPart,
    hPart.zero_eq]
  simp only [Option.map_map]
  rfl

theorem apply_part (src dst : ℕ → V) (count : ℕ) (scale : D) :
    part ∘ state.apply S src dst count scale =
      state.apply realSamples (part ∘ src) (part ∘ dst) count scale := by
  unfold apply
  split
  · rfl
  · split
    · exact applyPeriodicRow_part hPart ..
    · exact applyElements_part hPart ..

omit [CDouble D] hPart in
theorem replace_part {value : ℕ → ℕ → V → V} {realValue : ℕ → ℕ → D → D}
    (hValue : ∀ y x old, part (value y x old) = realValue y x (part old)) (plane : PlaneLayout)
    (dst : ℕ → V) :
    part ∘ plane.replace value dst = plane.replace realValue (part ∘ dst) := by
  refine (List.foldl_hom (part ∘ ·) fun dst y => ?_).symm
  refine List.foldl_hom (part ∘ ·) fun dst x => ?_
  rw [Function.comp_update, hValue]
  rfl

variable (plane : PlaneLayout)

theorem axisSum_part (axis : SimMinimalConvolutionAxis) (src : ℕ → V) (y x : ℕ) :
    part (state.axisSum S plane axis src y x) =
      state.axisSum realSamples plane axis (part ∘ src) y x := by
  unfold axisSum
  rw [tapSum_part hPart, hPart.zero_eq]
  cases axis <;> simp only [Option.map_map] <;> rfl

theorem axisRows_part (src dst : ℕ → V) (accumulate : Bool) (scale : D) :
    part ∘ state.axisRows S plane src dst accumulate scale =
      state.axisRows realSamples plane (part ∘ src) (part ∘ dst) accumulate scale := by
  refine (List.foldl_hom (part ∘ ·) fun dst y => ?_).symm
  exact (applyPeriodicRow_part hPart ..).symm

theorem axisElements_part (axis : SimMinimalConvolutionAxis) (src dst : ℕ → V) (accumulate : Bool)
    (scale : D) :
    part ∘ state.axisElements S plane axis src dst accumulate scale =
      state.axisElements realSamples plane axis (part ∘ src) (part ∘ dst) accumulate scale := by
  refine replace_part (fun y x old => ?_) plane dst
  rw [stored_part hPart, axisSum_part hPart]

theorem applyAxis2d_part (axis : SimMinimalConvolutionAxis) (src dst : ℕ → V) (accumulate : Bool)
    (scale : D) :
    part ∘ state.applyAxis2d S plane axis src dst accumulate scale =
      state.applyAxis2d realSamples plane axis (part ∘ src) (part ∘ dst) accumulate scale := by
  unfold applyAxis2d
  split
  · exact axisRows_part hPart ..
  · exact axisElements_part hPart ..

theorem kernelSum_part (src : ℕ → V) (y x rows : ℕ) :
    part (state.kernelSum S plane src y x rows) =
      state.kernelSum realSamples plane (part ∘ src) y x rows := by
  induction rows with
  | zero => exact hPart.zero_eq
  | succ ky ih =>
      rw [kernelSum, kernelSum]
      cases state.tapPosition plane.height y ky (state.kernelRows / 2) with
      | none => exact ih
      | some sampleY =>
          dsimp only
          rw [tapSum_part hPart, ih]
          simp only [Option.map_map]
          rfl

theorem applyKernel2d_part (src dst : ℕ → V) (accumulate : Bool) (scale : D) :
    part ∘ state.applyKernel2d S plane src dst accumulate scale =
      state.applyKernel2d realSamples plane (part ∘ src) (part ∘ dst) accumulate scale := by
  refine replace_part (fun y x old => ?_) plane dst
  rw [stored_part hPart, kernelSum_part hPart]

end SimMinimalConvolutionOperatorState

end Parts

end Oakfield
