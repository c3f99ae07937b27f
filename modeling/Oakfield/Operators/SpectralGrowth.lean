import Oakfield.Operators.SpectralPasses

/-! Fields whose modes grow. -/
namespace Oakfield

open KernelIR Library Library.SpectralFlow

variable [CDouble ℝ]

/-! ### Elements -/

/-- The elements of a field as values on a plane. -/
noncomputable def fieldElements (isComplex : Bool) (plane : PlaneLayout) (field : SimField ℝ) :
    PlaneValues plane.height plane.width := fun k =>
  toComplex (spectralRead isComplex (heldLanes field) (plane.address k.1 k.2))

/-- What an element holds in which a value has been stored. -/
noncomputable def storedValue (isComplex : Bool) (value : SimComplexDouble ℝ) : ℂ :=
  if isComplex then toComplex value else (value.re : ℂ)

/-- The fields on which the operators work: dense or not, with elements apart, real or complex,
and without imaginary parts where their representation says so. -/
structure SpectralField (field : SimField ℝ) (isComplex : Bool) (plane : PlaneLayout) : Prop where
  described : field.Described
  size : field.elementSize = if isComplex then 16 else 8
  data : (spectralData isComplex field).isSome
  layout : spectralPlane field.shape field.strides = some plane
  shape : SpectralShape field.shape plane
  separate : plane.Separate
  constrained : field.repr.valueKind = .complexImagZeroConstraint →
    conjugate (fieldElements isComplex plane field) = fieldElements isComplex plane field

omit [CDouble ℝ] in
theorem conjugate_eq_iff {height width : ℕ} {v : PlaneValues height width} :
    conjugate v = v ↔ ∀ k, (v k).im = 0 := by
  rw [funext_iff]
  exact forall_congr' fun k => Complex.conj_eq_iff_im

section Storage

variable [ExactDouble ℝ]

theorem toComplex_spectralRead (isComplex : Bool) (values : ComplexArray ℝ) (i : ℕ) :
    toComplex (spectralRead isComplex (spectralLanes isComplex values) i) =
      storedValue isComplex (values i) := by
  cases isComplex with
  | true =>
      show toComplex ⟨if 2 * i % 2 = 0 then _ else _, if (2 * i + 1) % 2 = 0 then _ else _⟩ = _
      rw [if_pos (Nat.mul_mod_right 2 i), if_neg (by omega), Nat.mul_div_cancel_left i (by decide),
        show (2 * i + 1) / 2 = i by omega]
      rfl
  | false =>
      show (⟨(values i).re, CDouble.zero⟩ : ℂ) = ((values i).re : ℂ)
      rw [ExactDouble.zero_eq]
      rfl

end Storage

namespace SpectralField

variable {field : SimField ℝ} {isComplex : Bool} {plane : PlaneLayout}

theorem storageIsComplex_eq (hField : SpectralField field isComplex plane) :
    field.storageIsComplex = isComplex := by
  rw [SimField.storageIsComplex, hField.described.initialized, hField.size]
  cases isComplex <;> rfl

theorem describe (hField : SpectralField field isComplex plane) :
    spectralDescribeField field = .ok (field.representation, isComplex) := by
  rw [spectralDescribeField, hField.storageIsComplex_eq, if_neg (not_not_intro hField.size)]

theorem held (hField : SpectralField field isComplex plane) :
    ∃ data, field.data = some data ∧ spectralData isComplex field = some data ∧
      data.lane = heldLanes field := by
  obtain ⟨data, hData⟩ := Option.isSome_iff_exists.mp hField.data
  have hStored : field.data = some data := by
    cases isComplex with
    | true =>
        have hComplex : field.complexData = some data := hData
        unfold SimField.complexData at hComplex
        split at hComplex
        · cases hComplex
        · exact hComplex
    | false =>
        have hReal : field.realData = some data := hData
        unfold SimField.realData at hReal
        split at hReal
        · cases hReal
        · split at hReal
          · cases hReal
          · exact hReal
  refine ⟨data, hStored, hData, ?_⟩
  rw [heldLanes, hStored]
  rfl

/-- The field after other elements have been stored. -/
def stored (isComplex : Bool) (field : SimField ℝ) (values : ComplexArray ℝ) : SimField ℝ :=
  { field with data := some (.lanes (spectralLanes isComplex values)) }

theorem fieldElements_stored [ExactDouble ℝ] (values : ComplexArray ℝ) :
    fieldElements isComplex plane (stored isComplex field values) = fun k =>
      storedValue isComplex (values (plane.address k.1 k.2)) :=
  funext fun _ => toComplex_spectralRead isComplex values _

theorem store [ExactDouble ℝ] (hField : SpectralField field isComplex plane)
    {values : ComplexArray ℝ} (hConstrained : field.repr.valueKind = .complexImagZeroConstraint →
      ∀ y < plane.height, ∀ x < plane.width,
        (storedValue isComplex (values (plane.address y x))).im = 0) :
    SpectralField (stored isComplex field values) isComplex plane := by
  have hDescribed := hField.described
  obtain ⟨data, hData, hPointer, -⟩ := hField.held
  refine ⟨⟨hDescribed.initialized, rfl, hDescribed.known, hDescribed.storage, hDescribed.domain⟩,
    hField.size, ?_, hField.layout, hField.shape, hField.separate, fun hKind => ?_⟩
  · cases isComplex with
    | true =>
        have hComplex : field.complexData = some data := hPointer
        unfold SimField.complexData at hComplex
        split at hComplex
        · cases hComplex
        · next hStorage =>
            show (if (!field.initialized || !field.storageIsComplex) = true then none
              else some _).isSome
            rw [if_neg hStorage]
            rfl
    | false =>
        have hReal : field.realData = some data := hPointer
        unfold SimField.realData at hReal
        split at hReal
        · cases hReal
        · next hInit =>
            split at hReal
            · cases hReal
            · next hDomain =>
                show (if (!field.initialized) = true then none
                  else if field.domain.kind = .integer ∨ field.domain.kind = .modular ∨
                    field.domain.isComplex ∨ field.elementSize = 0 ∨ field.elementSize % 8 ≠ 0
                  then none else some _).isSome
                rw [if_neg hInit, if_neg hDomain]
                rfl
  · rw [fieldElements_stored]
    exact conjugate_eq_iff.mpr fun k => hConstrained hKind k.1 k.1.isLt k.2 k.2.isLt

end SpectralField

/-! ### Growth -/

/-- A field has become another, whose modes have grown. -/
structure Evolved (isComplex : Bool) (plane : PlaneLayout)
    (exponent : Fin plane.height × Fin plane.width → ℂ) (field field' : SimField ℝ) : Prop where
  ready : SpectralField field' isComplex plane
  shape : field'.shape = field.shape
  domain : field'.representation.domain = field.representation.domain
  projected : field'.representation.hasSpectralRealConstraint =
    field.representation.hasSpectralRealConstraint
  elements : fieldElements isComplex plane field' =
    grow (fieldModes (decide (field.representation.domain = .spectral)) plane.height plane.width)
      exponent (fieldElements isComplex plane field)

namespace Evolved

variable {isComplex : Bool} {plane : PlaneLayout} {field between field' : SimField ℝ}
variable {exponent : Fin plane.height × Fin plane.width → ℂ}

theorem refl (hField : SpectralField field isComplex plane) :
    Evolved isComplex plane 0 field field :=
  ⟨hField, rfl, rfl, rfl, (grow_zero _ _).symm⟩

theorem trans {later : Fin plane.height × Fin plane.width → ℂ}
    (hFirst : Evolved isComplex plane exponent field between)
    (hSecond : Evolved isComplex plane later between field') :
    Evolved isComplex plane (exponent + later) field field' := by
  refine ⟨hSecond.ready, hSecond.shape.trans hFirst.shape, hSecond.domain.trans hFirst.domain,
    hSecond.projected.trans hFirst.projected, ?_⟩
  rw [hSecond.elements, hFirst.domain, hFirst.elements, grow_grow]

theorem store [ExactDouble ℝ] (hField : SpectralField field isComplex plane)
    {values : ComplexArray ℝ}
    (hConstrained : field.repr.valueKind = .complexImagZeroConstraint →
      conjugate (grow (fieldModes (decide (field.representation.domain = .spectral)) plane.height
        plane.width) exponent (fieldElements isComplex plane field)) =
        grow (fieldModes (decide (field.representation.domain = .spectral)) plane.height
          plane.width) exponent (fieldElements isComplex plane field))
    (hValues : ∀ k : Fin plane.height × Fin plane.width,
      storedValue isComplex (values (plane.address k.1 k.2)) =
        grow (fieldModes (decide (field.representation.domain = .spectral)) plane.height
          plane.width) exponent (fieldElements isComplex plane field) k) :
    Evolved isComplex plane exponent field (SpectralField.stored isComplex field values) := by
  refine ⟨hField.store fun hKind y hY x hX => ?_, rfl, rfl, rfl, ?_⟩
  · rw [hValues (⟨y, hY⟩, ⟨x, hX⟩)]
    exact conjugate_eq_iff.mp (hConstrained hKind) _
  · rw [SpectralField.fieldElements_stored]
    exact funext hValues

end Evolved

end Oakfield
