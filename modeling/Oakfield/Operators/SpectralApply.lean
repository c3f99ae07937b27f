import Oakfield.Context.Execute
import Oakfield.Operators.SpectralGrowth

/-! What the linear spectral operators leave in the context. -/
namespace Oakfield

open KernelIR Library Library.SpectralFlow

variable [CDouble ℝ]

/-! ### Opposite modes -/

section WaveNumbers

variable [ExactDouble ℝ]

end WaveNumbers

/-! ### Writes -/

section Writes

variable {fields : List (SimField ℝ)} {fieldIndex : ℕ} {field changed : SimField ℝ}

/-- Fields which differ in their representation only. -/
def Redescribed (field changed : SimField ℝ) : Prop :=
  ∃ repr complexMode, changed = { field with repr := repr, complexMode := complexMode }

omit [CDouble ℝ] in
theorem writeFields_none (hField : fields[fieldIndex]? = some field) :
    writeFields (fun _ => none) fields = fields.set fieldIndex field := by
  refine List.ext_getElem? fun k => ?_
  rw [writeFields, List.getElem?_mapIdx, List.getElem?_set]
  by_cases hHere : fieldIndex = k
  · subst hHere
    obtain ⟨hBelow, -⟩ := List.getElem?_eq_some_iff.mp hField
    rw [hField, if_pos rfl, if_pos hBelow]
    rfl
  · rw [if_neg hHere]
    cases fields[k]? <;> rfl

omit [CDouble ℝ] in
theorem writeFields_some (hField : fields[fieldIndex]? = some field)
    {writes : ℕ → Option (FieldWrite ℝ)} {write : FieldWrite ℝ}
    (hHere : writes fieldIndex = some write) (hOthers : ∀ k, k ≠ fieldIndex → writes k = none) :
    writeFields writes fields = fields.set fieldIndex (field.write write) := by
  refine List.ext_getElem? fun k => ?_
  rw [writeFields, List.getElem?_mapIdx, List.getElem?_set]
  by_cases hSame : fieldIndex = k
  · subst hSame
    obtain ⟨hBelow, -⟩ := List.getElem?_eq_some_iff.mp hField
    rw [hField, if_pos rfl, if_pos hBelow, Option.map_some, hHere]
  · rw [if_neg hSame, hOthers k (Ne.symm hSame)]
    cases fields[k]? <;> rfl

theorem writeFields_stored (hField : fields[fieldIndex]? = some field) (hData : field.data.isSome)
    (hChanged : Redescribed field changed) (isComplex : Bool) (values : ComplexArray ℝ) :
    writeFields (spectralWrites fieldIndex isComplex changed values) fields =
      fields.set fieldIndex (SpectralField.stored isComplex changed values) := by
  obtain ⟨repr, complexMode, rfl⟩ := hChanged
  obtain ⟨data, hData⟩ := Option.isSome_iff_exists.mp hData
  have hHere : spectralWrites fieldIndex isComplex
      { field with repr := repr, complexMode := complexMode } values fieldIndex =
        some ⟨.lanes (spectralLanes isComplex values), repr, complexMode⟩ := if_pos rfl
  rw [writeFields_some hField hHere fun k hOther => if_neg hOther, SimField.write, hData]
  rfl

end Writes

/-! ### Passes -/

section Passes

variable [ExactDouble ℝ] [ExactPower ℝ] [ExactAnalysis] {shape : List ℕ} {plane : PlaneLayout}
variable {exponent : Fin plane.height × Fin plane.width → ℂ}

omit [ExactPower ℝ] [ExactAnalysis] in
/-- The tail of an operator, when both of its branches let the modes grow. -/
theorem spectralApply_evolved {μ : Type} {Kept : μ → Prop} {field : SimField ℝ} {isComplex : Bool}
    (hField : SpectralField field isComplex plane) {isSpectral : Bool}
    (hSpectral : decide (field.representation.domain = .spectral) = isSpectral)
    {fieldIndex : ℕ} {kept : ℕ → Option (FieldWrite ℝ)} {state : μ} {storeWork : SpectralWork ℝ → μ}
    {inPlace : ComplexArray ℝ → ComplexArray ℝ}
    {pass : ComplexArray ℝ → SpectralWork ℝ × Except SimError (ComplexArray ℝ)} (hKept : Kept state)
    (hConstrained : field.repr.valueKind = .complexImagZeroConstraint →
      conjugate (grow (fieldModes isSpectral plane.height plane.width) exponent
        (fieldElements isComplex plane field)) =
        grow (fieldModes isSpectral plane.height plane.width) exponent
          (fieldElements isComplex plane field))
    (hInPlace : isSpectral = true → ∀ k : Fin plane.height × Fin plane.width,
      storedValue isComplex
          (inPlace (spectralRead isComplex (heldLanes field)) (plane.address k.1 k.2)) =
        Complex.exp (exponent k) * fieldElements isComplex plane field k)
    (hPass : isSpectral = false → ∃ work done,
      pass (spectralRead isComplex (heldLanes field)) = (work, .ok done) ∧ Kept (storeWork work) ∧
        ∀ k : Fin plane.height × Fin plane.width,
          storedValue isComplex (done (plane.address k.1 k.2)) =
            grow (planeModes plane.height plane.width) exponent
              (fieldElements isComplex plane field) k) :
    ∃ values memory,
      spectralApply fieldIndex isComplex isSpectral field kept state storeWork inPlace pass =
        ⟨spectralWrites fieldIndex isComplex field values, memory, .ok ()⟩ ∧ Kept memory ∧
      Evolved isComplex plane exponent field (SpectralField.stored isComplex field values) := by
  obtain ⟨data, -, hPointer, hLane⟩ := hField.held
  unfold spectralApply
  rw [hPointer]
  dsimp only
  rw [hLane]
  subst hSpectral
  cases hSpectral : decide (field.representation.domain = .spectral) with
  | true =>
      refine ⟨_, state, if_pos rfl, hKept, Evolved.store hField hConstrained fun k => ?_⟩
      rw [hInPlace hSpectral k, hSpectral]
      rfl
  | false =>
      obtain ⟨work, done, hRun, hWork, hValues⟩ := hPass hSpectral
      refine ⟨done, storeWork work, ?_, hWork, Evolved.store hField hConstrained fun k => ?_⟩
      · rw [if_neg Bool.false_ne_true, hRun]
      · rw [hValues k, hSpectral]
        rfl

end Passes

/-! ### Applications -/

/-- The growth which a result stands for. -/
def growthOf {ι : Type} (result : Except SimError Unit) (exponent : ι → ℂ) : ι → ℂ :=
  match result with
  | .ok _ => exponent
  | .error _ => 0

/-- With memory for everything an application succeeds, unless it is to represent what cannot be
represented. -/
def Granted (heap : Heap) (field : SimField ℝ) : Prop :=
  heap.Generous ∧ field.representation.domain ≠ .hybrid

/-- An application lets the modes of its field grow if it succeeds, and leaves them alone if it
fails; nothing else in the context changes. -/
structure Applied {μ : Type} (Kept : μ → Prop) (heap : Heap) (fields : List (SimField ℝ))
    (fieldIndex : ℕ) (isComplex : Bool) (plane : PlaneLayout)
    (exponent : Fin plane.height × Fin plane.width → ℂ) (field : SimField ℝ)
    (outcome : CallbackOutcome ℝ μ) : Prop where
  memory : Kept outcome.memory
  succeeds : Granted heap field → outcome.result = .ok ()
  evolved : ∃ field', writeFields outcome.writes fields = fields.set fieldIndex field' ∧
    Evolved isComplex plane (growthOf outcome.result exponent) field field'

namespace Applied

variable {μ : Type} {Kept : μ → Prop} {heap : Heap} {fields : List (SimField ℝ)} {fieldIndex : ℕ}
variable {isComplex : Bool} {plane : PlaneLayout} {field changed : SimField ℝ} {state : μ}
variable {exponent : Fin plane.height × Fin plane.width → ℂ}

theorem unchanged (hHere : fields[fieldIndex]? = some field)
    (hField : SpectralField field isComplex plane) (hKept : Kept state) (hIdle : exponent = 0) :
    Applied Kept heap fields fieldIndex isComplex plane exponent field
      ⟨fun _ => none, state, .ok ()⟩ := by
  refine ⟨hKept, fun _ => rfl, field, writeFields_none hHere, ?_⟩
  rw [hIdle]
  exact .refl hField

/-- A failure behind the change of the representation. -/
theorem failed (hField : Evolved isComplex plane 0 field changed) {kept : ℕ → Option (FieldWrite ℝ)}
    (hWrites : writeFields kept fields = fields.set fieldIndex changed) (hKept : Kept state)
    (hRefused : ¬Granted heap field) (failure : SimError) :
    Applied Kept heap fields fieldIndex isComplex plane exponent field
      ⟨kept, state, .error failure⟩ :=
  ⟨hKept, fun hGranted => absurd hGranted hRefused, changed, hWrites, hField⟩

/-- The tail of an operator, behind the change of the representation. -/
theorem tail [ExactDouble ℝ] (hHere : fields[fieldIndex]? = some field)
    (hData : field.data.isSome) (hChanged : Redescribed field changed)
    (hFirst : Evolved isComplex plane 0 field changed) {isSpectral : Bool}
    (hSpectral : decide (changed.representation.domain = .spectral) = isSpectral)
    {kept : ℕ → Option (FieldWrite ℝ)} {storeWork : SpectralWork ℝ → μ}
    {inPlace : ComplexArray ℝ → ComplexArray ℝ}
    {pass : ComplexArray ℝ → SpectralWork ℝ × Except SimError (ComplexArray ℝ)} (hKept : Kept state)
    (hConstrained : changed.repr.valueKind = .complexImagZeroConstraint →
      conjugate (grow (fieldModes isSpectral plane.height plane.width) exponent
        (fieldElements isComplex plane changed)) =
        grow (fieldModes isSpectral plane.height plane.width) exponent
          (fieldElements isComplex plane changed))
    (hInPlace : isSpectral = true → ∀ k : Fin plane.height × Fin plane.width,
      storedValue isComplex
          (inPlace (spectralRead isComplex (heldLanes changed)) (plane.address k.1 k.2)) =
        Complex.exp (exponent k) * fieldElements isComplex plane changed k)
    (hPass : isSpectral = false → ∃ work done,
      pass (spectralRead isComplex (heldLanes changed)) = (work, .ok done) ∧ Kept (storeWork work) ∧
        ∀ k : Fin plane.height × Fin plane.width,
          storedValue isComplex (done (plane.address k.1 k.2)) =
            grow (planeModes plane.height plane.width) exponent
              (fieldElements isComplex plane changed) k) :
    Applied Kept heap fields fieldIndex isComplex plane exponent field
      (spectralApply fieldIndex isComplex isSpectral changed kept state storeWork inPlace
        pass) := by
  obtain ⟨values, memory, hRun, hMemory, hSecond⟩ := @spectralApply_evolved _ _ plane
    exponent μ Kept
    changed isComplex hFirst.ready isSpectral hSpectral fieldIndex kept state storeWork inPlace pass
    hKept hConstrained hInPlace hPass
  rw [hRun]
  refine ⟨hMemory, fun _ => rfl, _, writeFields_stored hHere hData hChanged isComplex values, ?_⟩
  have hBoth := hFirst.trans hSecond
  rwa [zero_add] at hBoth

end Applied

/-! ### Real values -/

section RealValues

variable {isComplex imagZero : Bool} {value : SimComplexDouble ℝ}

end RealValues

end Oakfield
