import Oakfield.Neural.TensorCopy

/-! When a neural tensor is a faithful view of its field: zero-copy and copied
tensors agree, tensor values and field elements correspond, and what is written
to an output is read back. -/
namespace Oakfield

open KernelIR Library

variable {D : Type}

/-- The byte count of the tensor fits in a `size_t`. -/
def SimNeuralTensorPlan.ScratchFits (plan : SimNeuralTensorPlan D) : Prop :=
  plan.tensorValues ≤ (2 ^ 64 - 1) / plan.valueSize

instance (plan : SimNeuralTensorPlan D) : Decidable plan.ScratchFits :=
  inferInstanceAs (Decidable (_ ≤ _))

section Statement

variable [CDouble D]

/-- The tensors of a field description and configuration, over any contents of
the field and any heap. -/
structure FaithfulView (field : SimField D) (config : Option (SimNeuralTensorMapConfig D))
    (plan : SimNeuralTensorPlan D) : Prop where
  sameValues : ∀ heap contents zeroCopy copy, neuralTensorCanZeroCopy field plan = true →
    neuralTensorMapZeroCopy (field.withData contents) plan false = .ok zeroCopy →
    neuralTensorMapCopy heap (field.withData contents) plan false = .ok copy →
    ∀ k < plan.lanes,
      zeroCopy.lane (field.withData contents) k = copy.lane (field.withData contents) k
  bijective : ∃ place : ℕ → ℕ × ℕ,
    (∀ linear < SimField.elementCount field.shape, ∀ part < neuralParts field plan,
      place (neuralSlot field plan (linear, part)) = (neuralFieldOffset field linear, part)) ∧
    Set.BijOn place (Set.Iio plan.tensorValues)
      ((neuralFieldOffset field '' Set.Iio (SimField.elementCount field.shape)) ×ˢ
        Set.Iio (neuralParts field plan))
  roundTrip : ∀ heap contents mapping tensor,
    simNeuralTensorMapOutput heap (field.withData contents) config = .ok mapping →
    ∃ written unmapped input,
      simNeuralTensorUnmapOutput
        (mapping.writeTensor plan.lanes tensor (field.withData contents)).1
        (mapping.writeTensor plan.lanes tensor (field.withData contents)).2 =
          .ok (written, unmapped) ∧
      simNeuralTensorMapInput heap written config = .ok input ∧
      ∀ k < plan.lanes, input.lane written k = tensor k

end Statement

/-- Distinct elements lie at distinct offsets, a tensor which aliases the buffer
has the elements in order, and a tensor which is copied has typed elements. -/
structure ViewSound (field : SimField D) (plan : SimNeuralTensorPlan D) : Prop where
  distinct : Set.InjOn (neuralFieldOffset field) (Set.Iio (SimField.elementCount field.shape))
  aliased : neuralTensorCanZeroCopy field plan = true → field.Typed → plan.ScratchFits →
    ∀ linear < SimField.elementCount field.shape, neuralFieldOffset field linear = linear
  copied : neuralTensorCanZeroCopy field plan = false → plan.ScratchFits → field.Typed

/-! ### Mapped tensors -/

section Mapped

variable [CDouble D] {field : SimField D} {plan : SimNeuralTensorPlan D} {channelAxis : Option ℕ}
variable {heap : Heap} {contents : FieldData D} {requested : Option (SimNeuralTensorMapConfig D)}

omit [CDouble D] in
theorem PlanFor.valueSize_cases (hFor : PlanFor field plan channelAxis) :
    plan.valueSize = 8 ∨ plan.valueSize = 16 := by
  have hSize := hFor.valueSize
  split_ifs at hSize
  · exact .inl hSize
  · exact .inr hSize

/-- What a copying mapping does when it succeeds. -/
theorem neuralTensorMapCopy_ok {outputMode : Bool} {mapping : SimNeuralTensorMapping D}
    (hSize : 0 < plan.valueSize)
    (hMap : neuralTensorMapCopy heap field plan outputMode = .ok mapping) :
    plan.ScratchFits ∧ heap.calloc 1 (plan.tensorValues * plan.valueSize % 2 ^ 64) = true ∧
      mapping.outputMode = outputMode ∧ mapping.active = true ∧ mapping.config = plan.config ∧
      (outputMode = true → mapping.metrics.zeroCopy = false) ∧
      ∃ data, mapping.scratch = some data ∧ (outputMode = false →
        ∃ counted, neuralTensorCopyFromField field plan (fun _ => CDouble.ofBits 0)
          (neuralTensorMappingStart field plan false false).metrics = .ok (data, counted)) := by
  rw [neuralTensorMapCopy] at hMap
  split_ifs at hMap with hOver hBytes hCalloc hOutput
  · cases hMap
    rw [Bool.not_eq_true', Bool.not_eq_false] at hCalloc
    exact ⟨Nat.le_of_not_lt fun hLt => hOver ⟨hSize, hLt⟩, hCalloc, rfl, rfl, rfl,
      fun _ => rfl, _, rfl,
      fun hInput => absurd (hOutput.symm.trans hInput) (by simp)⟩
  · cases hCopy : neuralTensorCopyFromField field plan (fun _ => CDouble.ofBits 0)
        (neuralTensorMappingStart field plan false outputMode).metrics with
    | error failure =>
        rw [hCopy] at hMap
        cases hMap
    | ok copied =>
        rw [hCopy] at hMap
        cases hMap
        rw [Bool.not_eq_true', Bool.not_eq_false] at hCalloc
        exact ⟨Nat.le_of_not_lt fun hLt => hOver ⟨hSize, hLt⟩, hCalloc, rfl, rfl, rfl,
          fun hOut => absurd hOut hOutput, copied.1, rfl, fun _ => ⟨copied.2, hCopy⟩⟩

/-- A copying mapping succeeds when its buffer can be allocated, for an input
when the field is typed too. -/
theorem neuralTensorMapCopy_total {outputMode : Bool} (hFor : PlanFor field plan channelAxis)
    (hAffine : plan.config.affine.enabled = false) (hFits : plan.ScratchFits)
    (hCalloc : heap.calloc 1 (plan.tensorValues * plan.valueSize % 2 ^ 64) = true)
    (hInput : outputMode = false → ∃ src, field.typedData = some src) :
    ∃ mapping, neuralTensorMapCopy heap field plan outputMode = .ok mapping := by
  have hSize : 0 < plan.valueSize := by
    rcases hFor.valueSize_cases with hEq | hEq <;> omega
  have hValues : 0 < plan.tensorValues := hFor.values ▸ MixedRadix.prod_pos hFor.positive
  have hBytes : plan.tensorValues * plan.valueSize % 2 ^ 64 ≠ 0 := by
    have hLe := (Nat.le_div_iff_mul_le hSize).mp hFits
    rw [Nat.mod_eq_of_lt (Nat.lt_of_le_of_lt hLe (by norm_num))]
    exact Nat.mul_ne_zero hValues.ne' hSize.ne'
  rw [neuralTensorMapCopy]
  rw [if_neg fun hOver => absurd hFits (Nat.not_le_of_lt hOver.2), if_neg hBytes, hCalloc,
    if_neg (by simp)]
  cases outputMode with
  | true => exact ⟨_, rfl⟩
  | false =>
      obtain ⟨src, hData⟩ := hInput rfl
      obtain ⟨counted, hCopy⟩ := neuralTensorCopyFromField_eq hFor hAffine hData
        (fun _ => CDouble.ofBits 0) (neuralTensorMappingStart field plan false false).metrics
      rw [if_neg (by simp), hCopy]
      exact ⟨_, rfl⟩

/-- A copied input shows every lane of every element at its place. -/
theorem copied_lane {mapping : SimNeuralTensorMapping D} (hFor : PlanFor field plan channelAxis)
    (hAffine : plan.config.affine.enabled = false)
    (hMap : neuralTensorMapCopy heap (field.withData contents) plan false = .ok mapping) :
    field.Typed ∧ ∀ item ∈ laneItems field,
      mapping.lane (field.withData contents) (tensorLane field plan item) =
        contents.lane (fieldLane field item) := by
  have hSize : 0 < plan.valueSize := by
    rcases hFor.valueSize_cases with hEq | hEq <;> omega
  obtain ⟨_, _, _, _, _, _, data, hScratch, hInput⟩ := neuralTensorMapCopy_ok hSize hMap
  obtain ⟨counted, hCopy⟩ := hInput rfl
  have hTypedData := typedData_withData hFor.elementSize contents
  by_cases hTyped : field.Typed
  · rw [if_pos hTyped] at hTypedData
    obtain ⟨counted', hEq⟩ := neuralTensorCopyFromField_eq (hFor.withData contents) hAffine
      hTypedData (fun _ => CDouble.ofBits 0)
      (neuralTensorMappingStart (field.withData contents) plan false false).metrics
    rw [hEq, Except.ok.injEq, Prod.mk.injEq] at hCopy
    refine ⟨hTyped, fun item hItem => ?_⟩
    have hInj := hFor.bijOn_tensorLane.injOn
    rw [SimNeuralTensorMapping.lane, hScratch]
    show data _ = _
    rw [← hCopy.1]
    exact scatter_target (fun i hI j hJ hSame => congrArg _ (hInj hI hJ hSame)) hItem
  · rw [if_neg hTyped] at hTypedData
    rw [neuralTensorCopyFromField_untyped hTypedData] at hCopy
    cases hCopy

omit [CDouble D] in
theorem calloc_grantAll (bytes : ℕ) :
    (⟨fun _ => true⟩ : Heap).calloc 1 (bytes % 2 ^ 64) = true := by
  rw [Heap.calloc, Bool.and_true, decide_eq_true_eq, Nat.one_mul]
  exact Nat.mod_lt _ (by norm_num)

theorem mapCommon_aliased {outputMode : Bool}
    (hPlan : neuralTensorPlanBuild field requested = .ok plan)
    (hZero : neuralTensorCanZeroCopy field plan = true) (contents : FieldData D) :
    neuralTensorMapCommon heap (field.withData contents) requested outputMode =
      neuralTensorMapZeroCopy (field.withData contents) plan outputMode := by
  have hPlan' : neuralTensorPlanBuild (field.withData contents) requested = .ok plan := hPlan
  have hZero' : neuralTensorCanZeroCopy (field.withData contents) plan = true := hZero
  simp only [neuralTensorMapCommon, hPlan', hZero', if_true]

theorem mapCommon_copied {outputMode : Bool}
    (hPlan : neuralTensorPlanBuild field requested = .ok plan)
    (hZero : neuralTensorCanZeroCopy field plan = false) (contents : FieldData D) :
    neuralTensorMapCommon heap (field.withData contents) requested outputMode =
      neuralTensorMapCopy heap (field.withData contents) plan outputMode := by
  have hPlan' : neuralTensorPlanBuild (field.withData contents) requested = .ok plan := hPlan
  have hZero' : neuralTensorCanZeroCopy (field.withData contents) plan = false := hZero
  simp only [neuralTensorMapCommon, hPlan', hZero', Bool.false_eq_true, if_false]

omit [CDouble D] in
/-- An aliased mapping shows the buffer. -/
theorem aliased_mapping {outputMode : Bool} {mapping : SimNeuralTensorMapping D}
    (hMap : neuralTensorMapZeroCopy (field.withData contents) plan outputMode = .ok mapping) :
    field.initialized = true ∧ mapping = neuralTensorMappingStart field plan true outputMode := by
  rw [neuralTensorMapZeroCopy, SimField.buffer] at hMap
  cases hInit : field.initialized with
  | false =>
      rw [show (field.withData contents).initialized = false from hInit] at hMap
      cases hMap
  | true =>
      rw [show (field.withData contents).initialized = true from hInit] at hMap
      exact ⟨rfl, (Except.ok.inj hMap).symm⟩

omit [CDouble D] in
theorem aliased_mapping_ok (contents : FieldData D) (plan : SimNeuralTensorPlan D)
    (hInit : field.initialized = true) (outputMode : Bool) :
    neuralTensorMapZeroCopy (field.withData contents) plan outputMode =
      .ok (neuralTensorMappingStart field plan true outputMode) := by
  rw [neuralTensorMapZeroCopy, SimField.buffer,
    show (field.withData contents).initialized = true from hInit]
  rfl

end Mapped

/-! ### Soundness of the condition -/

section Sound

variable [CDouble D] {field : SimField D} {plan : SimNeuralTensorPlan D} {channelAxis : Option ℕ}
variable {requested : Option (SimNeuralTensorMapConfig D)}

namespace ViewSound

/-- Aliased and copied tensors agree. -/
theorem sameValues (hSound : ViewSound field plan) (hFor : PlanFor field plan channelAxis)
    (hAffine : plan.config.affine.enabled = false) {heap : Heap} {contents : FieldData D}
    {zeroCopy copy : SimNeuralTensorMapping D} (hZero : neuralTensorCanZeroCopy field plan = true)
    (hAliased : neuralTensorMapZeroCopy (field.withData contents) plan false = .ok zeroCopy)
    (hCopied : neuralTensorMapCopy heap (field.withData contents) plan false = .ok copy)
    {k : ℕ} (hK : k < plan.lanes) :
    zeroCopy.lane (field.withData contents) k = copy.lane (field.withData contents) k := by
  have hSize : 0 < plan.valueSize := by
    rcases hFor.valueSize_cases with hEq | hEq <;> omega
  obtain ⟨hFits, _⟩ := neuralTensorMapCopy_ok hSize hCopied
  obtain ⟨hTyped, hLanes⟩ := copied_lane hFor hAffine hCopied
  obtain ⟨item, hItem, rfl⟩ := hFor.bijOn_tensorLane.surjOn hK
  have hOffset := hSound.aliased hZero hTyped hFits item.1 (mem_laneItems.mp hItem).1
  rw [hLanes item hItem, (aliased_mapping hAliased).2]
  show contents.lane _ = contents.lane _
  rw [hFor.tensorLane_aliased hZero hItem, fieldLane, hOffset]

omit [CDouble D] in
/-- Tensor values and parts of elements correspond. -/
theorem bijective (hSound : ViewSound field plan) (hFor : PlanFor field plan channelAxis) :
    ∃ place : ℕ → ℕ × ℕ,
      (∀ linear < SimField.elementCount field.shape, ∀ part < neuralParts field plan,
        place (neuralSlot field plan (linear, part)) = (neuralFieldOffset field linear, part)) ∧
      Set.BijOn place (Set.Iio plan.tensorValues)
        ((neuralFieldOffset field '' Set.Iio (SimField.elementCount field.shape)) ×ˢ
          Set.Iio (neuralParts field plan)) := by
  have hSlot := hFor.bijOn_slot
  have hInverse := hSlot.invOn_invFunOn
  have hPlace := hSound.distinct.bijOn_image.prodMap
    (Set.bijOn_id (Set.Iio (neuralParts field plan)))
  refine ⟨fun t => Prod.map (neuralFieldOffset field) id (Function.invFunOn (neuralSlot field plan)
    (Set.Iio (SimField.elementCount field.shape) ×ˢ Set.Iio (neuralParts field plan)) t), ?_,
    hPlace.comp (hSlot.symm hInverse.symm)⟩
  intro linear hLinear part hPart
  have hElement : (linear, part) ∈
      Set.Iio (SimField.elementCount field.shape) ×ˢ Set.Iio (neuralParts field plan) :=
    ⟨hLinear, hPart⟩
  exact congrArg (Prod.map (neuralFieldOffset field) id) (hInverse.1 hElement)

omit [CDouble D] in
theorem fieldLane_injOn (hSound : ViewSound field plan) {item other : ℕ × ℕ}
    (hItem : item ∈ laneItems field) (hOther : other ∈ laneItems field)
    (hEq : fieldLane field item = fieldLane field other) : item = other := by
  rw [mem_laneItems] at hItem hOther
  have hDiv : ∀ element : ℕ × ℕ, element.2 < neuralComps field →
      fieldLane field element / neuralComps field = neuralFieldOffset field element.1 := by
    intro element hElement
    rw [fieldLane, Nat.mul_add_div (by omega), Nat.div_eq_of_lt hElement, Nat.add_zero]
  have hOffset := (hDiv item hItem.2).symm.trans
    ((congrArg (· / neuralComps field) hEq).trans (hDiv other hOther.2))
  have hLinear := hSound.distinct hItem.1 hOther.1 hOffset
  rw [fieldLane, fieldLane, hOffset] at hEq
  exact Prod.ext hLinear (by omega)

/-- A tensor written through an alias is there. -/
theorem roundTrip_aliased {heap : Heap} {contents : FieldData D}
    {mapping : SimNeuralTensorMapping D} (hPlan : neuralTensorPlanBuild field requested = .ok plan)
    (hZero : neuralTensorCanZeroCopy field plan = true) (tensor : ℕ → D)
    (hMap : simNeuralTensorMapOutput heap (field.withData contents) requested = .ok mapping) :
    ∃ written unmapped input,
      simNeuralTensorUnmapOutput
        (mapping.writeTensor plan.lanes tensor (field.withData contents)).1
        (mapping.writeTensor plan.lanes tensor (field.withData contents)).2 =
          .ok (written, unmapped) ∧
      simNeuralTensorMapInput heap written requested = .ok input ∧
      ∀ k < plan.lanes, input.lane written k = tensor k := by
  rw [simNeuralTensorMapOutput, mapCommon_aliased hPlan hZero] at hMap
  obtain ⟨hInit, rfl⟩ := aliased_mapping hMap
  let written := field.withData (.lanes (overwriteLanes plan.lanes tensor contents.lane))
  refine ⟨written, _, neuralTensorMappingStart field plan true false, rfl, ?_, ?_⟩
  · rw [simNeuralTensorMapInput, mapCommon_aliased hPlan hZero]
    exact aliased_mapping_ok _ plan hInit false
  · intro k hK
    show overwriteLanes plan.lanes tensor contents.lane k = tensor k
    rw [overwriteLanes, if_pos hK]

/-- A copied tensor is written back and copied again. -/
theorem roundTrip_copied (hSound : ViewSound field plan) (hFor : PlanFor field plan channelAxis)
    (hAffine : plan.config.affine.enabled = false) {heap : Heap} {contents : FieldData D}
    {mapping : SimNeuralTensorMapping D} (hPlan : neuralTensorPlanBuild field requested = .ok plan)
    (hZero : neuralTensorCanZeroCopy field plan = false) (tensor : ℕ → D)
    (hMap : simNeuralTensorMapOutput heap (field.withData contents) requested = .ok mapping) :
    ∃ written unmapped input,
      simNeuralTensorUnmapOutput
        (mapping.writeTensor plan.lanes tensor (field.withData contents)).1
        (mapping.writeTensor plan.lanes tensor (field.withData contents)).2 =
          .ok (written, unmapped) ∧
      simNeuralTensorMapInput heap written requested = .ok input ∧
      ∀ k < plan.lanes, input.lane written k = tensor k := by
  have hSize : 0 < plan.valueSize := by
    rcases hFor.valueSize_cases with hEq | hEq <;> omega
  rw [simNeuralTensorMapOutput, mapCommon_copied hPlan hZero] at hMap
  obtain ⟨hFits, hCalloc, hOutput, hActive, hConfig, hMetrics, data, hScratch, _⟩ :=
    neuralTensorMapCopy_ok hSize hMap
  have hTyped := hSound.copied hZero hFits
  have hTypedData : ∀ contents, (field.withData contents).typedData = some contents :=
    fun contents => (typedData_withData hFor.elementSize contents).trans (if_pos hTyped)
  have hWrite : mapping.writeTensor plan.lanes tensor (field.withData contents) =
      (field.withData contents,
        { mapping with scratch := some (overwriteLanes plan.lanes tensor data) }) := by
    rw [SimNeuralTensorMapping.writeTensor, hScratch]
  -- the mapping remembers the resolved configuration, which gives the same plan
  have hAgain : neuralTensorPlanBuild (field.withData contents) (some mapping.config) =
    .ok plan := by
    rw [hConfig]
    exact neuralTensorPlanBuild_resolved hPlan
  obtain ⟨counted, hCopy⟩ := neuralTensorCopyToField_eq (hFor.withData contents) hAffine
    (hTypedData contents) (overwriteLanes plan.lanes tensor data) mapping.metrics
  let lanes := scatter (fieldLane field)
    (overwriteLanes plan.lanes tensor data ∘ tensorLane field plan) (laneItems field) contents.lane
  obtain ⟨input, hInput⟩ :
      ∃ input, neuralTensorMapCopy heap (field.withData (.lanes lanes)) plan false = .ok input :=
    neuralTensorMapCopy_total (hFor.withData (.lanes lanes)) hAffine hFits hCalloc
      (fun _ => ⟨_, hTypedData _⟩)
  refine ⟨field.withData (.lanes lanes),
    { mapping with scratch := some (overwriteLanes plan.lanes tensor data), metrics := counted },
    input, ?_, ?_, ?_⟩
  · rw [hWrite, simNeuralTensorUnmapOutput]
    simp only [hActive, hOutput, hMetrics rfl, hAgain, hCopy, Bool.not_true, Bool.or_self,
      Bool.false_eq_true, if_false]
    rfl
  · rw [simNeuralTensorMapInput, mapCommon_copied hPlan hZero]
    exact hInput
  · intro k hK
    obtain ⟨item, hItem, rfl⟩ := hFor.bijOn_tensorLane.surjOn hK
    rw [(copied_lane hFor hAffine hInput).2 item hItem]
    have hStored : lanes (fieldLane field item) =
        overwriteLanes plan.lanes tensor data (tensorLane field plan item) :=
      scatter_target (fun i hI j hJ hSame => congrArg _ (hSound.fieldLane_injOn hI hJ hSame)) hItem
    exact hStored.trans (if_pos hK)

end ViewSound

theorem ViewSound.faithfulView (hSound : ViewSound field plan)
    (hFor : PlanFor field plan channelAxis)
    (hPlan : neuralTensorPlanBuild field requested = .ok plan)
    (hAffine : plan.config.affine.enabled = false) : FaithfulView field requested plan where
  sameValues := fun _ _ _ _ hZero hAliased hCopied _ hK =>
    hSound.sameValues hFor hAffine hZero hAliased hCopied hK
  bijective := hSound.bijective hFor
  roundTrip := by
    intro heap contents mapping tensor hMap
    cases hZero : neuralTensorCanZeroCopy field plan with
    | true => exact roundTrip_aliased hPlan hZero tensor hMap
    | false => exact hSound.roundTrip_copied hFor hAffine hPlan hZero tensor hMap

/-! ### Necessity of the condition -/

namespace FaithfulView

theorem distinct (hFaithful : FaithfulView field requested plan)
    (hFor : PlanFor field plan channelAxis) :
    Set.InjOn (neuralFieldOffset field) (Set.Iio (SimField.elementCount field.shape)) := by
  intro linear hLinear other hOther hEq
  obtain ⟨place, hPlace, hBijective⟩ := hFaithful.bijective
  have hParts := PlanFor.parts_pos field plan
  have hSlot := hFor.bijOn_slot
  have hElement : ∀ linear ∈ Set.Iio (SimField.elementCount field.shape), (linear, 0) ∈
      Set.Iio (SimField.elementCount field.shape) ×ˢ Set.Iio (neuralParts field plan) :=
    fun linear hLinear => ⟨hLinear, hParts⟩
  have hSame : place (neuralSlot field plan (linear, 0)) =
    place (neuralSlot field plan (other, 0)) := by
    rw [hPlace linear hLinear 0 hParts, hPlace other hOther 0 hParts, hEq]
  have hSlots := hBijective.injOn (hSlot.mapsTo (hElement linear hLinear))
    (hSlot.mapsTo (hElement other hOther)) hSame
  exact (Prod.mk.inj (hSlot.injOn (hElement linear hLinear) (hElement other hOther) hSlots)).1

/-- Contents which differ at one lane tell an element out of order. -/
theorem aliased [Nontrivial D] (hFaithful : FaithfulView field requested plan)
    (hFor : PlanFor field plan channelAxis) (hAffine : plan.config.affine.enabled = false)
    (hZero : neuralTensorCanZeroCopy field plan = true) (hTyped : field.Typed)
    (hFits : plan.ScratchFits) {linear : ℕ} (hLinear : linear < SimField.elementCount field.shape) :
    neuralFieldOffset field linear = linear := by
  by_contra hMoved
  obtain ⟨marked, blank, hDiffer⟩ := exists_pair_ne D
  have hComps : 0 < neuralComps field := by
    rw [neuralComps]
    split_ifs <;> omega
  have hItem : (linear, 0) ∈ laneItems field := mem_laneItems.mpr ⟨hLinear, hComps⟩
  let contents : FieldData D :=
    .lanes fun k => if k = neuralComps field * linear then marked else blank
  obtain ⟨copy, hCopied⟩ : ∃ copy,
      neuralTensorMapCopy ⟨fun _ => true⟩ (field.withData contents) plan false = .ok copy :=
    neuralTensorMapCopy_total (hFor.withData contents) hAffine hFits (calloc_grantAll _)
      fun _ => ⟨_, (typedData_withData hFor.elementSize contents).trans (if_pos hTyped)⟩
  have hAliased := aliased_mapping_ok contents plan hTyped.1 false
  have hSame := hFaithful.sameValues _ contents _ _ hZero hAliased hCopied
    (tensorLane field plan (linear, 0)) (hFor.bijOn_tensorLane.mapsTo hItem)
  rw [(copied_lane hFor hAffine hCopied).2 _ hItem] at hSame
  have hShown : contents.lane (tensorLane field plan (linear, 0)) =
      contents.lane (fieldLane field (linear, 0)) := hSame
  rw [hFor.tensorLane_aliased hZero hItem, fieldLane, Nat.add_zero, Nat.add_zero] at hShown
  have hElsewhere : ¬neuralComps field * neuralFieldOffset field linear =
    neuralComps field * linear :=
    fun hEq => hMoved (Nat.eq_of_mul_eq_mul_left hComps hEq)
  exact hDiffer ((if_pos rfl).symm.trans (hShown.trans (if_neg hElsewhere)))

/-- Untyped elements cannot be written back. -/
theorem copied (hFaithful : FaithfulView field requested plan)
    (hFor : PlanFor field plan channelAxis)
    (hPlan : neuralTensorPlanBuild field requested = .ok plan)
    (hAffine : plan.config.affine.enabled = false)
    (hZero : neuralTensorCanZeroCopy field plan = false)
    (hFits : plan.ScratchFits) : field.Typed := by
  by_contra hUntyped
  have hSize : 0 < plan.valueSize := by
    rcases hFor.valueSize_cases with hEq | hEq <;> omega
  let contents : FieldData D := .lanes fun _ => CDouble.zero
  have hTypedData : (field.withData contents).typedData = none :=
    (typedData_withData hFor.elementSize contents).trans (if_neg hUntyped)
  obtain ⟨mapping, hMap⟩ : ∃ mapping,
      neuralTensorMapCopy ⟨fun _ => true⟩ (field.withData contents) plan true = .ok mapping :=
    neuralTensorMapCopy_total (hFor.withData contents) hAffine hFits (calloc_grantAll _)
      fun hInput => nomatch hInput
  obtain ⟨_, _, hOutput, hActive, hConfig, hMetrics, data, hScratch, _⟩ :=
    neuralTensorMapCopy_ok hSize hMap
  have hAgain : neuralTensorPlanBuild (field.withData contents) (some mapping.config) =
    .ok plan := by
    rw [hConfig]
    exact neuralTensorPlanBuild_resolved hPlan
  obtain ⟨written, unmapped, input, hUnmap, _⟩ := hFaithful.roundTrip _ contents mapping
    (fun _ => CDouble.zero) (by rw [simNeuralTensorMapOutput, mapCommon_copied hPlan hZero, hMap])
  rw [SimNeuralTensorMapping.writeTensor, hScratch, simNeuralTensorUnmapOutput] at hUnmap
  simp only [hActive, hOutput, hMetrics rfl, hAgain, neuralTensorCopyToField_untyped hTypedData,
    Bool.not_true, Bool.or_self, Bool.false_eq_true, if_false] at hUnmap
  cases hUnmap

end FaithfulView

/-- The tensors of a field are faithful views of it exactly when its elements
lie at distinct offsets, in linear order where the buffer itself is the tensor
and the copying path could be taken instead, and are doubles where it is copied. -/
theorem neuralTensor_faithfulView_iff [Nontrivial D]
    (hPlan : neuralTensorPlanBuild field requested = .ok plan)
    (hAffine : plan.config.affine.enabled = false) :
    FaithfulView field requested plan ↔ ViewSound field plan := by
  obtain ⟨channelAxis, hFor⟩ := neuralTensorPlanBuild_planFor hPlan
  constructor
  · intro hFaithful
    exact ⟨hFaithful.distinct hFor,
      fun hZero hTyped hFits _ hLinear => hFaithful.aliased hFor hAffine hZero hTyped hFits hLinear,
      fun hZero hFits => hFaithful.copied hFor hPlan hAffine hZero hFits⟩
  · intro hSound
    exact hSound.faithfulView hFor hPlan hAffine

end Sound

/-! ### Two fields -/

/-- A complex field of two rows of two elements, each row padded by one. -/
def paddedRows : SimField ℤ where
  initialized := true
  shape := [2, 2]
  strides := [3, 1]
  contiguous := false
  elementSize := 16
  data := some (.lanes fun k => k)
  complexMode := false
  repr := ⟨.physical, .complexScalar⟩
  scalarDomain := simScalarDomainC64

/-- Real and imaginary parts as channels before the spatial axes. -/
def splitChannelsFirst : SimNeuralTensorMapConfig ℤ :=
  { simNeuralTensorMapConfigDefaults with channelsLast := false, complexMode := .splitChannels }

theorem neuralTensor_faithfulView_iff_paddedRows :
    ∃ plan, neuralTensorPlanBuild paddedRows (some splitChannelsFirst) = .ok plan ∧
      FaithfulView paddedRows (some splitChannelsFirst) plan := by
  refine ⟨_, rfl, (neuralTensor_faithfulView_iff rfl rfl).mpr ⟨?_, nofun, fun _ _ => by decide⟩⟩
  intro linear hLinear other hOther hEq
  have hDistinct : ∀ linear < 4, ∀ other < 4,
      neuralFieldOffset paddedRows linear = neuralFieldOffset paddedRows other →
        linear = other := by
    decide
  exact hDistinct linear hLinear other hOther hEq

/-- Two rows of two 64-bit integers. -/
def integerRows : SimField ℤ where
  initialized := true
  shape := [2, 2]
  strides := [2, 1]
  elementSize := 8
  data := some (.words fun _ => 0)
  complexMode := false
  repr := ⟨.physical, .realScalar⟩
  scalarDomain := simScalarDomainI64

/-- The rows are the channels, which the tensor has last. -/
def rowsAsChannels : SimNeuralTensorMapConfig ℤ :=
  { simNeuralTensorMapConfigDefaults with channelAxis := 0 }

/-- The output of integer rows is mapped as doubles, and is not written back. -/
theorem integerRows_notFaithful :
    ∃ plan, neuralTensorPlanBuild integerRows (some rowsAsChannels) = .ok plan ∧
      ∃ mapping, simNeuralTensorMapOutput ⟨fun _ => true⟩ integerRows (some rowsAsChannels) =
          .ok mapping ∧
        simNeuralTensorUnmapOutput integerRows mapping = .error .invalidArgument ∧
        ¬FaithfulView integerRows (some rowsAsChannels) plan := by
  refine ⟨_, rfl, _, rfl, rfl, ?_⟩
  intro hFaithful
  obtain ⟨channelAxis, hFor⟩ := neuralTensorPlanBuild_planFor
    (show neuralTensorPlanBuild integerRows (some rowsAsChannels) = .ok _ from rfl)
  have hTyped : integerRows.Typed := hFaithful.copied hFor rfl rfl rfl (by decide)
  revert hTyped
  decide

end Oakfield
