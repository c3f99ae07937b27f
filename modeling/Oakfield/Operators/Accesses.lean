import Oakfield.Operators.SegmentedSieve

/-! Configurations of four operators, and the context fields which they load from and
store to when they are applied. The sieves commute with changes of all other fields. -/
namespace Oakfield

open KernelIR

/-- An element of a context field is loaded, or stored. -/
inductive FieldAccess where
  | read (field : SizeT)
  | write (field : SizeT)
deriving DecidableEq, Repr

variable {D : Type}

/-! ### Sieves -/

/-- The accesses of `segmented_sieve_mark_apply`; fields which it rejects are left alone. -/
def segmentedSieveMarkAccesses (config : SimSegmentedSieveMarkOperatorConfig)
    (fields : List (SimField D)) : List FieldAccess :=
  match segmentedSieveMarkValidateFields fields[config.candidateField]? fields[config.flagsField]?
    config.prime with
  | .error _ => []
  | .ok () =>
      [.read (BitVec.ofNat 64 config.candidateField), .read (BitVec.ofNat 64 config.flagsField),
        .write (BitVec.ofNat 64 config.flagsField)]

/-- The accesses of `segmented_sieve_mark_batch_apply`. -/
def segmentedSieveMarkBatchAccesses (config : SimSegmentedSieveMarkBatchOperatorConfig)
    (fields : List (SimField D)) : List FieldAccess :=
  match segmentedSieveMarkBatchValidateFields fields[config.candidateField]?
    fields[config.primesField]? fields[config.flagsField]? with
  | .error _ => []
  | .ok () =>
      [.read (BitVec.ofNat 64 config.candidateField), .read (BitVec.ofNat 64 config.primesField),
        .read (BitVec.ofNat 64 config.flagsField), .write (BitVec.ofNat 64 config.flagsField)]

/-! ### Frames of the sieves -/

section Frames

variable {k j : ℕ} {data : FieldData D}

theorem setContextData_other (hOther : j ≠ k) (fields : List (SimField D)) :
    (setContextData fields k data)[j]? = fields[j]? := by
  rw [setContextData, List.getElem?_modify_ne _ _ (Ne.symm hOther)]

theorem contextData_setContextData (hOther : j ≠ k) (fields : List (SimField D)) :
    contextData (setContextData fields k data) j = contextData fields j := by
  rw [contextData, setContextData_other hOther, contextData]

theorem setContextData_comm (hOther : j ≠ k) (data' : FieldData D) (fields : List (SimField D)) :
    setContextData (setContextData fields k data) j data' =
      setContextData (setContextData fields j data') k data := by
  apply List.ext_getElem?
  intro i
  unfold setContextData
  simp only [List.getElem?_modify]
  by_cases hJ : j = i
  · have hK : k ≠ i := by
      rintro rfl
      exact hOther hJ
    simp [hJ, hK]
  · by_cases hK : k = i <;> simp [hJ, hK]

variable [CDouble D] {candidateField flagsField : ℕ} (hCandidate : candidateField ≠ k)
  (hFlags : flagsField ≠ k)

include hCandidate hFlags

/-- The data of a third field has no part in one iteration. -/
theorem markElement_commutes (candidateDomain flagsDomain : SimScalarDomain) (hit : Word → Bool)
    (index : ℕ) (fields : List (SimField D)) :
    markElement candidateField flagsField candidateDomain flagsDomain hit index
        (setContextData fields k data) =
      (markElement candidateField flagsField candidateDomain flagsDomain hit index fields).map
        (Prod.map id (setContextData · k data)) := by
  have hWrite : writeElement (setContextData fields k data) flagsField flagsDomain index 0 =
      (writeElement fields flagsField flagsDomain index 0).map (setContextData · k data) := by
    unfold writeElement
    rw [contextData_setContextData hFlags]
    cases contextData fields flagsField with
    | none => rfl
    | some flags =>
        dsimp only [Option.bind_some]
        cases simOperatorIntegerWrite flags flagsDomain index 0 with
        | none => rfl
        | some stored => exact congrArg some (setContextData_comm hFlags stored fields)
  unfold markElement readElement
  rw [contextData_setContextData hFlags, contextData_setContextData hCandidate, hWrite]
  split
  · rfl
  split
  · rfl
  split
  · rfl
  split
  · rfl
  cases writeElement fields flagsField flagsDomain index 0 <;> rfl

theorem markRealElement_commutes (candidateDomain : SimScalarDomain) (hit : Word → Bool)
    (index : ℕ) (fields : List (SimField D)) :
    markRealElement candidateField flagsField candidateDomain hit index
        (setContextData fields k data) =
      (markRealElement candidateField flagsField candidateDomain hit index fields).map
        (Prod.map id (setContextData · k data)) := by
  unfold markRealElement readElement
  rw [setContextData_other hFlags, contextData_setContextData hCandidate]
  split
  · rfl
  split
  · rfl
  split
  · rfl
  split
  · rfl
  · rw [setContextData_comm hFlags]
    rfl

theorem markElements_commutes (candidate flags : SimField D) (hit : Word → Bool)
    (fields : List (SimField D)) :
    markElements candidateField flagsField candidate flags hit (setContextData fields k data) =
      (markElements candidateField flagsField candidate flags hit fields).map
        (Prod.map id (setContextData · k data)) := by
  unfold markElements
  rw [contextData_setContextData hFlags]
  dsimp only
  split
  · split
    · rfl
    · exact Library.Loop.forEach_commutes _
        (fun index => markElement_commutes hCandidate hFlags _ _ hit index) _ fields
  split
  · rfl
  · exact Library.Loop.forEach_commutes _
      (fun index => markRealElement_commutes hCandidate hFlags _ hit index) _ fields

end Frames

/-- A single pass neither loads from nor stores to a field it does not name. -/
theorem segmentedSieveMarkApply_commutes [CDouble D] {config : SimSegmentedSieveMarkOperatorConfig}
    {k : ℕ} (hCandidate : config.candidateField ≠ k) (hFlags : config.flagsField ≠ k)
    (data : FieldData D) (fields : List (SimField D)) :
    segmentedSieveMarkApply config (setContextData fields k data) =
      (segmentedSieveMarkApply config fields).map (Prod.map id (setContextData · k data)) := by
  unfold segmentedSieveMarkApply
  rw [setContextData_other hCandidate, setContextData_other hFlags]
  split
  · rfl
  split
  case h_2 => rfl
  case h_1 =>
    split
    · rfl
    split
    · rfl
    · exact markElements_commutes hCandidate hFlags _ _ _ fields

section Batch

variable [CDouble D] {flagsField k : ℕ} {data : FieldData D} (hFlags : flagsField ≠ k)

include hFlags

theorem clearStride_commutes (count prime fuel index : ℕ) (fields : List (SimField D)) :
    clearStride flagsField count prime fuel index (setContextData fields k data) =
      (clearStride flagsField count prime fuel index fields).map (setContextData · k data) := by
  induction fuel generalizing index fields with
  | zero => rfl
  | succ fuel ih =>
      rw [clearStride, clearStride, contextData_setContextData hFlags]
      split
      · split
        · rfl
        · rw [setContextData_comm hFlags, ih]
      · rfl

theorem clearMultiples_commutes (flagsDomain : SimScalarDomain) (rangeStart rangeEnd count : ℕ)
    (prime : Word) (fields : List (SimField D)) :
    clearMultiples flagsField flagsDomain rangeStart rangeEnd count prime
        (setContextData fields k data) =
      (clearMultiples flagsField flagsDomain rangeStart rangeEnd count prime fields).map
        (Prod.map id (setContextData · k data)) := by
  unfold clearMultiples
  split
  · rfl
  split
  · rw [clearStride_commutes hFlags, Option.map_map, Option.map_map]
    rfl
  · rfl

end Batch

/-- A batch neither loads from nor stores to a field it does not name. -/
theorem segmentedSieveMarkBatchApply_commutes [CDouble D]
    {config : SimSegmentedSieveMarkBatchOperatorConfig} {k : ℕ}
    (hCandidate : config.candidateField ≠ k) (hPrimes : config.primesField ≠ k)
    (hFlags : config.flagsField ≠ k) (heap : Heap) (state : SieveBatchState) (data : FieldData D)
    (fields : List (SimField D)) :
    (segmentedSieveMarkBatchApply heap config state (setContextData fields k data)).1 =
      (segmentedSieveMarkBatchApply heap config state fields).1.map
        (Prod.map id (setContextData · k data)) := by
  unfold segmentedSieveMarkBatchApply
  rw [setContextData_other hCandidate, setContextData_other hPrimes, setContextData_other hFlags]
  split
  · rfl
  split
  case h_2 => rfl
  case h_1 candidate primes flags _ _ _ =>
    split
    · rfl
    · rfl
    split
    · rfl
    dsimp only
    split
    · rfl
    split
    · unfold segmentedSieveMarkBatchApplyUnitRangeIntegerFlags
      rw [contextData_setContextData hFlags]
      split
      · rfl
      · exact Library.Loop.forEach_commutes _
          (fun prime => clearMultiples_commutes hFlags _ _ _ _ prime) _ fields
    · exact markElements_commutes hCandidate hFlags _ _ _ fields

/-! ### Mixers -/

inductive SimMixerMode where
  | linear
  | multiply
  | crossfade
  | sum
  | power
  | am
  | fm
  | pm
  | ringMod
  | max
  | min
  | average
  | difference
  | absoluteDifference
  | feedback
deriving DecidableEq, Repr

inductive SimMixerFeedbackSplitMode where
  | none
  | lie
  | strang
deriving DecidableEq, Repr

/-- `SimMixerOperatorConfig`, without the gains. -/
structure SimMixerOperatorConfig where
  lhsField : SizeT
  rhsField : SizeT
  outputField : SizeT
  mode : SimMixerMode
  feedbackSplit : SimMixerFeedbackSplitMode
  accumulate : Bool
  scaleByDt : Bool
deriving DecidableEq, Repr

/-- `mixer_normalize_config`. -/
def mixerNormalizeConfig (config : SimMixerOperatorConfig) : SimMixerOperatorConfig :=
  if config.mode = .feedback then { config with accumulate := false } else config

def mixerValidateFields (lhs rhs out : Option (SimField D)) : Except SimError Unit :=
  match lhs, rhs, out with
  | some lhs, some rhs, some out =>
      let lhsCount := SimField.elementCount lhs.shape
      if lhsCount = 0 ∨ lhsCount ≠ SimField.elementCount rhs.shape ∨
          lhsCount ≠ SimField.elementCount out.shape then .error .invalidArgument
      else if (!lhs.storageIsComplex && lhs.domain != simScalarDomainF64) ||
          (!rhs.storageIsComplex && rhs.domain != simScalarDomainF64) ||
          (!out.storageIsComplex && out.domain != simScalarDomainF64) then .error .typeMismatch
      else if (lhs.storageIsComplex || rhs.storageIsComplex || out.storageIsComplex) &&
          !out.storageIsComplex then .error .typeMismatch
      else .ok ()
  | _, _, _ => .error .invalidArgument

/-- The accesses of `mixer_apply`. The output is loaded where the result depends on it. -/
def mixerApplyAccesses (config : SimMixerOperatorConfig) (fields : List (SimField D)) :
    List FieldAccess :=
  match mixerValidateFields fields[config.lhsField.toNat]? fields[config.rhsField.toNat]?
    fields[config.outputField.toNat]? with
  | .error _ => []
  | .ok () =>
      [.read config.lhsField, .read config.rhsField, .write config.outputField] ++
        if config.accumulate || config.mode == .feedback then [.read config.outputField] else []

/-- Whether `mixer_feedback_decay_dt` lets the output decay. -/
def mixerFeedbackDecays (config : SimMixerOperatorConfig) (layout : SimMixerFeedbackSplitMode)
    (substepIndex : ℕ) : Bool :=
  config.mode == .feedback &&
    match config.feedbackSplit with
    | .none => false
    | .lie => !(layout == .strang && substepIndex != 0)
    | .strang => true

/-- The accesses of `mixer_feedback_decay_step`. -/
def mixerFeedbackDecayAccesses (config : SimMixerOperatorConfig)
    (layout : SimMixerFeedbackSplitMode) (substepIndex : ℕ) : List FieldAccess :=
  if mixerFeedbackDecays config layout substepIndex then
    [.read config.outputField, .write config.outputField]
  else []

/-- The accesses of `mixer_feedback_inject_step`. -/
def mixerFeedbackInjectAccesses (config : SimMixerOperatorConfig) (fields : List (SimField D)) :
    List FieldAccess :=
  if config.mode ≠ .feedback ∨ config.feedbackSplit = .none then mixerApplyAccesses config fields
  else
    match mixerValidateFields fields[config.lhsField.toNat]? fields[config.rhsField.toNat]?
      fields[config.outputField.toNat]? with
    | .error _ => []
    | .ok () =>
        [.read config.lhsField, .read config.rhsField, .read config.outputField,
          .write config.outputField]

/-- The accesses of one substep. The layout of the substeps is that of the registration. -/
def mixerAccesses (config : SimMixerOperatorConfig) (layout : SimMixerFeedbackSplitMode)
    (substepIndex : ℕ) (fields : List (SimField D)) : List FieldAccess :=
  match layout with
  | .none => mixerApplyAccesses config fields
  | .lie | .strang =>
      if substepIndex = 1 then mixerFeedbackInjectAccesses config fields
      else mixerFeedbackDecayAccesses config layout substepIndex

/-- The accesses of the kernel of a mixer, whose expression refers to the output only to
accumulate. -/
def mixerKernelAccesses (config : SimMixerOperatorConfig) : List FieldAccess :=
  [.read config.lhsField, .read config.rhsField, .write config.outputField] ++
    if config.accumulate then [.read config.outputField] else []

/-! ### Chaos maps -/

/-- `SimChaosMapOperatorConfig`, without the parameters of the maps; `SIZE_MAX` is no
parameter field. -/
structure SimChaosMapOperatorConfig where
  inputField : SizeT
  outputField : SizeT
  kField : SizeT
  uField : SizeT
  aField : SizeT
  bField : SizeT
  cField : SizeT
  dField : SizeT
deriving DecidableEq, Repr

def SimChaosMapOperatorConfig.paramFields (config : SimChaosMapOperatorConfig) : List SizeT :=
  [config.kField, config.uField, config.aField, config.bField, config.cField, config.dField]

/-- `chaos_map_describe_io_fields`: whether the elements are complex. -/
def chaosMapDescribeIoFields (input output : SimField D) : Except SimError Bool :=
  if input.storageIsComplex ≠ output.storageIsComplex then .error .typeMismatch
  else if input.storageIsComplex ∧ (input.elementSize ≠ 16 ∨ output.elementSize ≠ 16) then
    .error .typeMismatch
  else if input.storageIsComplex = false ∧ (input.elementSize ≠ 8 ∨ output.elementSize ≠ 8) then
    .error .typeMismatch
  else if SimField.elementCount input.shape ≠ SimField.elementCount output.shape then
    .error .invalidArgument
  else .ok input.storageIsComplex

/-- The array of a field of real or complex elements, which may be null. -/
def SimField.elements (field : SimField D) : Option (FieldData D) :=
  if field.storageIsComplex then field.buffer else field.realData

def chaosMapPrepareParamField (fields : List (SimField D)) (fieldIndex : SizeT) (count : ℕ) :
    Except SimError Unit :=
  if fieldIndex = sizeMax then .ok ()
  else
    match fields[fieldIndex.toNat]? with
    | none => .error .invalidArgument
    | some field =>
        if SimField.elementCount field.shape ≠ count then .error .invalidArgument
        else if field.storageIsComplex = false ∧ field.elementSize ≠ 8 then .error .typeMismatch
        else if field.elements.isNone then .error .invalidArgument
        else .ok ()

/-- The accesses of `chaos_map_apply`. Every parameter field is loaded, whatever the map. -/
def chaosMapAccesses (config : SimChaosMapOperatorConfig) (fields : List (SimField D)) :
    List FieldAccess :=
  match fields[config.inputField.toNat]?, fields[config.outputField.toNat]? with
  | some input, some output =>
      match chaosMapDescribeIoFields input output with
      | .error _ => []
      | .ok _ =>
          let count := SimField.elementCount input.shape
          if count = 0 ∨ input.elements.isNone ∨ output.elements.isNone then []
          else
            match config.paramFields.forM (chaosMapPrepareParamField fields · count) with
            | .error _ => []
            | .ok () =>
                .read config.inputField :: .write config.outputField ::
                  (config.paramFields.filter (· ≠ sizeMax)).map .read
  | _, _ => []

end Oakfield
