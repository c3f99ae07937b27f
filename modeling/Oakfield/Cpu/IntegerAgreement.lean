import Oakfield.Cpu.EvalInteger

/-! The core evaluator and the CPU backend agree on integer expressions over the
fields and parameters of one kernel. -/
namespace Oakfield.Cpu

open KernelIR CDouble Library.Memo

variable {D : Type} [CDouble D]

/-- The element of a bound field as a value of the field's own domain. -/
def kernelFieldValue (kernel : Kernel D) (fields : Fields D) (elementIndex fieldIndex : ℕ) :
    Except SimError SimIRDomainValue :=
  match backendCpuFindField kernel fieldIndex with
  | none => .error .notFound
  | some address =>
      let field := fields address
      if field.domain.matchesStorage field.elementSize = false then .error .typeMismatch
      else if backendCpuElementCount field ≤ elementIndex then .error .invalidArgument
      else
        match field.buffer with
        | none => .error .invalidArgument
        | some data =>
            match field.domain.kind with
            | .integer => .ok (simIrDomainValueFromIntegerRaw field.domain (data.word elementIndex))
            | .real => .ok (.ofF64 field.domain (data.lane elementIndex))
            | .complex =>
                .ok (.ofComplex field.domain
                  ⟨data.lane (elementIndex * 2), data.lane (elementIndex * 2 + 1)⟩)
            | _ => .error .typeMismatch

/-- A parameter of the kernel as a value of the requested domain. -/
def kernelParamValue (kernel : Kernel D) (kind : SimIRParamKind) (domain : SimScalarDomain) :
    Except SimError SimIRDomainValue :=
  match kernel.params[kind.index]? with
  | none => .error .notFound
  | some value =>
      if domain.isInteger then
        match simIrIntegerRawFromDouble value domain with
        | none => .error .typeMismatch
        | some raw => .ok (simIrDomainValueFromIntegerRaw domain raw)
      else .ok (.ofF64 domain value)

/-- The assignment of a kernel at one element, for the core evaluator. -/
def kernelEvaluatorDomain (kernel : Kernel D) (fields : Fields D) (elementIndex : ℕ) :
    SimIREvaluatorDomain D where
  fieldValue := some fun field _ _ => kernelFieldValue kernel fields elementIndex field
  differential := none
  noise := none
  paramValue := some (kernelParamValue kernel)

variable {domain : SimScalarDomain}

/-! ### Loads -/

/-- A value made of raw bits converts back to them. -/
theorem toIntegerRaw_fromIntegerRaw (hDomain : domain.IsMachineInteger)
    (hWidth : domain.bitWidth = 32 ∨ domain.bitWidth = 64) (raw : Word) :
    simIrDomainValueToIntegerRaw (simIrDomainValueFromIntegerRaw domain raw) domain =
      some (simIrIntegerTruncate raw domain) := by
  have hKept : (simIrDomainValueFromIntegerRaw domain raw).inDomain domain =
      simIrDomainValueFromIntegerRaw domain raw := by
    unfold SimIRDomainValue.inDomain simIrDomainValueFromIntegerRaw
    split <;> split <;> rfl
  unfold simIrDomainValueToIntegerRaw
  simp only [hDomain.1, Bool.not_true, Bool.false_eq_true, if_false, hKept]
  unfold simIrDomainValueFromIntegerRaw
  cases hSigned : domain.isSigned with
  | true =>
      simp only [if_true, ne_eq, not_true, if_false]
      rw [rawFromSigned_eq_some hDomain hWidth hSigned, if_pos, simIrIntegerFromI64,
        truncate_eq_of_intValue_eq hDomain]
      · rw [intValue_eq_wrap_toInt hDomain, toInt_asI64 hDomain hSigned, wrap_intValue,
          intValue_truncate hDomain]
      · rw [toInt_asI64 hDomain hSigned, wrap_intValue]
  | false =>
      simp only [Bool.false_eq_true, if_false, ne_eq, not_true]
      rw [rawFromUnsigned_eq_some hDomain hWidth hSigned, if_pos,
        truncate_eq_of_intValue_eq hDomain (intValue_truncate hDomain raw)]
      rw [toNat_truncate_unsigned hDomain hSigned, wrap_intValue]

/-- Only 32 and 64 bit domains have conversions. -/
theorem toIntegerRaw_eq_none (hWidth : ¬(domain.bitWidth = 32 ∨ domain.bitWidth = 64))
    (value : SimIRDomainValue) : simIrDomainValueToIntegerRaw value domain = none := by
  have hNarrow : domain.bitWidth ≠ 32 ∧ domain.bitWidth ≠ 64 := not_or.mp hWidth
  have hSigned : ∀ word, simIrIntegerRawFromSigned word domain = none := by
    intro word
    simp [simIrIntegerRawFromSigned, hNarrow.1, hNarrow.2]
  have hUnsigned : ∀ word, simIrIntegerRawFromUnsigned word domain = none := by
    intro word
    simp [simIrIntegerRawFromUnsigned, hNarrow.1, hNarrow.2]
  unfold simIrDomainValueToIntegerRaw
  simp only [hSigned, hUnsigned, ite_self]

/-- A value of another known domain is refused. -/
theorem toIntegerRaw_of_domain_ne {value : SimIRDomainValue} (hKnown : value.domain.kind ≠ .unknown)
    (hOther : value.domain ≠ domain) : simIrDomainValueToIntegerRaw value domain = none := by
  unfold simIrDomainValueToIntegerRaw SimIRDomainValue.inDomain
  simp [hKnown, hOther]

/-- The value of an element has the domain of its field, which is known. -/
theorem kernelFieldValue_domain {kernel : Kernel D} {fields : Fields D}
    {elementIndex field address : ℕ} {value : SimIRDomainValue}
    (hFind : backendCpuFindField kernel field = some address)
    (hValue : kernelFieldValue kernel fields elementIndex field = .ok value) :
    value.domain = (fields address).domain ∧ value.domain.kind ≠ .unknown := by
  have hMade : ∀ domain raw, (simIrDomainValueFromIntegerRaw domain raw).domain = domain := by
    intro domain raw
    unfold simIrDomainValueFromIntegerRaw
    dsimp only
    split <;> rfl
  simp only [kernelFieldValue, hFind] at hValue
  split at hValue
  · cases hValue
  split at hValue
  · cases hValue
  split at hValue
  · cases hValue
  split at hValue <;> cases hValue <;>
    simp_all [SimIRDomainValue.ofF64, SimIRDomainValue.ofComplex]

/-- Both evaluators load the same raw bits from a field. -/
theorem sameEnd_fieldValue (hDomain : domain.IsMachineInteger) (kernel : Kernel D)
    (fields : Fields D) (elementIndex field : ℕ) :
    SameEnd (some (simIrIntegerAnswer domain (kernelFieldValue kernel fields elementIndex field)))
      (some (backendCpuFieldValueInteger kernel fields elementIndex field domain)) := by
  have hKind : domain.kind = .integer := by
    simpa [SimScalarDomain.isInteger] using hDomain.1
  cases hFind : backendCpuFindField kernel field with
  | none =>
      simp only [kernelFieldValue, backendCpuFieldValueInteger, hFind, hDomain.1, simIrIntegerAnswer]
      exact .error _ _
  | some address =>
      by_cases hSame : (fields address).domain = domain
      · simp only [kernelFieldValue, backendCpuFieldValueInteger, hFind, hSame, hDomain.1, hKind,
          Bool.not_true, Bool.false_eq_true, if_false, ne_eq, not_true, false_or]
        cases hStorage : domain.matchesStorage (fields address).elementSize with
        | false =>
            simp only [if_true, simIrIntegerAnswer]
            exact .error _ _
        | true =>
        simp only [Bool.true_eq_false, if_false]
        by_cases hCount : backendCpuElementCount (fields address) ≤ elementIndex
        · simp only [hCount, if_true, simIrIntegerAnswer]
          exact .error _ _
        simp only [hCount, if_false]
        cases (fields address).buffer with
        | none =>
            simp only [simIrIntegerAnswer, ite_self]
            exact .error _ _
        | some data =>
            by_cases hWidth : domain.bitWidth = 32 ∨ domain.bitWidth = 64
            · simp only [simIrIntegerAnswer, toIntegerRaw_fromIntegerRaw hDomain hWidth,
                if_pos hWidth, backendCpuIntegerTruncate_eq]
              exact .ok _
            · simp only [simIrIntegerAnswer, toIntegerRaw_eq_none hWidth, if_neg hWidth]
              exact .error _ _
      · have hCpu : backendCpuFieldValueInteger kernel fields elementIndex field domain =
            .error .typeMismatch := by
          simp [backendCpuFieldValueInteger, hFind, hSame, hDomain.1]
        rw [hCpu]
        cases hValue : kernelFieldValue kernel fields elementIndex field with
        | error e => exact .error _ _
        | ok value =>
            obtain ⟨hField, hKnown⟩ := kernelFieldValue_domain hFind hValue
            simp only [simIrIntegerAnswer,
              toIntegerRaw_of_domain_ne hKnown (by rw [hField]; exact hSame)]
            exact .error _ _

/-- Both evaluators convert a parameter alike; integer parameters are 64 bits wide. -/
theorem sameEnd_paramValue (hDomain : domain.IsMachineInteger) (hWidth : domain.bitWidth = 64)
    (kernel : Kernel D) (kind : SimIRParamKind)
    (answer : Unit → SimIRNodeId → Option (Except SimError Word))
    (reply : Empty → Except SimError Word) :
    SameEnd (some (simIrIntegerAnswer domain (kernelParamValue kernel kind domain)))
      (Program.interpret answer reply () (match kernel.params[kind.index]? with
        | none => .fail .notFound
        | some value =>
            match backendCpuIntegerRawFromDouble value domain with
            | none => .fail .typeMismatch
            | some raw => pure raw)) := by
  unfold kernelParamValue
  cases kernel.params[kind.index]? with
  | none => exact .error _ _
  | some value =>
      simp only [hDomain.1, if_true, backendCpuIntegerRawFromDouble_eq value hWidth]
      cases simIrIntegerRawFromDouble value domain with
      | none => exact .error _ _
      | some raw =>
          have hTrunc : simIrIntegerTruncate raw domain = raw := by simp [simIrIntegerTruncate, hWidth]
          simp only [simIrIntegerAnswer, toIntegerRaw_fromIntegerRaw hDomain (.inr hWidth), hTrunc]
          exact .ok _

/-- The parameters of an integer type are 64 bits wide. -/
theorem bitWidth_valueType (kind : SimIRParamKind)
    (hInteger : kind.valueType.domain.isInteger = true) : kind.valueType.domain.bitWidth = 64 := by
  cases kind with
  | stepIndex => decide
  | _ => exact absurd hInteger (by decide)

/-! ### The two recursions -/

variable {kernel : Kernel D} {fields : Fields D} {elementIndex : ℕ}

/-- The nodes of an integer expression mean the same to both evaluators, when
the expression reads no index or coordinate. -/
theorem sameEnd_nodeMeaning (hBuilder : kernel.builder.WellFormed)
    (hDomain : domain.IsMachineInteger) {root : SimIRNodeId}
    (hSupported : ∀ id node, kernel.builder.Reaches root id → kernel.builder.node? id = some node →
      node.data.readsPosition = false)
    (id : SimIRNodeId) (hId : kernel.builder.InDomain domain id)
    (hReach : kernel.builder.Reaches root id) :
    SameEnd
      (nodeMeaning kernel.builder
        (simIrEvaluateImplInteger (kernelEvaluatorDomain kernel fields elementIndex)) id)
      (nodeMeaning kernel.builder (backendCpuEvalIntegerNode kernel fields elementIndex) id) := by
  induction id using Nat.strongRecOn with
  | ind id ih =>
      obtain ⟨type, hType, hScalar, hTypeDomain⟩ := hId
      obtain ⟨node, hNode, rfl⟩ := Option.map_eq_some_iff.mp hType
      have hWell := hBuilder.nodes id node hNode
      have hTyped := hWell.typed
      have hOperand : ∀ operand ∈ node.data.operands,
          kernel.builder.typeOf? operand = some node.valueType →
          SameEnd
            (nodeMeaning kernel.builder
              (simIrEvaluateImplInteger (kernelEvaluatorDomain kernel fields elementIndex)) operand)
            (nodeMeaning kernel.builder (backendCpuEvalIntegerNode kernel fields elementIndex)
              operand) :=
        fun operand hMem hSame => ih operand (hWell.operands_lt operand hMem)
          ⟨_, hSame, hScalar, hTypeDomain⟩ (hReach.tail ⟨node, hNode, hMem⟩)
      rw [nodeMeaning_eq hBuilder (asksOperands_simIrEvaluateImplInteger hBuilder hDomain)
          ⟨_, hType, hScalar, hTypeDomain⟩ hNode,
        nodeMeaning_eq hBuilder (asksOperands_backendCpuEvalIntegerNode hBuilder hDomain)
          ⟨_, hType, hScalar, hTypeDomain⟩ hNode]
      subst hTypeDomain
      refine SameEnd.bind ?_ fun raw => .ok _
      have hInteger := hDomain.1
      unfold simIrEvaluateInteger backendCpuEvalInteger
      simp only [hScalar, hInteger, Bool.not_true, Bool.or_self, Bool.false_eq_true, if_false]
      cases hData : node.data with
      | constant value =>
          rw [hData] at hTyped
          have hExact := (hTyped.exact hInteger).2.1
          simp only [simIrConstantIntegerRaw, hInteger, hExact, Bool.not_true, Bool.false_eq_true,
            if_false, if_true]
          exact .ok _
      | fieldRef field =>
          simp only [interpret_ofExcept]
          exact sameEnd_fieldValue hDomain kernel fields elementIndex field
      | binary op lhs rhs =>
          rw [hData] at hTyped
          refine SameEnd.bind ?_ fun x => SameEnd.bind ?_ fun y => ?_
          · simp only [interpret_ask]
            exact hOperand lhs (by simp [hData, SimIRNodeData.operands]) hTyped.1
          · simp only [interpret_ask]
            exact hOperand rhs (by simp [hData, SimIRNodeData.operands]) hTyped.2.1
          · rw [backendCpuIntegerBinary_eq]
            rcases simIrIntegerBinary_spec hDomain op x y with ⟨-, hRun⟩ | ⟨raw, hRun, -⟩
            · rw [hRun]
              exact .error _ _
            · rw [hRun]
              exact .ok _
      | floor operand =>
          rw [hData] at hTyped
          simp only [interpret_ask]
          exact hOperand operand (by simp [hData, SimIRNodeData.operands]) hTyped.1
      | param kind =>
          rw [hData] at hTyped
          have hWidth : node.valueType.domain.bitWidth = 64 := by
            have hType : node.valueType = kind.valueType := hTyped
            rw [hType] at hInteger ⊢
            exact bitWidth_valueType kind hInteger
          simp only [interpret_ofExcept]
          exact sameEnd_paramValue hDomain hWidth kernel kind _ _
      | index =>
          have hPosition := hSupported id node hReach hNode
          rw [hData] at hPosition
          cases hPosition
      | coord field axis =>
          have hPosition := hSupported id node hReach hNode
          rw [hData] at hPosition
          cases hPosition
      | _ => exact .error _ _

/-- The core evaluator and the CPU backend agree on every integer expression
without index and coordinate nodes: the same value, or an error each. -/
theorem backendCpuEvaluateInteger_agrees (hBuilt : Built kernel.builder) (fields : Fields D)
    (elementIndex : ℕ) {root : SimIRNodeId} {node : SimIRNode D}
    (hRoot : kernel.builder.node? root = some node)
    (hInteger : node.valueType.domain.isInteger = true)
    (hSupported : ∀ id node, kernel.builder.Reaches root id → kernel.builder.node? id = some node →
      node.data.readsPosition = false) :
    SameEnd
      (simIrEvaluateDomain kernel.builder root (kernelEvaluatorDomain kernel fields elementIndex))
      ((backendCpuEvaluateInteger kernel fields elementIndex root).map fun result =>
        result.map (simIrDomainValueFromIntegerRaw node.valueType.domain)) := by
  have hBuilder := hBuilt.wellFormed
  have hDomain := SimIRType.isMachineInteger hInteger
  have hReal : node.valueType.domain.isComplex = false := by
    unfold SimScalarDomain.isInteger at hInteger
    simp_all [SimScalarDomain.isComplex]
  unfold simIrEvaluateDomain backendCpuEvaluateInteger
  simp only [hRoot, SimIRType.isScalar_normalize, SimIRType.domain_normalize, hReal, hInteger,
    Bool.not_false, Bool.and_true, if_true]
  cases hScalar : node.valueType.isScalar with
  | false =>
      obtain ⟨hFails, hAsks⟩ := asksOperands_vectorRoot kernel fields elementIndex hRoot hScalar
      rw [evaluateNodes_eq_meaning hBuilder hAsks rfl (SimIRBuilder.lt_count_of_node? hRoot),
        nodeMeaning_eq hBuilder hAsks rfl hRoot, hFails]
      exact .error _ _
  | true =>
      have hId : kernel.builder.InDomain node.valueType.domain root :=
        ⟨_, typeOf?_of_node? hRoot, hScalar, rfl⟩
      have hCount := SimIRBuilder.lt_count_of_node? hRoot
      rw [evaluateNodes_eq_meaning hBuilder
          (asksOperands_simIrEvaluateImplInteger hBuilder hDomain) hId hCount,
        evaluateNodes_eq_meaning hBuilder
          (asksOperands_backendCpuEvalIntegerNode hBuilder hDomain) hId hCount]
      exact (sameEnd_nodeMeaning hBuilder hDomain hSupported root hId .refl).map _

/-- The quotient of a field by `-1` in the signed 32-bit domain. -/
def negatedQuotient : Kernel ℤ where
  builder := BuilderCall.runAll [
    .fieldRefTyped 0 (simIrTypeScalarDomainTyped simScalarDomainI32),
    .constantI64Typed (-1) (simIrTypeScalarDomainTyped simScalarDomainI32),
    .binary .div 0 1]
  bindings := [⟨0, some 0, none, none, 0⟩]
  outputs := [⟨0, 2⟩]
  params := []
  complexSemantics := .trueComplex

/-- One element, which holds `INT32_MIN`. -/
def minimumField : Fields ℤ := fun _ =>
  { initialized := true, shape := [1], strides := [1], elementSize := 4
    data := some (.words fun _ => BitVec.ofNat 64 (2 ^ 31))
    complexMode := false, repr := ⟨.physical, .unknown⟩, scalarDomain := simScalarDomainI32 }

theorem backendCpuEvaluateInteger_agrees_negatedQuotient :
    SameEnd
      (simIrEvaluateDomain negatedQuotient.builder 2
        (kernelEvaluatorDomain negatedQuotient minimumField 0))
      ((backendCpuEvaluateInteger negatedQuotient minimumField 0 2).map fun result =>
        result.map (simIrDomainValueFromIntegerRaw simScalarDomainI32)) :=
  backendCpuEvaluateInteger_agrees (built_runAll _) minimumField 0
    (show negatedQuotient.builder.node? 2 = some
      ⟨2, .binary .div 0 1, simIrTypeScalarDomainTyped simScalarDomainI32, .misc, .none, true⟩ from rfl)
    (by decide) fun id node _ hNode =>
      (by decide : ∀ node ∈ negatedQuotient.builder.nodes, node.data.readsPosition = false) node
        (List.mem_of_getElem? hNode)

end Oakfield.Cpu
