import Oakfield.KernelIR.EvalComplex
import Oakfield.KernelIR.EvalInteger

/-! The scalar-domain-aware evaluator, which selects among the integer, complex
and real ones. -/
namespace Oakfield.KernelIR

open CDouble

variable {D : Type} [CDouble D]

/-- The check of every adapter: a value of the expected domain. -/
def SimIRDomainValue.expect (value : SimIRDomainValue) (domain : SimScalarDomain) :
    Except SimError SimIRDomainValue :=
  if (value.inDomain domain).domain = domain then .ok value else .error .typeMismatch

/-- The real adapters also refuse complex and integer domains. -/
def SimIRDomainValue.expectReal (value : SimIRDomainValue) (domain : SimScalarDomain) :
    Except SimError D :=
  match value.expect domain with
  | .error e => .error e
  | .ok value =>
      if domain.isComplex || domain.isInteger then .error .typeMismatch else .ok value.asF64

def SimIRDomainValue.expectComplex (value : SimIRDomainValue) (domain : SimScalarDomain) :
    Except SimError (SimComplexDouble D) :=
  match value.expect domain with
  | .error e => .error e
  | .ok value => .ok value.asComplex

/-- `sim_ir_eval_domain_param_real` and `sim_ir_eval_domain_param_complex`. -/
def simIrEvalDomainParam (evaluator : SimIREvaluatorDomain D) (kind : SimIRParamKind) :
    Except SimError D :=
  viaCallback evaluator.paramValue fun callback => do
    let value ← callback kind simScalarDomainF64
    let value ← value.expect simScalarDomainF64
    pure value.asF64

/-- The callbacks `sim_ir_evaluate_domain` hands to the real evaluator. -/
def simIrEvalDomainReal (evaluator : SimIREvaluatorDomain D) : SimIREvaluator D where
  fieldValue := some fun field type =>
    viaCallback evaluator.fieldValue fun callback => do
      let value ← callback field type type.domain
      value.expectReal type.domain
  differential := some fun builder node operand operandValue =>
    viaCallback evaluator.differential fun callback => do
      let domain := node.valueType.domain
      let value ← callback builder node operand domain (.ofF64 domain operandValue)
      value.expectReal domain
  noise := some fun node =>
    viaCallback evaluator.noise fun callback => do
      let value ← callback node node.valueType.domain
      value.expectReal node.valueType.domain
  paramValue := some (simIrEvalDomainParam evaluator)

/-- The callbacks `sim_ir_evaluate_domain` hands to the complex evaluator. -/
def simIrEvalDomainComplex (evaluator : SimIREvaluatorDomain D) : SimIREvaluatorComplex D where
  fieldValueC := some fun field type =>
    viaCallback evaluator.fieldValue fun callback => do
      let value ← callback field type type.domain
      value.expectComplex type.domain
  differentialC := some fun builder node operand operandValue =>
    viaCallback evaluator.differential fun callback => do
      let domain := node.valueType.domain
      let value ← callback builder node operand domain (.ofComplex domain operandValue)
      value.expectComplex domain
  noiseC := some fun node =>
    viaCallback evaluator.noise fun callback => do
      let value ← callback node node.valueType.domain
      value.expectComplex node.valueType.domain
  paramValue := some (simIrEvalDomainParam evaluator)

/-- `sim_ir_evaluate_domain`, its arrays allocated; `none` is a trap. -/
def simIrEvaluateDomain (builder : SimIRBuilder D) (root : SimIRNodeId)
    (evaluator : SimIREvaluatorDomain D) : Option (Except SimError SimIRDomainValue) :=
  match builder.node? root with
  | none => some (.error .invalidArgument)
  | some node =>
      let rootType := node.valueType.normalize
      let domain := rootType.domain
      if !rootType.isScalar && !domain.isComplex then some (.error .invalidArgument)
      else if domain.isInteger then
        (evaluateNodes builder (simIrEvaluateImplInteger evaluator) root).map fun result =>
          result.map (simIrDomainValueFromIntegerRaw domain)
      else if domain.isComplex then
        (simIrEvaluateComplex builder root (simIrEvalDomainComplex evaluator)).map fun result =>
          result.map (SimIRDomainValue.ofComplex domain)
      else
        (simIrEvaluate builder root (simIrEvalDomainReal evaluator)).map fun result =>
          result.map (SimIRDomainValue.ofF64 domain)

variable {builder : SimIRBuilder D} {evaluator : SimIREvaluatorDomain D}
  {domain : SimScalarDomain}

/-- The value made of raw bits has their integer as its payload. -/
theorem payload_fromIntegerRaw (hDomain : domain.IsMachineInteger) (raw : Word) :
    (simIrDomainValueFromIntegerRaw domain raw).domain = domain ∧
      (simIrDomainValueFromIntegerRaw domain raw).payload domain = domain.intValue raw := by
  unfold simIrDomainValueFromIntegerRaw SimIRDomainValue.payload
  dsimp only
  cases hSigned : domain.isSigned with
  | true => exact ⟨rfl, by simp [toInt_asI64 hDomain hSigned, intValue_truncate hDomain]⟩
  | false => exact ⟨rfl, by simp [toNat_truncate_unsigned hDomain hSigned]⟩

/-- Integer kernels follow fixed-width arithmetic: over any graph made by builder
calls and any assignment, the evaluator returns the denoted integer of the root
in the root's domain, or an error exactly when there is none; it never traps. -/
theorem simIrEvaluateDomain_integer (hBuilt : Built builder) (evaluator : SimIREvaluatorDomain D)
    {root : SimIRNodeId} {node : SimIRNode D} (hRoot : builder.node? root = some node)
    (hInteger : node.valueType.domain.isInteger = true)
    (hWidth : node.valueType.domain.bitWidth = 32 ∨ node.valueType.domain.bitWidth = 64) :
    (∃ value, simIrEvaluateDomain builder root evaluator = some (.ok value) ∧
        value.domain = node.valueType.domain ∧
        ∀ z, Denotes builder evaluator root z ↔ z = value.payload node.valueType.domain) ∨
      (∃ e, simIrEvaluateDomain builder root evaluator = some (.error e)) ∧
        ∀ z, ¬Denotes builder evaluator root z := by
  have hBuilder := hBuilt.wellFormed
  have hDomain := SimIRType.isMachineInteger hInteger
  have hReal : node.valueType.domain.isComplex = false := by
    unfold SimScalarDomain.isInteger at hInteger
    simp_all [SimScalarDomain.isComplex]
  unfold simIrEvaluateDomain
  simp only [hRoot, SimIRType.isScalar_normalize, SimIRType.domain_normalize, hReal, hDomain.1,
    Bool.not_false, Bool.and_true, if_true]
  cases hScalar : node.valueType.isScalar with
  | false =>
      refine Or.inr ⟨⟨_, rfl⟩, fun z hDenotes => ?_⟩
      cases hDenotes <;> simp_all
  | true =>
      have hId : builder.InDomain node.valueType.domain root :=
        ⟨_, typeOf?_of_node? hRoot, hScalar, rfl⟩
      rw [evaluateNodes_eq_meaning hBuilder
        (asksOperands_simIrEvaluateImplInteger hBuilder hDomain) hId
        (SimIRBuilder.lt_count_of_node? hRoot)]
      rcases agrees_nodeMeaning hBuilder hDomain hWidth root hId with
        ⟨raw, hRun, hValue⟩ | ⟨hNone, e, hRun⟩
      · obtain ⟨hSame, hPayload⟩ := payload_fromIntegerRaw hDomain raw
        refine Or.inl ⟨simIrDomainValueFromIntegerRaw node.valueType.domain raw, ?_, hSame, ?_⟩
        · rw [hRun]
          rfl
        · rw [hPayload]
          exact hValue
      · refine Or.inr ⟨⟨e, ?_⟩, hNone⟩
        rw [hRun]
        rfl

/-- `INT32_MIN / -1` in the signed 32-bit domain. -/
def minByMinusOne : SimIRBuilder ℤ :=
  BuilderCall.runAll [
    .constantI64Typed (BitVec.ofInt 64 (-2 ^ 31)) (simIrTypeScalarDomainTyped simScalarDomainI32),
    .constantI64Typed (-1) (simIrTypeScalarDomainTyped simScalarDomainI32),
    .binary .div 0 1]

theorem simIrEvaluateDomain_integer_minByMinusOne :
    (∃ value, simIrEvaluateDomain minByMinusOne 2 ⟨none, none, none, none⟩ = some (.ok value) ∧
        value.domain = simScalarDomainI32 ∧
        ∀ z, Denotes minByMinusOne ⟨none, none, none, none⟩ 2 z ↔
          z = value.payload simScalarDomainI32) ∨
      (∃ e, simIrEvaluateDomain minByMinusOne 2 ⟨none, none, none, none⟩ = some (.error e)) ∧
        ∀ z, ¬Denotes minByMinusOne ⟨none, none, none, none⟩ 2 z :=
  simIrEvaluateDomain_integer (built_runAll _) ⟨none, none, none, none⟩
    (show minByMinusOne.node? 2 = some
      ⟨2, .binary .div 0 1, simIrTypeScalarDomainTyped simScalarDomainI32, .misc, .none, true⟩ from rfl)
    (by decide) (by decide)

end Oakfield.KernelIR
