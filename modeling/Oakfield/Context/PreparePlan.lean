import Oakfield.Context.Execute
import Oakfield.Context.Split

/-! Preparation of the plan: complex storage, representation checks, and the
resolution of the registry when the cached plan is stale. -/
namespace Oakfield

variable {D μ : Type}

namespace SimContext

/-! ### Complex storage -/

section ComplexStorage

variable [CDouble D]

omit [CDouble D] in
/-- Both counters after a field of `oldBytes` is replaced by one of `newBytes`,
or the error of the checks in between. -/
def promotedBytes (context : SimContext D μ) (oldBytes newBytes : ℕ) : Except SimError (ℕ × ℕ) :=
  let limits := context.memoryLimits
  let baselineFields := context.bytesFieldsInUse - oldBytes
  if context.bytesFieldsInUse < oldBytes then .error .invalidState
  else if 0 < limits.maxTotalFieldBytes ∧ (limits.maxTotalFieldBytes < newBytes ∨
      limits.maxTotalFieldBytes - newBytes < baselineFields) then .error .outOfMemory
  else
    match simContextAddSize baselineFields newBytes with
    | none => .error .outOfMemory
    | some nextFields =>
        match simContextAddSize nextFields context.bytesScratchInUse with
        | none => .error .outOfMemory
        | some nextTotal => .ok (nextFields, nextTotal)

/-- One iteration of `sim_context_prepare_complex_fields`; `allocate` grants or
refuses the complex buffer. -/
def prepareComplexField (allocate : ℕ → Bool) (i : ℕ) (context : SimContext D μ) :
    ContextCall D μ :=
  let limits := context.memoryLimits
  match context.fields[i]? with
  | none => (context, .ok ())
  | some field =>
      if !field.complexModeSet || field.storageIsComplex then (context, .ok ())
      else
        let elementCount := SimField.elementCount field.shape
        let newBytes := elementCount * 16
        if elementCount = 0 then (context, .error .invalidArgument)
        else if sizeLimit / 16 < elementCount then (context, .error .outOfMemory)
        else if 0 < limits.maxFieldElements ∧ limits.maxFieldElements < elementCount then
          (context, .error .outOfMemory)
        else if 0 < limits.maxFieldBytes ∧ limits.maxFieldBytes < newBytes then
          (context, .error .outOfMemory)
        else
          match context.promotedBytes field.bytes newBytes with
          | .error failure => (context, .error failure)
          | .ok (nextFields, nextTotal) =>
              match field.requireComplex allocate with
              | (field, .error failure) =>
                  ({ context with fields := context.fields.set i field }, .error failure)
              | (field, .ok _) =>
                  ({ context with
                      fields := context.fields.set i field
                      bytesFieldsInUse := nextFields
                      bytesTotalInUse := nextTotal }, .ok ())

/-- The loop of `sim_context_prepare_complex_fields` over the given fields. -/
def prepareComplexFieldsFrom (allocate : ℕ → ℕ → Bool) :
    List ℕ → SimContext D μ → ContextCall D μ
  | [], context => (context, .ok ())
  | i :: rest, context =>
      match context.prepareComplexField (allocate i) i with
      | (context, .error failure) => (context, .error failure)
      | (context, .ok _) => prepareComplexFieldsFrom allocate rest context

/-- `sim_context_prepare_complex_fields`. -/
def prepareComplexFields (allocate : ℕ → ℕ → Bool) (context : SimContext D μ) :
    ContextCall D μ :=
  prepareComplexFieldsFrom allocate (List.range context.fields.length) context

end ComplexStorage

/-! ### Representation checks -/

/-- The check of one accessed field of an operator with complex requirements. -/
def checkComplexField (context : SimContext D μ) (index : SizeT) : Except SimError Unit :=
  match context.fields[index.toNat]? with
  | none => .error .invalidArgument
  | some field => if field.domain.isComplex then .ok () else .error .typeMismatch

/-- One iteration of `sim_context_resolve_representations`. -/
def resolveRepresentation (context : SimContext D μ) (op : SimOperatorRecord D μ) :
    Except SimError Unit := do
  if op.representation.requiresComplexInput then
    op.readFields.forM context.checkComplexField
  if op.representation.requiresComplexRepresentation ||
      op.representation.valueKind != .realScalar then
    op.writeFields.forM context.checkComplexField

/-- `sim_context_resolve_representations`. -/
def resolveRepresentations (context : SimContext D μ) : Except SimError Unit :=
  context.operators.forM context.resolveRepresentation

/-- `sim_context_validate_field_representations`. -/
def validateFieldRepresentations (context : SimContext D μ) : Except SimError Unit :=
  context.fields.forM fun field => field.validateRepresentation field.repr

/-! ### Plan -/

variable [CDouble D]

/-- What `sim_context_prepare_plan` does before it looks at the cached plan. -/
def prepareFields (allocate : ℕ → ℕ → Bool) (context : SimContext D μ) : ContextCall D μ :=
  match context.prepareComplexFields allocate with
  | (context, .error failure) => (context, .error failure)
  | (context, .ok _) =>
      (context, do
        context.resolveRepresentations
        context.validateFieldRepresentations)

/-- `sim_context_prepare_plan`. -/
def preparePlan (allocate : ℕ → ℕ → Bool) (context : SimContext D μ) : ContextCall D μ :=
  match context.prepareFields allocate with
  | (context, .error failure) => (context, .error failure)
  | (context, .ok _) =>
      if context.planValid then (context, .ok ())
      else
        match Operator.simOperatorResolvePlan context.registry with
        | .error failure => (context, .error failure)
        | .ok order => ({ context with plan := order, planValid := true }, .ok ())

/-- `sim_context_execute`. -/
def execute (allocate : ℕ → ℕ → Bool) (context : SimContext D μ) : PlanRun D μ :=
  match context.preparePlan allocate with
  | (context, .error failure) => ⟨context, [], .error failure⟩
  | (context, .ok _) => context.executePrepared

end SimContext

end Oakfield
