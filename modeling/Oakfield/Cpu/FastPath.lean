import Oakfield.Cpu.EvalNode

/-! The fast path of the CPU backend: binary arithmetic on two operands, each an
affine combination of one field and of constants. -/
namespace Oakfield.Cpu

open KernelIR CDouble

variable {D : Type} [CDouble D]

/-- Write a lane of the field at an address. -/
def Fields.setLane (fields : Fields D) (address k : ℕ) (value : D) : Fields D :=
  Function.update fields address
    { fields address with data := (fields address).data.map fun data => data.setLane k value }

/-- Where the lanes of a vector constant are: in their node or in the pool. -/
inductive VectorConstant where
  | inline (node : SimIRNodeId)
  | pooled (offset : ℕ)
deriving DecidableEq, Repr

/-- `BackendCPUOperand`; a field stands for its buffer. -/
structure BackendCPUOperand (D : Type) where
  field : Option ℕ
  fieldScale : D
  scalarConstant : Option D
  vectorConstant : Option VectorConstant
  vectorScale : D
  vectorComponents : ℕ

/-- `backend_cpu_constant_scalar`. -/
def backendCpuConstantScalar (node : SimIRNode D) : Option D :=
  match node.data with
  | .constant value => if node.valueType.isScalar then some value.scalar else none
  | _ => none

/-- `backend_cpu_constant_vector_data`. -/
def backendCpuConstantVectorData (builder : SimIRBuilder D) (id : SimIRNodeId)
    (node : SimIRNode D) : Option VectorConstant :=
  match node.data with
  | .constant value =>
      if node.valueType.kind ≠ .vector then none
      else
        match value.constantIndex with
        | none => some (.inline id)
        | some k => builder.constantsOffsets[k]?.map .pooled
  | _ => none

/-- Lane of a vector constant. -/
def VectorConstant.lane (builder : SimIRBuilder D) (k : ℕ) : VectorConstant → D
  | .pooled offset => builder.constantsData.getD (offset + k) indeterminate
  | .inline id =>
      match builder.node? id with
      | none => indeterminate
      | some node =>
          match node.data with
          | .constant value => value.small.getD k indeterminate
          | _ => indeterminate

/-- The `SIM_IR_NODE_FIELD_REF` case of `backend_cpu_accumulate_operand`. -/
def BackendCPUOperand.addField (operand : BackendCPUOperand D) (kernel : Kernel D)
    (fields : Fields D) (elementCount elementSize fieldIndex : ℕ) (weight : D) :
    Option (BackendCPUOperand D) :=
  match backendCpuFindField kernel fieldIndex with
  | none => none
  | some address =>
      let field := fields address
      if field.elementSize ≠ elementSize then none
      else if backendCpuElementCount field ≠ elementCount then none
      else if field.buffer.isNone then none
      else if operand.field.isSome ∧ operand.field ≠ some address then none
      else some { operand with field := some address, fieldScale := add operand.fieldScale weight }

/-- The `SIM_IR_NODE_CONSTANT` case of `backend_cpu_accumulate_operand`. -/
def BackendCPUOperand.addConstant (operand : BackendCPUOperand D) (builder : SimIRBuilder D)
    (destComponents : ℕ) (id : SimIRNodeId) (node : SimIRNode D) (value : SimIRConstant D)
    (weight : D) : Option (BackendCPUOperand D) :=
  if node.valueType.isScalar then
    some { operand with
      scalarConstant := some (add (operand.scalarConstant.getD zero) (mul weight value.scalar)) }
  else if node.valueType.kind = .vector ∧ node.valueType.components = destComponents then
    match backendCpuConstantVectorData builder id node with
    | none => none
    | some values =>
        if node.valueType.components = 0 then none
        else if operand.vectorConstant.isSome ∧ operand.vectorConstant ≠ some values then none
        else some { operand with
          vectorConstant := some values, vectorComponents := node.valueType.components
          vectorScale := add operand.vectorScale weight }
  else none

/-- `backend_cpu_accumulate_operand`. The fuel bounds the depth of the tree. -/
def backendCpuAccumulateOperand (kernel : Kernel D) (fields : Fields D)
    (elementCount elementSize destComponents : ℕ) :
    ℕ → SimIRNodeId → D → BackendCPUOperand D → Option (BackendCPUOperand D)
  | 0, _, _, _ => none
  | fuel + 1, id, weight, operand =>
      let accumulate :=
        backendCpuAccumulateOperand kernel fields elementCount elementSize destComponents fuel
      match kernel.builder.node? id with
      | none => none
      | some node =>
          match node.data with
          | .fieldRef field =>
              operand.addField kernel fields elementCount elementSize field weight
          | .constant value =>
              operand.addConstant kernel.builder destComponents id node value weight
          | .binary .add lhs rhs => (accumulate lhs weight operand).bind (accumulate rhs weight)
          | .binary .sub lhs rhs =>
              (accumulate lhs weight operand).bind (accumulate rhs (neg weight))
          | .binary .mul lhs rhs =>
              match (kernel.builder.node? lhs).bind backendCpuConstantScalar with
              | some scalar => accumulate rhs (mul weight scalar) operand
              | none =>
                  match (kernel.builder.node? rhs).bind backendCpuConstantScalar with
                  | some scalar => accumulate lhs (mul weight scalar) operand
                  | none => none
          | .binary .div lhs rhs =>
              match (kernel.builder.node? rhs).bind backendCpuConstantScalar with
              | some scalar =>
                  if eq scalar zero then none else accumulate lhs (div weight scalar) operand
              | none => none
          | _ => none

/-- `backend_cpu_build_operand`. -/
def backendCpuBuildOperand (kernel : Kernel D) (fields : Fields D)
    (elementCount elementSize destComponents : ℕ) (id : SimIRNodeId) :
    Option (BackendCPUOperand D) :=
  backendCpuAccumulateOperand kernel fields elementCount elementSize destComponents
    (kernel.builder.count + 1) id one ⟨none, zero, none, none, zero, 0⟩

/-- `backend_cpu_operand_value`. -/
def backendCpuOperandValue (builder : SimIRBuilder D) (fields : Fields D)
    (operand : BackendCPUOperand D) (idx : ℕ) : D :=
  let value : D := zero
  let value :=
    match operand.field.bind fun address => (fields address).buffer with
    | some data => add value (mul operand.fieldScale (data.lane idx))
    | none => value
  let value :=
    match operand.scalarConstant with
    | some constant => add value constant
    | none => value
  match operand.vectorConstant with
  | some values =>
      if 0 < operand.vectorComponents then
        add value (mul operand.vectorScale (values.lane builder (idx % operand.vectorComponents)))
      else value
  | none => value

/-- The operands which `backend_cpu_try_simple_field_op` finds, with its operator. -/
def backendCpuSimpleOperands (kernel : Kernel D) (fields : Fields D) (expression : SimIRNodeId)
    (address elementCount : ℕ) : Option (SimIRBinaryOp × BackendCPUOperand D × BackendCPUOperand D) :=
  let elementSize := (fields address).elementSize
  let destComponents := elementSize / 8
  match kernel.builder.node? expression with
  | none => none
  | some root =>
      match root.data with
      | .binary op lhs rhs =>
          if op = .pow ∨ op = .mod then none
          else if root.valueType.domain.isComplex &&
              kernel.complexSemantics != .componentwise then none
          else
            match backendCpuBuildOperand kernel fields elementCount elementSize destComponents lhs,
                backendCpuBuildOperand kernel fields elementCount elementSize destComponents rhs with
            | some lhs, some rhs => some (op, lhs, rhs)
            | _, _ => none
      | _ => none

/-- `backend_cpu_try_simple_field_op` without vector instructions, on a
destination with a buffer, at least one element and whole lanes; `none` when it
returns false. -/
def backendCpuTrySimpleFieldOp (kernel : Kernel D) (fields : Fields D) (expression : SimIRNodeId)
    (address elementCount : ℕ) : Option (Fields D) :=
  (backendCpuSimpleOperands kernel fields expression address elementCount).map fun found =>
    (List.range (elementCount * ((fields address).elementSize / 8))).foldl (fun fields idx =>
      fields.setLane address idx
        (backendCpuRealBinary found.1 (backendCpuOperandValue kernel.builder fields found.2.1 idx)
          (backendCpuOperandValue kernel.builder fields found.2.2 idx))) fields

end Oakfield.Cpu
