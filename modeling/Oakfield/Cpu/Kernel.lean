import Oakfield.Field
import Oakfield.KernelIR.BuilderRun

/-! Kernel packages as the CPU backend receives them, and its loads from bound
fields. -/
namespace Oakfield.Cpu

open KernelIR CDouble

/-- `SimKernelIRBinding`: the field by address, `none` for null pointers. -/
structure SimKernelIRBinding where
  fieldIndex : ℕ
  field : Option ℕ
  shape : Option (List ℕ)
  strides : Option (List ℕ)
  rank : ℕ
deriving DecidableEq, Repr

structure SimKernelIROutput where
  fieldIndex : ℕ
  expression : SimIRNodeId
deriving DecidableEq, Repr

inductive SimKernelComplexSemantics where
  | trueComplex
  | componentwise
deriving DecidableEq, Repr

/-- `KernelIR`. A null parameter array is an empty one. -/
structure Kernel (D : Type) where
  builder : SimIRBuilder D
  bindings : List SimKernelIRBinding
  outputs : List SimKernelIROutput
  params : List D
  complexSemantics : SimKernelComplexSemantics
deriving DecidableEq, Repr

/-- The field objects by address. Fields do not share buffers. -/
abbrev Fields (D : Type) := ℕ → SimField D

variable {D : Type} [CDouble D]

/-- `backend_cpu_find_field`, as an address: the first binding of the index. -/
def backendCpuFindField (kernel : Kernel D) (fieldIndex : ℕ) : Option ℕ :=
  (kernel.bindings.find? fun binding => binding.fieldIndex == fieldIndex).bind (·.field)

/-- `backend_cpu_element_count`. -/
def backendCpuElementCount (field : SimField D) : ℕ :=
  if field.elementSize = 0 then 0 else field.bytes / field.elementSize

/-- `backend_cpu_field_value_component`. -/
def backendCpuFieldValueComponent (kernel : Kernel D) (fields : Fields D)
    (elementIndex fieldIndex component : ℕ) : Except SimError D :=
  match backendCpuFindField kernel fieldIndex with
  | none => .error .notFound
  | some address =>
      let field := fields address
      if field.elementSize = 8 then
        if backendCpuElementCount field ≤ elementIndex then .error .invalidArgument
        else
          match field.buffer with
          | none => .error .invalidArgument
          | some data => .ok (data.lane elementIndex)
      else if field.elementSize % 8 = 0 then
        -- Complex elements have two lanes, wider ones as many as fit.
        let components := field.elementSize / 8
        if backendCpuElementCount field ≤ elementIndex then .error .invalidArgument
        else
          match field.buffer with
          | none => .error .invalidArgument
          | some data =>
              if components ≤ component then .error .invalidArgument
              else .ok (data.lane (elementIndex * components + component))
      else .error .invalidArgument

/-- `backend_cpu_coord_value`; it cannot fail. -/
def backendCpuCoordValue (kernel : Kernel D) (elementIndex fieldIndex axis : ℕ) : D :=
  let fallback : D := if axis = 0 then ofU64 (BitVec.ofNat 64 elementIndex) else zero
  match kernel.bindings.find? fun binding => binding.fieldIndex == fieldIndex with
  | none => fallback
  | some binding =>
      match binding.shape, binding.strides with
      | some shape, some strides =>
          if binding.rank ≤ axis then fallback
          else
            let extent := shape.getD axis 0
            let stride := strides.getD axis 0
            if extent = 0 ∨ stride = 0 then zero
            else ofU64 (BitVec.ofNat 64 (elementIndex / stride % extent))
      | _, _ => fallback

/-- `backend_cpu_builder_max_components`. -/
def backendCpuBuilderMaxComponents (kernel : Kernel D) : ℕ :=
  kernel.builder.nodes.foldl (fun most node => max most node.valueType.components) 1

end Oakfield.Cpu
