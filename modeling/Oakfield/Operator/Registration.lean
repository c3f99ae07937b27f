import Oakfield.KernelIR.Node
import Oakfield.Operator.Plan

/-! Registration of an operator in its registry, with the failure exits of every
allocation, and who owns the descriptor's payload after a failure. -/
namespace Oakfield.Operator

open KernelIR (SimIRBuilder SimIRNodeId)

/-! ### Descriptors -/

structure SimOperatorKernelBindingDescriptor where
  irFieldIndex : SizeT
  contextFieldIndex : SizeT
deriving DecidableEq, Repr

structure SimOperatorKernelOutputDescriptor where
  irFieldIndex : SizeT
  expression : SimIRNodeId
deriving DecidableEq, Repr

/-- `SimOperatorKernelDescriptor`. A list is empty for a null array or a zero
count; `params` is missing for a null pointer, whatever `paramCount` is. -/
structure SimOperatorKernelDescriptor (D : Type) where
  builder : Option (SimIRBuilder D)
  builderCapacity : ℕ
  bindings : List SimOperatorKernelBindingDescriptor
  outputs : List SimOperatorKernelOutputDescriptor
  params : Option (List D)
  paramCount : ℕ

/-- `SimOperatorDescriptor`, with callbacks in `F` and payloads in `P`. The
accesses and dependencies are lists as in the kernel descriptor. -/
structure SimOperatorDescriptor (D F P : Type) extends SimOperator where
  name : Option (List (BitVec 8))
  evaluate : Option F
  destroy : Option F
  userdata : P
  kernel : Option (SimOperatorKernelDescriptor D)
  saveState : Option F
  restoreState : Option F

/-- `SimOperatorKernel`. -/
structure SimOperatorKernel (D : Type) where
  builder : SimIRBuilder D
  bindings : List SimOperatorKernelBindingDescriptor
  outputs : List SimOperatorKernelOutputDescriptor
  params : List D

/-- A slot of `registry->records`. The payload is missing after a reset. -/
structure OperatorSlot (D F P : Type) extends SimOperator where
  name : List (BitVec 8)
  evaluate : Option F
  destroy : Option F
  userdata : Option P
  kernel : Option (SimOperatorKernel D)
  saveState : Option F
  restoreState : Option F

/-- `SimOperatorRegistry` with all its slots; those from `count` on are not
operators. -/
structure RegistrySlots (D F P : Type) where
  records : ℕ → OperatorSlot D F P
  count : ℕ
  capacity : ℕ

/-! ### Allocations -/

/-- Which allocations of `sim_operator_kernel_init` are granted. -/
structure KernelAllocations where
  kernel : Bool
  bindings : Bool
  bindingMap : Bool
  outputs : Bool
  outputMap : Bool
  params : Bool
  builder : Bool
  nodes : Bool
  constantsOffsets : Bool
  constantsComponents : Bool
  constantsData : Bool

/-- Which allocations of `sim_operator_registry_register` are granted. -/
structure RegistrationAllocations where
  records : Bool
  readIndices : Bool
  writeIndices : Bool
  kernel : KernelAllocations
  dependencies : Bool

def KernelAllocations.all : KernelAllocations :=
  ⟨true, true, true, true, true, true, true, true, true, true, true⟩

def RegistrationAllocations.all : RegistrationAllocations :=
  ⟨true, true, true, .all, true⟩

/-! ### The code -/

variable {D F P : Type}

/-- The copy of the builder in `sim_operator_kernel_init`. -/
def copyBuilder (granted : KernelAllocations) (capacity : ℕ) (builder : SimIRBuilder D) :
    Except SimError (SimIRBuilder D) :=
  if !granted.builder then .error .outOfMemory
  else if 0 < capacity ∧ !granted.nodes then .error .outOfMemory
  else if builder.constantsOffsets ≠ [] ∧
      (!granted.constantsOffsets || !granted.constantsComponents) then .error .outOfMemory
  else if builder.constantsOffsets ≠ [] ∧ builder.constantsData ≠ [] ∧ !granted.constantsData then
    .error .outOfMemory
  else .ok builder

variable [CDouble D]

/-- `kernel->params`; without initial values they are zero. -/
def initialParams (descriptor : SimOperatorKernelDescriptor D) : List D :=
  match descriptor.params with
  | none => .replicate descriptor.paramCount CDouble.zero
  | some params => params.take descriptor.paramCount

/-- `sim_operator_kernel_init`. -/
def kernelInit (granted : KernelAllocations)
    (descriptor : Option (SimOperatorKernelDescriptor D)) :
    Except SimError (Option (SimOperatorKernel D)) :=
  match descriptor with
  | none => .ok none
  | some descriptor =>
      match descriptor.builder with
      | none => .error .invalidArgument
      | some builder =>
          if descriptor.bindings = [] ∨ descriptor.outputs = [] then .error .invalidArgument
          else if !granted.kernel then .error .outOfMemory
          else if !granted.bindings || !granted.bindingMap || !granted.outputs ||
              !granted.outputMap then .error .outOfMemory
          else if 0 < descriptor.paramCount ∧ !granted.params then .error .outOfMemory
          else
            match copyBuilder granted descriptor.builderCapacity builder with
            | .error failure => .error failure
            | .ok copy =>
                .ok (some
                  { builder := copy
                    bindings := descriptor.bindings
                    outputs := descriptor.outputs
                    params := initialParams descriptor })

/-- What a call of `sim_operator_assign` does: the slot it leaves, the callbacks
with the payload they were given, and the result. -/
structure Assignment (D F P : Type) where
  slot : OperatorSlot D F P
  destroyed : List (F × P)
  result : Except SimError Unit

namespace OperatorSlot

/-- `SIM_OPERATOR_NAME_MAX`. -/
def nameMax : ℕ := 63

/-- The part of `sim_operator_assign` before its first allocation. -/
def describe (descriptor : SimOperatorDescriptor D F P) (name : List (BitVec 8)) :
    OperatorSlot D F P :=
  { dependencies := []
    readMask := descriptor.readMask
    writeMask := descriptor.writeMask
    readIndices := []
    writeIndices := []
    name := name.take nameMax
    evaluate := descriptor.evaluate
    destroy := descriptor.destroy
    userdata := some descriptor.userdata
    kernel := none
    saveState := descriptor.saveState
    restoreState := descriptor.restoreState }

/-- The call of `op->destroy` in `sim_operator_reset`. -/
def destroyCalls (op : OperatorSlot D F P) : List (F × P) :=
  match op.destroy, op.userdata with
  | some destroy, some userdata => [(destroy, userdata)]
  | _, _ => []

/-- The fields which `sim_operator_reset` clears. -/
def cleared (op : OperatorSlot D F P) : OperatorSlot D F P :=
  { op with
    kernel := none
    dependencies := []
    readIndices := []
    writeIndices := []
    evaluate := none
    destroy := none
    userdata := none
    name := [] }

/-- `sim_operator_reset`, and the failure which follows it. -/
def reset (op : OperatorSlot D F P) (failure : SimError) : Assignment D F P :=
  ⟨op.cleared, op.destroyCalls, .error failure⟩

/-- `sim_operator_assign`. -/
def assign (granted : RegistrationAllocations)
    (descriptor : SimOperatorDescriptor D F P) (op : OperatorSlot D F P) : Assignment D F P :=
  match descriptor.name with
  | none => ⟨op, [], .error .invalidArgument⟩
  | some name =>
      if descriptor.evaluate.isNone && descriptor.kernel.isNone then
        ⟨op, [], .error .invalidArgument⟩
      else
        let op := describe descriptor name
        if descriptor.readIndices ≠ [] ∧ !granted.readIndices then op.reset .outOfMemory
        else
          let op := { op with readIndices := descriptor.readIndices }
          if descriptor.writeIndices ≠ [] ∧ !granted.writeIndices then op.reset .outOfMemory
          else
            let op := { op with writeIndices := descriptor.writeIndices }
            match kernelInit granted.kernel descriptor.kernel with
            | .error failure => op.reset failure
            | .ok kernel =>
                let op := { op with kernel := kernel }
                if descriptor.dependencies ≠ [] ∧ !granted.dependencies then
                  op.reset .outOfMemory
                else ⟨{ op with dependencies := descriptor.dependencies }, [], .ok ()⟩

end OperatorSlot

/-- What a registration does: the registry it leaves, the callbacks with the
payload they were given, and the index of the operator. -/
structure Registration (D F P : Type) where
  registry : RegistrySlots D F P
  destroyed : List (F × P)
  result : Except SimError ℕ

namespace RegistrySlots

/-- `sim_operator_grow`. -/
def grow (granted : Bool) (registry : RegistrySlots D F P) :
    Except SimError (RegistrySlots D F P) :=
  if registry.count < registry.capacity then .ok registry
  else if !granted then .error .outOfMemory
  else .ok { registry with
    capacity := if registry.capacity = 0 then 4 else registry.capacity * 2 }

/-- `sim_operator_registry_register`. -/
def register (granted : RegistrationAllocations)
    (descriptor : SimOperatorDescriptor D F P) (registry : RegistrySlots D F P) :
    Registration D F P :=
  match registry.grow granted.records with
  | .error failure => ⟨registry, [], .error failure⟩
  | .ok registry =>
      let assignment := (registry.records registry.count).assign granted descriptor
      let records := Function.update registry.records registry.count assignment.slot
      match assignment.result with
      | .error failure =>
          ⟨{ registry with records := records }, assignment.destroyed, .error failure⟩
      | .ok () =>
          ⟨{ registry with records := records, count := registry.count + 1 },
            assignment.destroyed, .ok registry.count⟩

end RegistrySlots

end Oakfield.Operator
