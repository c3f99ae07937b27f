import Oakfield.KernelIR.Evaluator

/-! The real evaluator of kernel expressions. -/
namespace Oakfield.KernelIR

open CDouble Library.Memo

variable {D : Type} [CDouble D]

/-- The binary cases; `%` by zero is zero. -/
def simIrRealBinary (op : SimIRBinaryOp) (lhs rhs : D) : D :=
  match op with
  | .add => add lhs rhs
  | .sub => sub lhs rhs
  | .mul => mul lhs rhs
  | .div => div lhs rhs
  | .pow => pow lhs rhs
  | .mod => if eq rhs zero then zero else fmod lhs rhs

def simIrRealCall (kind : SimIRCallKind) (operand : D) : D :=
  match kind with
  | .sin => sin operand
  | .cos => cos operand
  | .exp => exp operand
  | .abs => fabs operand
  | .log => log operand
  | .tanh => tanh operand
  | .sinh => sinh operand
  | .sign => copysign one operand

/-- A real scalar type, the only one this evaluator accepts. -/
def SimIRType.isRealScalar (type : SimIRType) : Bool :=
  type.isScalar && !type.domain.isComplex && !type.domain.isInteger

/-- A callback, or the error for a missing one. -/
def viaCallback {V : Type} {α : Type} (callback : Option α) (request : α → Except SimError V) :
    Except SimError V :=
  match callback with
  | none => .error .notFound
  | some callback => request callback

/-- The body of `sim_ir_evaluate_impl` behind the cache. -/
def simIrEvaluateImpl (builder : SimIRBuilder D) (evaluator : SimIREvaluator D)
    (node : SimIRNode D) : NodeProgram D D :=
  if !node.valueType.isRealScalar then .fail .invalidArgument
  else
    match node.data with
    | .constant _ =>
        match simIrConstantComponent builder node 0 with
        | none => .fail .invalidArgument
        | some value => pure value
    | .fieldRef field =>
        ofExcept (viaCallback evaluator.fieldValue fun callback => callback field node.valueType)
    | .binary op lhs rhs => do
        let lhs ← ask lhs
        let rhs ← ask rhs
        pure (simIrRealBinary op lhs rhs)
    | .diff spec => do
        let operand ← ask spec.operand
        ofExcept (viaCallback evaluator.differential fun callback =>
          callback builder node spec.operand operand)
    | .noise _ => ofExcept (viaCallback evaluator.noise fun callback => callback node)
    | .param kind => ofExcept (viaCallback evaluator.paramValue fun callback => callback kind)
    | .index => .fail .invalidArgument
    | .stateful _ => .fail .invalidArgument
    | .call kind operand => do
        let operand ← ask operand
        pure (simIrRealCall kind operand)
    | .floor operand => do
        let operand ← ask operand
        pure (CDouble.floor operand)
    | .complexRotate _ _ => .fail .invalidArgument
    | .warp spec => do
        let operand ← ask spec.operand
        ofExcept (spec.response operand)
    | .complexPack _ _ => .fail .invalidArgument
    | .coord _ _ => .fail .invalidArgument

/-- `sim_ir_evaluate`, its two arrays allocated. -/
def simIrEvaluate (builder : SimIRBuilder D) (root : SimIRNodeId) (evaluator : SimIREvaluator D) :
    Option (Except SimError D) :=
  match builder.node? root with
  | none => some (.error .invalidArgument)
  | some node =>
      if !node.valueType.isRealScalar then some (.error .invalidArgument)
      else evaluateNodes builder (simIrEvaluateImpl builder evaluator) root

/-- Real bodies ask for operands of their node and cannot fault. -/
theorem within_simIrEvaluateImpl (builder : SimIRBuilder D) (evaluator : SimIREvaluator D)
    (node : SimIRNode D) :
    (simIrEvaluateImpl builder evaluator node).Within (· ∈ node.data.operands) := by
  unfold simIrEvaluateImpl
  split
  case isTrue => trivial
  case isFalse =>
    cases hData : node.data with
    | constant value =>
        dsimp only
        split <;> trivial
    | fieldRef field => exact within_ofExcept _
    | binary op lhs rhs =>
        exact within_ask_bind (by simp [SimIRNodeData.operands]) fun _ =>
          within_ask_bind (by simp [SimIRNodeData.operands]) fun _ => within_pure _
    | diff spec =>
        exact within_ask_bind (by simp [SimIRNodeData.operands]) fun _ => within_ofExcept _
    | noise spec => exact within_ofExcept _
    | warp spec =>
        exact within_ask_bind (by simp [SimIRNodeData.operands]) fun _ => within_ofExcept _
    | param kind => exact within_ofExcept _
    | complexPack real imag => trivial
    | complexRotate operand angle => trivial
    | index => trivial
    | call kind operand =>
        exact within_ask_bind (by simp [SimIRNodeData.operands]) fun _ => within_pure _
    | floor operand =>
        exact within_ask_bind (by simp [SimIRNodeData.operands]) fun _ => within_pure _
    | coord field axis => trivial
    | stateful spec => trivial

theorem asksOperands_simIrEvaluateImpl (builder : SimIRBuilder D) (evaluator : SimIREvaluator D) :
    AsksOperands builder (simIrEvaluateImpl builder evaluator) fun _ => True :=
  fun _ node _ _ => (within_simIrEvaluateImpl builder evaluator node).mono fun _ h => ⟨trivial, h⟩

end Oakfield.KernelIR
