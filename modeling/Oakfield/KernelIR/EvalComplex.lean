import Oakfield.KernelIR.EvalReal

/-! The complex evaluator of kernel expressions. -/
namespace Oakfield.KernelIR

open CDouble Library.Memo

variable {D : Type} [CDouble D]

/-- The binary cases in cartesian form; `%` is refused before its operands. -/
def simIrComplexBinary (op : SimIRBinaryOp) (lhs rhs : SimComplexDouble D) : SimComplexDouble D :=
  match op with
  | .add => ⟨add lhs.re rhs.re, add lhs.im rhs.im⟩
  | .sub => ⟨sub lhs.re rhs.re, sub lhs.im rhs.im⟩
  | .mul => ⟨sub (mul lhs.re rhs.re) (mul lhs.im rhs.im), add (mul lhs.re rhs.im) (mul lhs.im rhs.re)⟩
  | .div =>
      let denom := add (mul rhs.re rhs.re) (mul rhs.im rhs.im)
      ⟨div (add (mul lhs.re rhs.re) (mul lhs.im rhs.im)) denom,
        div (sub (mul lhs.im rhs.re) (mul lhs.re rhs.im)) denom⟩
  | .pow =>
      let p := cpow (lhs.re, lhs.im) (rhs.re, rhs.im)
      ⟨p.1, p.2⟩
  | .mod => lhs

/-- A constant as a complex number; lanes which cannot be read fall back. -/
def simIrComplexConstant (builder : SimIRBuilder D) (node : SimIRNode D) (value : SimIRConstant D) :
    SimComplexDouble D :=
  if 2 ≤ node.valueType.components then
    ⟨(simIrConstantComponent builder node 0).getD value.scalar,
      (simIrConstantComponent builder node 1).getD zero⟩
  else ⟨value.scalar, zero⟩

/-- The body of `sim_ir_evaluate_impl_complex` behind the cache. -/
def simIrEvaluateImplComplex (builder : SimIRBuilder D) (evaluator : SimIREvaluatorComplex D)
    (node : SimIRNode D) : NodeProgram (SimComplexDouble D) (SimComplexDouble D) :=
  match node.data with
  | .constant value => pure (simIrComplexConstant builder node value)
  | .fieldRef field =>
      ofExcept (viaCallback evaluator.fieldValueC fun callback => callback field node.valueType)
  | .binary op lhs rhs =>
      if op = .mod then .fail .invalidArgument
      else do
        let lhs ← ask lhs
        let rhs ← ask rhs
        pure (simIrComplexBinary op lhs rhs)
  | .diff spec => do
      let operand ← ask spec.operand
      ofExcept (viaCallback evaluator.differentialC fun callback =>
        callback builder node spec.operand operand)
  | .noise _ => ofExcept (viaCallback evaluator.noiseC fun callback => callback node)
  | .warp spec => do
      let operand ← ask spec.operand
      let re ← ofExcept (spec.response operand.re)
      let im ← ofExcept (spec.response operand.im)
      pure ⟨re, im⟩
  | .param kind => do
      let value ← ofExcept (viaCallback evaluator.paramValue fun callback => callback kind)
      pure ⟨value, zero⟩
  | .index => .fail .invalidArgument
  | .call _ _ => .fail .invalidArgument
  | .floor _ => .fail .invalidArgument
  | .coord _ _ => .fail .invalidArgument
  | .stateful _ => .fail .invalidArgument
  | .complexPack real imag => do
      let real ← ask real
      let imag ← ask imag
      pure ⟨real.re, imag.re⟩
  | .complexRotate operand angle => do
      let op ← ask operand
      let theta ← ask angle
      let s := sin theta.re
      let c := cos theta.re
      pure ⟨sub (mul op.re c) (mul op.im s), add (mul op.re s) (mul op.im c)⟩

/-- `sim_ir_evaluate_complex`, its two arrays allocated. -/
def simIrEvaluateComplex (builder : SimIRBuilder D) (root : SimIRNodeId)
    (evaluator : SimIREvaluatorComplex D) : Option (Except SimError (SimComplexDouble D)) :=
  if builder.count ≤ root then some (.error .invalidArgument)
  else evaluateNodes builder (simIrEvaluateImplComplex builder evaluator) root

end Oakfield.KernelIR
