import Oakfield.Cpu.EvalInteger
import Oakfield.Cpu.EvalNode
import Oakfield.KernelIR.BuilderSafety

/-! Integer subexpressions which feed a complex constructor: their results against
the values which the two complex evaluators take for them. -/
namespace Oakfield.Cpu

open KernelIR CDouble Library.Memo

variable {D : Type} [CDouble D]

/-! ### Integers under complex constructors -/

/-- A complex constructor takes a real number from the operand: a lane of
`COMPLEX_PACK`, or the angle of `COMPLEX_ROTATE`. -/
def TakesReal (builder : SimIRBuilder D) (constructor operand : SimIRNodeId) : Prop :=
  ∃ node, builder.node? constructor = some node ∧
    ((∃ imag, node.data = .complexPack operand imag) ∨
      (∃ real, node.data = .complexPack real operand) ∨
      ∃ rotated, node.data = .complexRotate rotated operand)

/-- An integer subexpression which feeds a complex constructor of an expression. -/
inductive Feeds (builder : SimIRBuilder D) (root : SimIRNodeId) : SimIRNodeId → SimIRNode D → Prop
  where
  | operand {constructor id : SimIRNodeId} {node : SimIRNode D}
      (hReaches : builder.Reaches root constructor) (hTakes : TakesReal builder constructor id)
      (hNode : builder.node? id = some node) (hScalar : node.valueType.isScalar = true)
      (hInteger : node.valueType.domain.isInteger = true) : Feeds builder root id node
  | inner {id operand : SimIRNodeId} {node inner : SimIRNode D}
    (hFeeds : Feeds builder root id node)
      (hMem : operand ∈ node.data.operands) (hNode : builder.node? operand = some inner)
      (hType : inner.valueType = node.valueType) : Feeds builder root operand inner

/-- The double with the value of an integer result of a node. -/
def resultDouble (node : SimIRNode D) (raw : Word) : D :=
  simIrIntegerRawToDouble raw node.valueType.domain

/-! ### The core evaluators -/

section Core

variable (builder : SimIRBuilder D) (evaluator : SimIREvaluatorDomain D)

end Core

/-! ### The evaluators of the CPU backend -/

section Backend

variable (kernel : Kernel D) (fields : Fields D) (reference : SimField D)
  (reply : StatefulRequest → Except SimError D) (elementIndex : ℕ)

/-- What `backend_cpu_eval_node` evaluates the first lane of a node to. -/
def cpuLane (id : SimIRNodeId) : Option (Except SimError D) :=
  meaning (backendCpuRules kernel fields reference) reply (·.1) elementIndex (id, 0)

end Backend

omit [CDouble D] in
theorem Feeds.spec {builder : SimIRBuilder D} {root id : SimIRNodeId} {node : SimIRNode D}
    (hFeeds : Feeds builder root id node) :
    builder.node? id = some node ∧ node.valueType.isScalar = true ∧
      node.valueType.domain.isInteger = true := by
  induction hFeeds with
  | operand _ _ hNode hScalar hInteger => exact ⟨hNode, hScalar, hInteger⟩
  | inner _ _ hNode hType ih =>
      rw [hType]
      exact ⟨hNode, ih.2⟩

/-- An evaluated node is its body over its evaluated operands. -/
theorem evaluateNodes_eq {V : Type} {builder : SimIRBuilder D}
    {body : SimIRNode D → NodeProgram V V} {good : SimIRNodeId → Prop}
    (hBuilder : builder.WellFormed) (hAsks : AsksOperands builder body good) {id : SimIRNodeId}
    {node : SimIRNode D} (hGood : good id) (hNode : builder.node? id = some node) :
    evaluateNodes builder body id =
      (body node).interpret (fun _ operand => evaluateNodes builder body operand)
        (fun e => nomatch e) () := by
  have hLt := SimIRBuilder.lt_count_of_node? hNode
  rw [evaluateNodes_eq_meaning hBuilder hAsks hGood hLt, nodeMeaning_eq hBuilder hAsks hGood hNode]
  apply Program.interpret_congr _ _ _ (hAsks id node hGood hNode)
  intro _ operand hOperand
  have hBelow := (hBuilder.nodes id node hNode).operands_lt operand hOperand.2
  exact (evaluateNodes_eq_meaning hBuilder hAsks hOperand.1 (hBelow.trans hLt)).symm

section Step

variable {builder : SimIRBuilder D} {root id : SimIRNodeId} {node : SimIRNode D}

variable {evaluator : SimIREvaluatorDomain D}

end Step

/-! ### One node of the backend -/

section Lane

variable {kernel : Kernel D} {fields : Fields D} {reference : SimField D}
  {reply : StatefulRequest → Except SimError D} {elementIndex : ℕ} {root id : SimIRNodeId}
  {node : SimIRNode D}

theorem cpuLane_eq (hBuilder : kernel.builder.WellFormed)
    (hNode : kernel.builder.node? id = some node) :
    cpuLane kernel fields reference reply elementIndex id =
      (backendCpuEvalNode kernel fields reference elementIndex node 0).interpret
        (meaning (backendCpuRules kernel fields reference) reply (·.1)) reply elementIndex := by
  have hLt := SimIRBuilder.lt_count_of_node? hNode
  have hReject : (backendCpuRules kernel fields reference).reject (id, 0) = none := by
    simp [backendCpuRules, Nat.not_le.mpr hLt]
  rw [cpuLane, meaning_eq (ranked_backendCpuRules hBuilder fields reference) elementIndex
    ⟨hLt, maxComponents_pos kernel⟩ hReject]
  simp only [backendCpuRules, hNode]

end Lane

/-! ### All expressions -/

/-- An integer constant of the builder stores the double of its integer. -/
theorem constantInteger_agrees {builder : SimIRBuilder D} {raw : Word} {type : SimIRType}
    {grown : SimIRNodeId × SimIRBuilder D}
    (hRun : simIrBuilderConstantIntegerRawTyped builder raw type = some grown) :
    ∃ node value, grown.2.node? grown.1 = some node ∧ node.data = .constant value ∧
      value.scalar = resultDouble node raw := by
  unfold simIrBuilderConstantIntegerRawTyped at hRun
  dsimp only at hRun
  split at hRun
  case isTrue => cases hRun
  case isFalse =>
    cases hRun
    refine ⟨_, _, node?_append_count _ _ _ _ rfl, rfl, ?_⟩
    rw [resultDouble, type.normalized_normalize.domain]

/-- One complex element. -/
def complexField : SimField ℤ :=
  { initialized := true, shape := [1], strides := [1], elementSize := 16
    data := some (.lanes fun _ => 0)
    complexMode := true, repr := ⟨.physical, .complexScalar⟩, scalarDomain := simScalarDomainC64 }

end Oakfield.Cpu
