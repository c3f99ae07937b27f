import Oakfield.Cpu.Kernel
import Oakfield.Cpu.Neighbors
import Oakfield.KernelIR.Evaluator

/-! The recursive evaluator of the CPU backend for real, vector and complex
expressions: one lane of one node at one element. -/
namespace Oakfield.Cpu

open KernelIR CDouble Library.Memo

variable {D : Type} [CDouble D]

/-! ### Noise -/

/-- `backend_cpu_noise_step`: xorshift on 32 bits. -/
def backendCpuNoiseStep (state : BitVec 32) : BitVec 32 :=
  let state := state ^^^ (state <<< 13)
  let state := state ^^^ (state >>> 17)
  state ^^^ (state <<< 5)

/-- `(double) state` of a `uint32_t`. -/
def ofU32 (state : BitVec 32) : D := ofU64 (state.setWidth 64)

def backendCpuNoiseSample (kernel : Kernel D) (spec : SimIRNoise D) (index component : ℕ) : D :=
  let step : BitVec 32 :=
    match kernel.params[SimIRParamKind.stepIndex.index]? with
    | none => 0
    | some value => if isfinite value && gt value zero then toU32 value else 0
  let state := spec.seed ^^^ BitVec.ofNat 32 index
  let state := state ^^^ BitVec.ofNat 32 (component + 1) * 0x9E3779B9#32
  let state := state ^^^ step * 0x85EBCA6B#32
  let uint32Max : D := ofU32 (BitVec.allOnes 32)
  match spec.distribution with
  | .gaussian =>
      let state := backendCpuNoiseStep state
      let u1 := div (add (ofU32 state) one) (add uint32Max one)
      let state := backendCpuNoiseStep (state ^^^ 0xA511E9B3#32)
      let u2 := div (add (ofU32 state) one) (add uint32Max one)
      let u1 := if le u1 (lit 1 (-12)) then lit 1 (-12) else u1
      let r := sqrt (mul (lit (-2) 0) (log u1))
      mul (mul spec.amplitude r) (cos (mul (mul two pi) u2))
  | .uniform =>
      let state := backendCpuNoiseStep state
      mul spec.amplitude (sub (mul (div (ofU32 state) uint32Max) two) one)

/-! ### The body of a node -/

/-- A call of the callback of a stateful node. -/
structure StatefulRequest where
  eval : ℕ
  userdata : ℕ
  elementIndex : ℕ
  component : ℕ
deriving DecidableEq, Repr

/-- A lane of a node. -/
abbrev NodeLane := SimIRNodeId × ℕ

/-- Bodies of node lanes; the context is the element index. -/
abbrev LaneProgram (D : Type) := Program NodeLane ℕ D StatefulRequest SimError

/-- The `SIM_IR_NODE_CONSTANT` case. A lane outside the stored ones is whatever
lies there. -/
def backendCpuConstantLane (builder : SimIRBuilder D) (type : SimIRType) (value : SimIRConstant D)
    (component : ℕ) : D :=
  if type.isScalar then value.scalar
  else
    match value.constantIndex with
    | none =>
        if type.components ≤ simIrSmallConstantCapacity then
          value.small.getD component indeterminate
        else value.scalar
    | some k =>
        match builder.constantsOffsets[k]? with
        | none => value.scalar
        | some offset => builder.constantsData.getD (offset + component) indeterminate

/-- The binary cases outside complex domains. -/
def backendCpuRealBinary (op : SimIRBinaryOp) (lhs rhs : D) : D :=
  match op with
  | .add => add lhs rhs
  | .sub => sub lhs rhs
  | .mul => mul lhs rhs
  | .div => div lhs rhs
  | .pow => pow lhs rhs
  | .mod => if eq rhs zero then zero else fmod lhs rhs

/-- One lane of a binary operation of a complex domain. `SIM_IR_NODE_MOD` has no
complex case. -/
def backendCpuComplexBinary (op : SimIRBinaryOp) (component : ℕ) (lhsRe lhsIm rhsRe rhsIm : D) : D :=
  match op with
  | .add => if component = 0 then add lhsRe rhsRe else add lhsIm rhsIm
  | .sub => if component = 0 then sub lhsRe rhsRe else sub lhsIm rhsIm
  | .mul =>
      if component = 0 then sub (mul lhsRe rhsRe) (mul lhsIm rhsIm)
      else add (mul lhsRe rhsIm) (mul lhsIm rhsRe)
  | .div =>
      let denom := add (mul rhsRe rhsRe) (mul rhsIm rhsIm)
      if component = 0 then div (add (mul lhsRe rhsRe) (mul lhsIm rhsIm)) denom
      else div (sub (mul lhsIm rhsRe) (mul lhsRe rhsIm)) denom
  | .pow =>
      let value := cpow (lhsRe, lhsIm) (rhsRe, rhsIm)
      if component = 0 then value.1 else value.2
  | .mod => zero

/-- The calls which the backend knows; `sinh` is not among them. -/
def backendCpuCall (kind : SimIRCallKind) (operand : D) : Except SimError D :=
  match kind with
  | .sin => .ok (sin operand)
  | .cos => .ok (cos operand)
  | .exp => .ok (exp operand)
  | .abs => .ok (fabs operand)
  | .log => .ok (log operand)
  | .tanh => .ok (tanh operand)
  | .sign => .ok (copysign one operand)
  | .sinh => .error .invalidArgument

/-- The finite difference of a `SIM_IR_NODE_DIFF`. -/
def backendCpuDerivative (method : SimIRDiffMethod) (neighbors : SimNdAxisNeighbors)
    (dx center forward backward : D) : D :=
  let central := div (sub forward backward) (mul two dx)
  let ahead := div (sub forward center) dx
  let behind := div (sub center backward) dx
  match method with
  | .forward => ahead
  | .backward => behind
  | .central => central
  | .auto =>
      if neighbors.forward.valid && neighbors.backward.valid then central
      else if neighbors.forward.valid then ahead
      else if neighbors.backward.valid then behind
      else zero

/-- The operand at a neighbour, or the value which the boundary policy gives to
a missing one. -/
def backendCpuNeighborValue (neighbor : SimNdNeighbor) (boundary : SimIRBoundaryPolicy)
    (operand : SimIRNodeId) (component : ℕ) (center : D) : LaneProgram D D :=
  if neighbor.valid then askAt neighbor.index (operand, component)
  else if boundary = .dirichlet then pure zero
  else pure center

/-- The switch of `backend_cpu_eval_node`. The reference field is the
destination, whose layout the differences use. -/
def backendCpuEvalNode (kernel : Kernel D) (fields : Fields D) (reference : SimField D)
    (elementIndex : ℕ) (node : SimIRNode D) (component : ℕ) : LaneProgram D D :=
  match node.data with
  | .constant value =>
      pure (backendCpuConstantLane kernel.builder node.valueType value component)
  | .fieldRef field =>
      ofExcept (backendCpuFieldValueComponent kernel fields elementIndex field component)
  | .binary op lhs rhs =>
      if node.valueType.domain.isComplex && op != .mod then
        if 1 < component then .fail .invalidArgument
        else do
          let lhsRe ← ask (lhs, 0)
          let lhsIm ← ask (lhs, 1)
          let rhsRe ← ask (rhs, 0)
          let rhsIm ← ask (rhs, 1)
          pure (backendCpuComplexBinary op component lhsRe lhsIm rhsRe rhsIm)
      else do
        let lhs ← ask (lhs, component)
        let rhs ← ask (rhs, component)
        pure (backendCpuRealBinary op lhs rhs)
  | .diff spec =>
      if le spec.dx zero then .fail .invalidArgument
      else do
        let center ← ask (spec.operand, component)
        let neighbors ← ofExcept
          (simNdAxisNeighbors reference elementIndex spec.axis spec.boundary)
        let forward ←
          backendCpuNeighborValue neighbors.forward spec.boundary spec.operand component center
        let backward ←
          backendCpuNeighborValue neighbors.backward spec.boundary spec.operand component center
        pure (mul (backendCpuDerivative spec.method neighbors spec.dx center forward backward)
          spec.scale)
  | .noise spec => pure (backendCpuNoiseSample kernel spec elementIndex component)
  | .param kind =>
      match kernel.params[kind.index]? with
      | none => .fail .notFound
      | some value => pure value
  | .index => pure (ofU64 (BitVec.ofNat 64 elementIndex))
  | .call kind operand => do
      let operand ← ask (operand, component)
      ofExcept (backendCpuCall kind operand)
  | .floor operand => do
      let operand ← ask (operand, component)
      pure (CDouble.floor operand)
  | .coord field axis => pure (backendCpuCoordValue kernel elementIndex field axis)
  | .complexPack real imag =>
      if 1 < component then .fail .invalidArgument
      else ask (if component = 0 then real else imag, 0)
  | .complexRotate operand angle =>
      if 1 < component then .fail .invalidArgument
      else do
        let re ← ask (operand, 0)
        let im ← ask (operand, 1)
        let theta ← ask (angle, 0)
        let s := sin theta
        let c := cos theta
        pure (if component = 0 then sub (mul re c) (mul im s) else add (mul re s) (mul im c))
  | .warp spec => do
      let operand ← ask (spec.operand, component)
      ofExcept (spec.response operand)
  | .stateful spec => act ⟨spec.eval, spec.userdata, elementIndex, component⟩

/-- `backend_cpu_eval_node` as rules for an evaluator with a table of lanes. -/
def backendCpuRules (kernel : Kernel D) (fields : Fields D) (reference : SimField D) :
    Rules NodeLane ℕ D StatefulRequest SimError where
  reject lane := if kernel.builder.count ≤ lane.1 then some .invalidArgument else none
  cyclic := .dependencyError
  exhausted := .outOfMemory
  body elementIndex lane :=
    match kernel.builder.node? lane.1 with
    | none => .fail .invalidArgument
    | some node => backendCpuEvalNode kernel fields reference elementIndex node lane.2

/-! ### Lanes which are asked for -/

section Lanes

variable {kernel : Kernel D} {fields : Fields D} {reference : SimField D}

/-- Lanes of existing nodes below the largest number of components. -/
def InGrid (kernel : Kernel D) (lane : NodeLane) : Prop :=
  lane.1 < kernel.builder.count ∧ lane.2 < backendCpuBuilderMaxComponents kernel

omit [CDouble D] in
theorem le_foldl_max (nodes : List (SimIRNode D)) (start : ℕ) :
    start ≤ nodes.foldl (fun most node => max most node.valueType.components) start ∧
      ∀ node ∈ nodes, node.valueType.components ≤
        nodes.foldl (fun most node => max most node.valueType.components) start := by
  induction nodes generalizing start with
  | nil => exact ⟨Nat.le_refl _, fun node hMem => by cases hMem⟩
  | cons head nodes ih =>
      obtain ⟨hStart, hNodes⟩ := ih (max start head.valueType.components)
      refine ⟨Nat.le_trans (Nat.le_max_left _ _) hStart, fun node hMem => ?_⟩
      rcases List.mem_cons.mp hMem with rfl | hMem
      · exact Nat.le_trans (Nat.le_max_right _ _) hStart
      · exact hNodes node hMem

omit [CDouble D] in
theorem maxComponents_pos (kernel : Kernel D) : 0 < backendCpuBuilderMaxComponents kernel :=
  (le_foldl_max kernel.builder.nodes 1).1

omit [CDouble D] in
theorem components_le_maxComponents {id : SimIRNodeId} {node : SimIRNode D}
    (hNode : kernel.builder.node? id = some node) :
    node.valueType.components ≤ backendCpuBuilderMaxComponents kernel :=
  (le_foldl_max kernel.builder.nodes 1).2 node (List.mem_of_getElem? hNode)

/-- Lanes in the grid which belong to operands of the node. -/
def OperandLane (kernel : Kernel D) (node : SimIRNode D) (asked : NodeLane) : Prop :=
  InGrid kernel asked ∧ asked.1 ∈ node.data.operands

/-- Lanes which a node asks for at an element: other elements only in a difference. -/
def AsksLane (kernel : Kernel D) (node : SimIRNode D) (elementIndex c : ℕ) (asked : NodeLane) :
    Prop :=
  OperandLane kernel node asked ∧ (c = elementIndex ∨ node.data.readsNeighbors = true)

/-- The callback request of a lane at an element. -/
def AsksCallback (node : SimIRNode D) (elementIndex component : ℕ) (request : StatefulRequest) :
    Prop :=
  ∃ spec, node.data = .stateful spec ∧ request = ⟨spec.eval, spec.userdata, elementIndex, component⟩

/-- What the body of a lane in the grid asks for. -/
theorem withinAt_backendCpuEvalNode (hBuilder : kernel.builder.WellFormed) {lane : NodeLane}
    {node : SimIRNode D} (hGrid : InGrid kernel lane)
    (hNode : kernel.builder.node? lane.1 = some node) (elementIndex : ℕ) :
    (backendCpuEvalNode kernel fields reference elementIndex node lane.2).WithinAt
      (AsksLane kernel node elementIndex) (AsksCallback node elementIndex lane.2) elementIndex := by
  have hWell := hBuilder.nodes _ node hNode
  have hTyped := hWell.typed
  have hOperand : ∀ operand component, operand ∈ node.data.operands →
      component < backendCpuBuilderMaxComponents kernel →
      OperandLane kernel node (operand, component) :=
    fun operand component hMem hComponent =>
      ⟨⟨Nat.lt_trans (hWell.operands_lt operand hMem) hGrid.1, hComponent⟩, hMem⟩
  have hAsk : ∀ operand component, operand ∈ node.data.operands →
      component < backendCpuBuilderMaxComponents kernel →
      AsksLane kernel node elementIndex elementIndex (operand, component) :=
    fun operand component hMem hComponent => ⟨hOperand operand component hMem hComponent, .inl rfl⟩
  have hPos := maxComponents_pos kernel
  have hSecond : node.valueType.domain.isComplex = true →
      1 < backendCpuBuilderMaxComponents kernel := fun hComplex =>
    Nat.lt_of_lt_of_le (hWell.normalized.two_le_components hComplex)
      (components_le_maxComponents hNode)
  unfold backendCpuEvalNode
  cases hData : node.data with
  | constant value => exact withinAt_pure _
  | fieldRef field => exact withinAt_ofExcept _
  | binary op lhs rhs =>
      have hLeft := fun component => hAsk lhs component (by simp [hData, SimIRNodeData.operands])
      have hRight := fun component => hAsk rhs component (by simp [hData, SimIRNodeData.operands])
      dsimp only
      split
      case isTrue hComplex =>
        have hOne := hSecond (Bool.and_eq_true_iff.mp hComplex).1
        split
        · trivial
        · exact withinAt_ask_bind (hLeft 0 hPos) fun _ => withinAt_ask_bind (hLeft 1 hOne) fun _ =>
            withinAt_ask_bind (hRight 0 hPos) fun _ => withinAt_ask_bind (hRight 1 hOne) fun _ =>
              withinAt_pure _
      case isFalse =>
        exact withinAt_ask_bind (hLeft _ hGrid.2) fun _ =>
          withinAt_ask_bind (hRight _ hGrid.2) fun _ => withinAt_pure _
  | diff spec =>
      have hLane := hOperand spec.operand _ (by simp [hData, SimIRNodeData.operands]) hGrid.2
      have hNeighbor : ∀ neighbor (center : D),
          (backendCpuNeighborValue neighbor spec.boundary spec.operand lane.2 center).WithinAt
            (AsksLane kernel node elementIndex) (AsksCallback node elementIndex lane.2)
            elementIndex := by
        intro neighbor center
        unfold backendCpuNeighborValue
        split
        · exact withinAt_askAt ⟨hLane, .inr (by rw [hData]; rfl)⟩
        · split <;> exact withinAt_pure _
      dsimp only
      split
      · trivial
      · exact withinAt_ask_bind ⟨hLane, .inl rfl⟩ fun _ =>
          Program.WithinAt.bind (withinAt_ofExcept _) fun _ =>
            Program.WithinAt.bind (hNeighbor _ _) fun _ =>
              Program.WithinAt.bind (hNeighbor _ _) fun _ => withinAt_pure _
  | noise spec => exact withinAt_pure _
  | warp spec =>
      exact withinAt_ask_bind
        (hAsk spec.operand _ (by simp [hData, SimIRNodeData.operands]) hGrid.2)
        fun _ => withinAt_ofExcept _
  | param kind =>
      dsimp only
      split <;> trivial
  | complexPack real imag =>
      dsimp only
      split
      · trivial
      · refine withinAt_ask (hAsk _ 0 ?_ hPos)
        split <;> simp [hData, SimIRNodeData.operands]
  | complexRotate operand angle =>
      rw [hData] at hTyped
      have hOne : 1 < backendCpuBuilderMaxComponents kernel :=
        Nat.lt_of_lt_of_le (by rw [hTyped.2.1]; decide) (components_le_maxComponents hNode)
      have hLane := fun component =>
        hAsk operand component (by simp [hData, SimIRNodeData.operands])
      dsimp only
      split
      · trivial
      · exact withinAt_ask_bind (hLane 0 hPos) fun _ => withinAt_ask_bind (hLane 1 hOne) fun _ =>
          withinAt_ask_bind (hAsk angle 0 (by simp [hData, SimIRNodeData.operands]) hPos) fun _ =>
            withinAt_pure _
  | index => exact withinAt_pure _
  | call kind operand =>
      exact withinAt_ask_bind (hAsk operand _ (by simp [hData, SimIRNodeData.operands]) hGrid.2)
        fun _ => withinAt_ofExcept _
  | floor operand =>
      exact withinAt_ask_bind (hAsk operand _ (by simp [hData, SimIRNodeData.operands]) hGrid.2)
        fun _ => withinAt_pure _
  | coord field axis => exact withinAt_pure _
  | stateful spec => exact withinAt_act ⟨spec, hData, rfl⟩

/-- Lanes in the grid of a well-formed builder form an acyclic graph. -/
theorem ranked_backendCpuRules (hBuilder : kernel.builder.WellFormed) (fields : Fields D)
    (reference : SimField D) :
    Ranked (backendCpuRules kernel fields reference) (InGrid kernel) (·.1) := by
  intro elementIndex lane hGrid _
  simp only [backendCpuRules]
  cases hNode : kernel.builder.node? lane.1 with
  | none => trivial
  | some node =>
      exact (withinAt_backendCpuEvalNode hBuilder hGrid hNode elementIndex).within
        fun c asked hAsked =>
          ⟨hAsked.1.1, (hBuilder.nodes _ node hNode).operands_lt _ hAsked.1.2⟩

end Lanes

end Oakfield.Cpu
