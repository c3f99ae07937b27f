import Oakfield.Cpu.ComplexOperands
import Oakfield.KernelIR.EvalReal

/-! Real scalar expressions on the CPU backend against the real evaluator, when its
callbacks answer from the same fields and parameters. -/
namespace Oakfield.Cpu

open KernelIR CDouble Library.Memo

variable {D : Type} [CDouble D]

/-! ### The same inputs -/

/-- The operand at a neighbour, or the value in place of a missing one. -/
def neighborValue (value : ℕ → Option (Except SimError D)) (neighbor : SimNdNeighbor)
    (boundary : SimIRBoundaryPolicy) (center : D) : Option (Except SimError D) :=
  if neighbor.valid then value neighbor.index
  else if boundary = .dirichlet then some (.ok zero)
  else some (.ok center)

/-- The finite difference of an operand with the values `value` at an element. -/
def IsDifference (reference : SimField D) (spec : SimIRDiff D) (elementIndex : ℕ)
    (value : ℕ → Option (Except SimError D)) (center result : D) : Prop :=
  ∃ neighbors, simNdAxisNeighbors reference elementIndex spec.axis spec.boundary = .ok neighbors ∧
    ∃ forward, neighborValue value neighbors.forward spec.boundary center = some (.ok forward) ∧
      ∃ backward, neighborValue value neighbors.backward spec.boundary center =
        some (.ok backward) ∧
          mul (backendCpuDerivative spec.method neighbors spec.dx center forward backward)
            spec.scale = result

/-- The callbacks at each element answer from the fields and parameters of a kernel.
The differences are those of the evaluator's own values at the neighbours. -/
structure SameInputs (kernel : Kernel D) (fields : Fields D) (reference : SimField D)
    (evaluator : ℕ → SimIREvaluator D) : Prop where
  fieldValue : ∀ elementIndex field type,
    (viaCallback (evaluator elementIndex).fieldValue fun callback => callback field type) =
      backendCpuFieldValueComponent kernel fields elementIndex field 0
  paramValue : ∀ elementIndex kind,
    (viaCallback (evaluator elementIndex).paramValue fun callback => callback kind) =
      match kernel.params[kind.index]? with
      | none => .error .notFound
      | some value => .ok value
  noise : ∀ elementIndex id node spec, kernel.builder.node? id = some node →
    node.data = .noise spec →
      (viaCallback (evaluator elementIndex).noise fun callback => callback node) =
        .ok (backendCpuNoiseSample kernel spec elementIndex 0)
  differential : ∀ elementIndex id node spec center result, kernel.builder.node? id = some node →
    node.data = .diff spec →
      ((viaCallback (evaluator elementIndex).differential fun callback =>
          callback kernel.builder node spec.operand center) = .ok result ↔
        IsDifference reference spec elementIndex
          (fun neighbor => simIrEvaluate kernel.builder spec.operand (evaluator neighbor)) center
          result)

/-! ### Agreement -/

def IsRealScalar (builder : SimIRBuilder D) (id : SimIRNodeId) : Prop :=
  ∃ node, builder.node? id = some node ∧ node.valueType.isRealScalar = true

section

variable (kernel : Kernel D) (fields : Fields D) (reference : SimField D)
  (reply : StatefulRequest → Except SimError D) (evaluator : ℕ → SimIREvaluator D)

/-- At every element both evaluators succeed with the same value, or both fail. -/
def SameResult (id : SimIRNodeId) : Prop :=
  ∀ elementIndex value,
    simIrEvaluate kernel.builder id (evaluator elementIndex) = some (.ok value) ↔
      cpuLane kernel fields reference reply elementIndex id = some (.ok value)

/-- The real scalar subexpressions of an expression have the same results. -/
def RefinesReal (root : SimIRNodeId) : Prop :=
  ∀ id, kernel.builder.Reaches root id → IsRealScalar kernel.builder id →
    SameResult kernel fields reference reply evaluator id

/-- Where the backend does more than the evaluator: the callback of a stateful node fails,
and so does a warp or a difference of an operand which is not a real scalar. -/
def FailsAlike (node : SimIRNode D) : Prop :=
  match node.data with
  | .stateful spec => ∀ elementIndex value,
      reply ⟨spec.eval, spec.userdata, elementIndex, 0⟩ ≠ .ok value
  | .warp spec => IsRealScalar kernel.builder spec.operand ∨
      ∀ elementIndex sample value,
        cpuLane kernel fields reference reply elementIndex spec.operand = some (.ok sample) →
          spec.response sample ≠ .ok value
  | .diff spec => IsRealScalar kernel.builder spec.operand ∨
      ∀ elementIndex center value,
        cpuLane kernel fields reference reply elementIndex spec.operand = some (.ok center) →
          ¬ IsDifference reference spec elementIndex
            (cpuLane kernel fields reference reply · spec.operand) center value
  | _ => True

end

/-- An expression without `sinh`. -/
def AvoidsSinh (builder : SimIRBuilder D) (root : SimIRNodeId) : Prop :=
  ∀ id node operand, builder.Reaches root id → builder.node? id = some node →
    node.data ≠ .call .sinh operand

/-! ### One node -/

section Core

variable {builder : SimIRBuilder D} {evaluator : SimIREvaluator D} {id : SimIRNodeId}
  {node : SimIRNode D}

/-- The type check of the root is that of every node. -/
theorem simIrEvaluate_eq_evaluateNodes (hBuilder : builder.WellFormed)
    (hNode : builder.node? id = some node) :
    simIrEvaluate builder id evaluator =
      evaluateNodes builder (simIrEvaluateImpl builder evaluator) id := by
  rw [simIrEvaluate, hNode]
  by_cases hReal : node.valueType.isRealScalar = true
  case pos => simp [hReal]
  case neg =>
    rw [evaluateNodes_eq hBuilder (asksOperands_simIrEvaluateImpl builder evaluator) trivial hNode]
    simp [simIrEvaluateImpl, hReal]

theorem simIrEvaluate_eq (hBuilder : builder.WellFormed) (hNode : builder.node? id = some node) :
    simIrEvaluate builder id evaluator =
      (simIrEvaluateImpl builder evaluator node).interpret
        (fun _ operand => simIrEvaluate builder operand evaluator) (fun e => nomatch e) () := by
  rw [simIrEvaluate_eq_evaluateNodes hBuilder hNode,
    evaluateNodes_eq hBuilder (asksOperands_simIrEvaluateImpl builder evaluator) trivial hNode]
  apply Program.interpret_congr _ _ _ (within_simIrEvaluateImpl builder evaluator node)
  intro _ operand hMem
  have hLt := (hBuilder.nodes id node hNode).operands_lt operand hMem
  have hSome := SimIRBuilder.node?_isSome.mpr (hLt.trans (SimIRBuilder.lt_count_of_node? hNode))
  obtain ⟨inner, hInner⟩ := Option.isSome_iff_exists.mp hSome
  exact (simIrEvaluate_eq_evaluateNodes hBuilder hInner).symm

/-- An expression of another type is refused. -/
theorem simIrEvaluate_ne_ok (hOther : ¬ IsRealScalar builder id) (value : D) :
    simIrEvaluate builder id evaluator ≠ some (.ok value) := by
  unfold simIrEvaluate
  cases hNode : builder.node? id with
  | none => simp
  | some node =>
      have hReal : node.valueType.isRealScalar = false := by
        rw [← Bool.not_eq_true]
        exact fun hReal => hOther ⟨node, hNode, hReal⟩
      simp [hReal]

end Core

theorem IsDifference.congr {reference : SimField D} {spec : SimIRDiff D} {elementIndex : ℕ}
    {value value' : ℕ → Option (Except SimError D)} {center result : D}
    (hSame : ∀ n v, value n = some (.ok v) ↔ value' n = some (.ok v)) :
    IsDifference reference spec elementIndex value center result ↔
      IsDifference reference spec elementIndex value' center result := by
  have hNeighbor : ∀ neighbor v, neighborValue value neighbor spec.boundary center =
      some (.ok v) ↔ neighborValue value' neighbor spec.boundary center = some (.ok v) := by
    intro neighbor v
    unfold neighborValue
    split
    · exact hSame _ _
    · rfl
  simp only [IsDifference, hNeighbor]

section Lane

variable {kernel : Kernel D} {fields : Fields D} {reference : SimField D}
  {reply : StatefulRequest → Except SimError D} {evaluator : ℕ → SimIREvaluator D}
  {root id : SimIRNodeId} {node : SimIRNode D}

theorem interpret_neighborValue (elementIndex : ℕ) (neighbor : SimNdNeighbor)
    (boundary : SimIRBoundaryPolicy) (operand : SimIRNodeId) (center : D) :
    (backendCpuNeighborValue neighbor boundary operand 0 center).interpret
        (meaning (backendCpuRules kernel fields reference) reply (·.1)) reply elementIndex =
      neighborValue (cpuLane kernel fields reference reply · operand) neighbor boundary center := by
  unfold backendCpuNeighborValue neighborValue
  split
  · exact interpret_askAt _ _ _ _ _
  · split <;> rfl

/-- The lane of a difference over the lanes of its operand. -/
theorem cpuLane_diff (hBuilder : kernel.builder.WellFormed)
    (hNode : kernel.builder.node? id = some node) {spec : SimIRDiff D}
    (hData : node.data = .diff spec) (elementIndex : ℕ) (value : D) :
    cpuLane kernel fields reference reply elementIndex id = some (.ok value) ↔
      ∃ center, cpuLane kernel fields reference reply elementIndex spec.operand =
        some (.ok center) ∧ IsDifference reference spec elementIndex
          (cpuLane kernel fields reference reply · spec.operand) center value := by
  have hTyped := (hBuilder.nodes id node hNode).typed
  rw [hData] at hTyped
  rw [cpuLane_eq hBuilder hNode, backendCpuEvalNode, hData]
  simp only [hTyped.2, Bool.false_eq_true, if_false, interpret_bind_ok_iff, interpret_ask,
    interpret_ofExcept,
    interpret_neighborValue, interpret_pure, IsDifference, Option.some.injEq, Except.ok.injEq]
  rfl

/-- At one node, once the real operands have the same results, only the cases in which the
evaluator fails are left. -/
theorem sameResult_iff (hBuilder : kernel.builder.WellFormed)
    (hInputs : SameInputs kernel fields reference evaluator)
    (hNode : kernel.builder.node? id = some node) (hReal : node.valueType.isRealScalar = true)
    (hSinh : ∀ operand, node.data ≠ .call .sinh operand)
    (hOperands : ∀ operand ∈ node.data.operands, IsRealScalar kernel.builder operand →
      SameResult kernel fields reference reply evaluator operand) :
    SameResult kernel fields reference reply evaluator id ↔
      FailsAlike kernel fields reference reply node := by
  have hWell := hBuilder.nodes id node hNode
  have hTyped := hWell.typed
  have hTypes : node.valueType.isScalar = true ∧ node.valueType.domain.isComplex = false ∧
      node.valueType.domain.isInteger = false := by
    simpa [SimIRType.isRealScalar, and_assoc] using hReal
  obtain ⟨hScalar, hComplex, hInteger⟩ := hTypes
  have hSame : ∀ operand ∈ node.data.operands,
      kernel.builder.typeOf? operand = some node.valueType → ∀ elementIndex value,
        simIrEvaluate kernel.builder operand (evaluator elementIndex) = some (.ok value) ↔
          cpuLane kernel fields reference reply elementIndex operand = some (.ok value) := by
    intro operand hMem hType
    obtain ⟨inner, hInner, hValueType⟩ := Option.map_eq_some_iff.mp hType
    exact hOperands operand hMem ⟨inner, hInner, by rwa [hValueType]⟩
  have hLane : ∀ elementIndex operand,
      meaning (backendCpuRules kernel fields reference) reply (·.1) elementIndex (operand, 0) =
        cpuLane kernel fields reference reply elementIndex operand := fun _ _ => rfl
  have hCore : ∀ elementIndex,
      simIrEvaluate kernel.builder id (evaluator elementIndex) = _ :=
    fun elementIndex => simIrEvaluate_eq hBuilder hNode
  have hCpu : ∀ elementIndex, cpuLane kernel fields reference reply elementIndex id = _ :=
    fun elementIndex => cpuLane_eq hBuilder hNode
  unfold SameResult FailsAlike
  simp only [hCore, simIrEvaluateImpl, hReal, Bool.not_true, Bool.false_eq_true, if_false]
  cases hData : node.data with
  | constant value =>
      have hStored : simIrConstantComponent kernel.builder node 0 =
          some (backendCpuConstantLane kernel.builder node.valueType value 0) := by
        rw [hData] at hTyped
        have hOne := hWell.normalized.isScalar_iff.mp hScalar
        rw [simIrConstantComponent, hData, backendCpuConstantLane, if_pos hScalar]
        cases hIndex : value.constantIndex with
        | none => simp [hScalar, hIndex]
        | some k =>
            have hPooled := hTyped.pooled k hIndex
            simp only [simIrSmallConstantCapacity] at hPooled
            omega
      simp [hCpu, backendCpuEvalNode, hData, hStored]
  | fieldRef field => simp [hCpu, backendCpuEvalNode, hData, hInputs.fieldValue]
  | binary op lhs rhs =>
      rw [hData] at hTyped hSame
      have hLhs := hSame lhs (by simp [SimIRNodeData.operands]) hTyped.1
      have hRhs := hSame rhs (by simp [SimIRNodeData.operands]) hTyped.2.1
      simp only [hCpu, backendCpuEvalNode, hData, hComplex, Bool.false_and, Bool.false_eq_true,
        if_false, interpret_bind_ok_iff, interpret_ask, hLhs, hRhs, hLane, interpret_pure]
      exact iff_of_true (fun _ _ => Iff.rfl) trivial
  | diff spec =>
      have hMem : spec.operand ∈ node.data.operands := by simp [hData, SimIRNodeData.operands]
      have hDifference := fun elementIndex center value =>
        hInputs.differential elementIndex id node spec center value hNode hData
      simp only [cpuLane_diff hBuilder hNode hData, interpret_bind_ok_iff, interpret_ask,
        interpret_ofExcept, Option.some.injEq, hDifference]
      by_cases hOperand : IsRealScalar kernel.builder spec.operand
      case pos =>
        have hLanes := hOperands _ hMem hOperand
        simp only [hOperand, true_or, iff_true]
        intro elementIndex value
        apply exists_congr
        intro center
        rw [hLanes elementIndex center]
        exact and_congr_right' (IsDifference.congr hLanes)
      case neg =>
        simp only [simIrEvaluate_ne_ok hOperand, false_and, exists_false, false_iff, hOperand,
          false_or, not_exists, not_and]
        exact forall_congr' fun _ => forall_comm
  | noise spec =>
      simp [hCpu, backendCpuEvalNode, hData, hInputs.noise _ id node spec hNode hData]
  | warp spec =>
      have hMem : spec.operand ∈ node.data.operands := by simp [hData, SimIRNodeData.operands]
      simp only [hCpu, backendCpuEvalNode, hData, interpret_bind_ok_iff, interpret_ask,
        interpret_ofExcept, Option.some.injEq, hLane]
      by_cases hOperand : IsRealScalar kernel.builder spec.operand
      case pos =>
        have hLanes := hOperands _ hMem hOperand
        simp only [hOperand, true_or, iff_true]
        intro elementIndex value
        apply exists_congr
        intro sample
        rw [hLanes elementIndex sample]
      case neg =>
        simp only [simIrEvaluate_ne_ok hOperand, false_and, exists_false, false_iff, hOperand,
          false_or, not_exists, not_and]
        exact forall_congr' fun _ => forall_comm
  | param kind =>
      simp only [hCpu, backendCpuEvalNode, hData, interpret_ofExcept, hInputs.paramValue]
      cases kernel.params[kind.index]? <;> simp
  | complexPack real imag =>
      rw [hData] at hTyped
      rw [hTyped.1] at hComplex
      exact absurd hComplex (by decide)
  | complexRotate operand angle =>
      rw [hData] at hTyped
      have hOne := hWell.normalized.isScalar_iff.mp hScalar
      exact absurd (hTyped.2.1.symm.trans hOne) (by decide)
  | index =>
      rw [hData] at hTyped
      rw [show node.valueType = _ from hTyped] at hInteger
      exact absurd hInteger (by decide)
  | call kind operand =>
      rw [hData] at hTyped hSame
      have hOperand := hSame operand (by simp [SimIRNodeData.operands]) hTyped.1
      have hKnown : ∀ value : D, backendCpuCall kind value = .ok (simIrRealCall kind value) := by
        intro value
        cases kind with
        | sinh => exact absurd hData (hSinh operand)
        | _ => rfl
      simp only [hCpu, backendCpuEvalNode, hData, interpret_bind_ok_iff, interpret_ask, hOperand,
        hLane, interpret_pure, interpret_ofExcept, hKnown, implies_true]
  | floor operand =>
      rw [hData] at hTyped hSame
      have hOperand := hSame operand (by simp [SimIRNodeData.operands]) hTyped.1
      simp only [hCpu, backendCpuEvalNode, hData, interpret_bind_ok_iff, interpret_ask, hOperand,
        hLane, interpret_pure, implies_true]
  | coord field axis =>
      rw [hData] at hTyped
      rw [show node.valueType = _ from hTyped] at hInteger
      exact absurd hInteger (by decide)
  | stateful spec => simp [hCpu, backendCpuEvalNode, hData]

end Lane

/-! ### All expressions -/

/-- Without `sinh`, the backend refines the evaluator on the real scalar subexpressions of an
expression exactly if the nodes which the evaluator refuses fail on the backend as well. -/
theorem refinesReal_iff (kernel : Kernel D) (hBuilt : Built kernel.builder) (fields : Fields D)
    (reference : SimField D) (reply : StatefulRequest → Except SimError D)
    (evaluator : ℕ → SimIREvaluator D) (hInputs : SameInputs kernel fields reference evaluator)
    (root : SimIRNodeId) (hSinh : AvoidsSinh kernel.builder root) :
    RefinesReal kernel fields reference reply evaluator root ↔
      ∀ id node, kernel.builder.Reaches root id → kernel.builder.node? id = some node →
        node.valueType.isRealScalar = true → FailsAlike kernel fields reference reply node := by
  have hBuilder := hBuilt.wellFormed
  have hReached : ∀ {id node operand}, kernel.builder.Reaches root id →
      kernel.builder.node? id = some node → operand ∈ node.data.operands →
        kernel.builder.Reaches root operand :=
    fun hReaches hNode hMem => hReaches.tail ⟨_, hNode, hMem⟩
  constructor
  case mp =>
    intro hAll id node hReaches hNode hReal
    apply (sameResult_iff hBuilder hInputs hNode hReal (fun _ => hSinh id node _ hReaches hNode)
      _).mp (hAll id hReaches ⟨node, hNode, hReal⟩)
    exact fun operand hMem hOperand => hAll operand (hReached hReaches hNode hMem) hOperand
  case mpr =>
    intro hFails id
    induction id using Nat.strong_induction_on with
    | _ id ih =>
        rintro hReaches ⟨node, hNode, hReal⟩
        apply (sameResult_iff hBuilder hInputs hNode hReal
          (fun _ => hSinh id node _ hReaches hNode) _).mpr (hFails id node hReaches hNode hReal)
        intro operand hMem hOperand
        exact ih operand ((hBuilder.nodes id node hNode).operands_lt operand hMem)
          (hReached hReaches hNode hMem) hOperand

/-- Callbacks which read the fields and parameters of a kernel without differences. -/
def kernelEvaluator (kernel : Kernel D) (fields : Fields D) (elementIndex : ℕ) :
    SimIREvaluator D where
  fieldValue := some fun field _ => backendCpuFieldValueComponent kernel fields elementIndex field 0
  differential := none
  noise := some fun node =>
    match node.data with
    | .noise spec => .ok (backendCpuNoiseSample kernel spec elementIndex 0)
    | _ => .error .invalidArgument
  paramValue := some fun kind =>
    match kernel.params[kind.index]? with
    | none => .error .notFound
    | some value => .ok value

theorem sameInputs_kernelEvaluator {kernel : Kernel D} (fields : Fields D) (reference : SimField D)
    (hDiff : ∀ id node spec, kernel.builder.node? id = some node → node.data ≠ .diff spec) :
    SameInputs kernel fields reference (kernelEvaluator kernel fields) where
  fieldValue _ _ _ := rfl
  paramValue _ _ := rfl
  noise _ _ _ _ _ hData := by simp [kernelEvaluator, viaCallback, hData]
  differential _ id node spec _ _ hNode hData := absurd hData (hDiff id node spec hNode)

/-- A constant plus the answer of a stateful node. -/
def statefulSum : Kernel ℤ where
  builder := BuilderCall.runAll [.constant 2, .stateful (some 0) 0 0, .binary .add 0 1]
  bindings := []
  outputs := [⟨0, 2⟩]
  params := []
  complexSemantics := .componentwise

def sevenReply : StatefulRequest → Except SimError ℤ := fun _ => .ok 7

theorem statefulSum_data {id : SimIRNodeId} {node : SimIRNode ℤ}
    (hNode : statefulSum.builder.node? id = some node) :
    (∃ value, node.data = .constant value) ∨ (∃ spec, node.data = .stateful spec) ∨
      node.data = .binary .add 0 1 := by
  match id, hNode with
  | 0, hNode => cases hNode; exact .inl ⟨_, rfl⟩
  | 1, hNode => cases hNode; exact .inr (.inl ⟨_, rfl⟩)
  | 2, hNode => cases hNode; exact .inr (.inr rfl)

theorem sameInputs_statefulSum : SameInputs statefulSum (fun _ => complexField) complexField
    (kernelEvaluator statefulSum fun _ => complexField) := by
  apply sameInputs_kernelEvaluator
  intro id node spec hNode hData
  obtain ⟨value, hOther⟩ | ⟨spec, hOther⟩ | hOther := statefulSum_data hNode <;>
    cases hData.symm.trans hOther

/-- The backend adds the answer of the callback, and the evaluator refuses the node. -/
theorem statefulSum_not_refinesReal :
    SameInputs statefulSum (fun _ => complexField) complexField
        (kernelEvaluator statefulSum fun _ => complexField) ∧
      simIrEvaluate statefulSum.builder 2
        (kernelEvaluator statefulSum (fun _ => complexField) 0) =
          some (.error .invalidArgument) ∧
      cpuLane statefulSum (fun _ => complexField) complexField sevenReply 0 2 = some (.ok 9) ∧
      ¬ RefinesReal statefulSum (fun _ => complexField) complexField sevenReply
        (kernelEvaluator statefulSum fun _ => complexField) 2 := by
  have hCore : simIrEvaluate statefulSum.builder 2
      (kernelEvaluator statefulSum (fun _ => complexField) 0) =
        some (.error .invalidArgument) := by decide
  have hCpu : cpuLane statefulSum (fun _ => complexField) complexField sevenReply 0 2 =
      some (.ok 9) := by decide
  refine ⟨sameInputs_statefulSum, hCore, hCpu, fun hRefines => ?_⟩
  have hSame := (hRefines 2 .refl ⟨_, rfl, by decide⟩ 0 9).mpr hCpu
  rw [hCore] at hSame
  cases hSame

theorem refinesReal_statefulSum :
    RefinesReal statefulSum (fun _ => complexField) complexField sevenReply
        (kernelEvaluator statefulSum fun _ => complexField) 2 ↔
      ∀ id node, statefulSum.builder.Reaches 2 id → statefulSum.builder.node? id = some node →
        node.valueType.isRealScalar = true →
          FailsAlike statefulSum (fun _ => complexField) complexField sevenReply node := by
  apply refinesReal_iff statefulSum (built_runAll _) _ _ _ _ sameInputs_statefulSum
  intro id node operand _ hNode hData
  obtain ⟨value, hOther⟩ | ⟨spec, hOther⟩ | hOther := statefulSum_data hNode <;>
    cases hData.symm.trans hOther

end Oakfield.Cpu
