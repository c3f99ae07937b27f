import Oakfield.KernelIR.Builder

/-! Every graph which a sequence of builder calls can produce, and what holds of
all of its nodes. -/
namespace Oakfield.KernelIR

open CDouble

variable {D : Type} [CDouble D]

/-- Calls which append a node. -/
inductive BuilderCall (D : Type) where
  | constant (value : D)
  | constantTyped (value : D) (type : SimIRType)
  | constantI64Typed (value : Word) (type : SimIRType)
  | constantU64Typed (value : Word) (type : SimIRType)
  | constantVector (values : List D)
  | constantVectorTyped (values : List D) (type : SimIRType)
  | constantComplex (real imag : D)
  | param (kind : Option SimIRParamKind)
  | index
  | coord (field axis : ℕ)
  | fieldRef (field : ℕ)
  | fieldRefTyped (field : ℕ) (type : SimIRType)
  | noise (seed : BitVec 32) (amplitude : D)
  | noiseSpec (spec : Option (SimIRNoiseSpec D))
  | stateful (eval : Option ℕ) (userdata label : ℕ)
  | statefulSpec (spec : SimIRStatefulSpec)
  | call (kind : Option SimIRCallKind) (operand : SimIRNodeId)
  | floor (operand : SimIRNodeId)
  | mod (lhs rhs : SimIRNodeId)
  | binary (op : SimIRBinaryOp) (lhs rhs : SimIRNodeId)
  | pow (lhs rhs : SimIRNodeId)
  | diff (operand : SimIRNodeId) (axis : ℕ) (dx scale : D)
  | diffSpec (spec : SimIRDiffSpec D)
  | warp (operand : SimIRNodeId) (profile : Option SimIRWarpProfile) (bias delta lambda : D)
  | warpSpec (spec : SimIRWarpSpec D)
  | complexRotate (operand angle : SimIRNodeId)
  | complexPack (real imag : SimIRNodeId)

def BuilderCall.run (builder : SimIRBuilder D) :
    BuilderCall D → Option (SimIRNodeId × SimIRBuilder D)
  | .constant value => simIrBuilderConstant builder value
  | .constantTyped value type => simIrBuilderConstantTyped builder value type
  | .constantI64Typed value type => simIrBuilderConstantI64Typed builder value type
  | .constantU64Typed value type => simIrBuilderConstantU64Typed builder value type
  | .constantVector values => simIrBuilderConstantVector builder values
  | .constantVectorTyped values type => simIrBuilderConstantVectorTyped builder values type
  | .constantComplex real imag => simIrBuilderConstantComplex builder real imag
  | .param kind => simIrBuilderParam builder kind
  | .index => some (simIrBuilderIndex builder)
  | .coord field axis => some (simIrBuilderCoord builder field axis)
  | .fieldRef field => some (simIrBuilderFieldRef builder field)
  | .fieldRefTyped field type => some (simIrBuilderFieldRefTyped builder field type)
  | .noise seed amplitude => simIrBuilderNoise builder seed amplitude
  | .noiseSpec spec => simIrBuilderNoiseSpec builder spec
  | .stateful eval userdata label => simIrBuilderStateful builder eval userdata label
  | .statefulSpec spec => simIrBuilderStatefulSpec builder spec
  | .call kind operand => simIrBuilderCall builder kind operand
  | .floor operand => simIrBuilderFloor builder operand
  | .mod lhs rhs => simIrBuilderMod builder lhs rhs
  | .binary op lhs rhs => simIrBuilderBinary builder op lhs rhs
  | .pow lhs rhs => simIrBuilderPow builder lhs rhs
  | .diff operand axis dx scale => simIrBuilderDiff builder operand axis dx scale
  | .diffSpec spec => simIrBuilderDiffSpec builder spec
  | .warp operand profile bias delta lambda =>
      simIrBuilderWarp builder operand profile bias delta lambda
  | .warpSpec spec => simIrBuilderWarpSpec builder spec
  | .complexRotate operand angle => simIrBuilderComplexRotate builder operand angle
  | .complexPack real imag => simIrBuilderComplexPack builder real imag

/-- One call on a builder. A call which is rejected, or which cannot allocate,
changes nothing, except that a pool entry may have been added before the node
could not be. -/
inductive BuilderStep : SimIRBuilder D → SimIRBuilder D → Prop where
  | constructed {builder builder' : SimIRBuilder D} {id : SimIRNodeId} (call : BuilderCall D)
      (hRun : call.run builder = some (id, builder')) : BuilderStep builder builder'
  | refused (builder : SimIRBuilder D) : BuilderStep builder builder
  | pooledOnly (builder : SimIRBuilder D) (values : List D) :
      BuilderStep builder (simIrBuilderPoolPush builder values)
  | reset (builder : SimIRBuilder D) : BuilderStep builder (simIrBuilderReset builder)
  | setDefaultBoundary (builder : SimIRBuilder D) (boundary : Option SimIRBoundaryPolicy) :
      BuilderStep builder (simIrBuilderSetDefaultBoundary builder boundary)
  | setNodeWarpClass (builder : SimIRBuilder D) (id : SimIRNodeId)
      (warpClass : Option SimWarpLevel) :
      BuilderStep builder (simIrBuilderSetNodeWarpClass builder id warpClass)
  | applyOpcode (builder : SimIRBuilder D) (opcode : Option SimIROpcode)
      (preserveExisting : Bool) :
      BuilderStep builder (simIrBuilderApplyOpcode builder opcode preserveExisting)
  | applyOpcodeReachable (builder : SimIRBuilder D) (opcode : Option SimIROpcode)
      (preserveExisting : Bool) (roots : List SimIRNodeId) :
      BuilderStep builder
        (simIrBuilderApplyOpcodeReachable builder opcode preserveExisting roots)

/-- Builders which a sequence of calls reaches from `sim_ir_builder_init`. -/
inductive Built : SimIRBuilder D → Prop where
  | init : Built simIrBuilderInit
  | step {builder builder' : SimIRBuilder D} (prior : Built builder)
      (last : BuilderStep builder builder') : Built builder'

/-- The builder after a list of appending calls, of which the rejected ones
change nothing. -/
def BuilderCall.runAll (calls : List (BuilderCall D)) : SimIRBuilder D :=
  calls.foldl (fun builder call =>
    match call.run builder with
    | some (_, builder') => builder'
    | none => builder) simIrBuilderInit

theorem Built.foldl {builder : SimIRBuilder D} (hBuilt : Built builder)
    (calls : List (BuilderCall D)) :
    Built (calls.foldl (fun builder call =>
      match call.run builder with
      | some (_, builder') => builder'
      | none => builder) builder) := by
  induction calls generalizing builder with
  | nil => exact hBuilt
  | cons call calls ih =>
      rw [List.foldl_cons]
      refine ih ?_
      cases hRun : call.run builder with
      | none => exact hBuilt
      | some grown => exact hBuilt.step (.constructed call hRun)

theorem built_runAll (calls : List (BuilderCall D)) : Built (BuilderCall.runAll calls) :=
  Built.init.foldl calls

/-! ### Well-formed graphs -/

def SimIRBuilder.typeOf? (builder : SimIRBuilder D) (id : SimIRNodeId) : Option SimIRType :=
  (builder.node? id).map (·.valueType)

/-- A stored constant: integers are exact, and pool entries are wide enough. -/
structure SimIRConstant.Fits (builder : SimIRBuilder D) (value : SimIRConstant D)
    (type : SimIRType) : Prop where
  exact : type.domain.isInteger = true →
    type.isScalar = true ∧ value.exactInteger = true ∧ value.constantIndex = none
  small : value.small.length = simIrSmallConstantCapacity
  pooled : ∀ k : ℕ, value.constantIndex = some k →
    builder.constantsComponents[k]? = some type.components ∧ simIrSmallConstantCapacity <
      type.components

/-- The type of a node in terms of the types of its operands. -/
def SimIRNodeData.Typed (builder : SimIRBuilder D) (type : SimIRType) : SimIRNodeData D → Prop
  | .constant value => value.Fits builder type
  | .fieldRef _ => True
  | .binary op lhs rhs =>
      builder.typeOf? lhs = some type ∧ builder.typeOf? rhs = some type ∧
        type.domain.supports op.capability = true ∧ (op = .mod → type.isScalar = true)
  | .diff spec => (builder.typeOf? spec.operand).isSome = true ∧ le spec.dx zero = false
  | .noise _ => True
  | .warp spec => (∃ operandType, builder.typeOf? spec.operand = some operandType ∧
      operandType.isScalar = true) ∧ type.isScalar = true
  | .param kind => type = kind.valueType
  | .complexPack real imag => type = simIrTypeComplex ∧
      (∀ id, id = real ∨ id = imag → ∃ laneType, builder.typeOf? id = some laneType ∧
        laneType.isScalar = true ∧ laneType.domain.isComplex = false ∧
        laneType.domain.supports .additiveArithmetic = true)
  | .complexRotate operand angle =>
      builder.typeOf? operand = some type ∧ type.components = 2 ∧
        type.domain.supports .complexRotation = true ∧
        ∃ angleType, builder.typeOf? angle = some angleType ∧ angleType.isScalar = true ∧
          angleType.domain.supports .ordering = true
  | .index => type = simIrTypeScalarDomainTyped simScalarDomainU64
  | .call _ operand => builder.typeOf? operand = some type ∧
      type.domain.supports .analyticCall = true
  | .floor operand => builder.typeOf? operand = some type ∧ type.isScalar = true ∧
      type.domain.supports .floor = true
  | .coord _ _ => type = simIrTypeScalarDomainTyped simScalarDomainU64
  | .stateful _ => True

structure SimIRNode.WellFormed (builder : SimIRBuilder D) (id : SimIRNodeId)
    (node : SimIRNode D) : Prop where
  id_eq : node.id = id
  operands_lt : ∀ operand ∈ node.data.operands, operand < id
  normalized : node.valueType.Normalized
  typed : node.data.Typed builder node.valueType

/-- The pool tables agree, and every entry lies in the used part of the data. -/
structure SimIRBuilder.PoolWellFormed (builder : SimIRBuilder D) : Prop where
  length_eq : builder.constantsOffsets.length = builder.constantsComponents.length
  bounded : ∀ (k offset components : ℕ), builder.constantsOffsets[k]? = some offset →
    builder.constantsComponents[k]? = some components →
      offset + components ≤ builder.constantsData.length

structure SimIRBuilder.WellFormed (builder : SimIRBuilder D) : Prop where
  nodes : ∀ id node, builder.node? id = some node → node.WellFormed builder id
  pool : builder.PoolWellFormed

/-! ### Growth -/

/-- Every node keeps its type and every pool entry its width. -/
structure Extends (builder builder' : SimIRBuilder D) : Prop where
  typeOf : ∀ id type, builder.typeOf? id = some type → builder'.typeOf? id = some type
  components : ∀ k components : ℕ, builder.constantsComponents[k]? = some components →
    builder'.constantsComponents[k]? = some components

variable {builder builder' : SimIRBuilder D}

theorem SimIRNodeData.Typed.mono (hExt : Extends builder builder') {type : SimIRType}
    {data : SimIRNodeData D} (hTyped : data.Typed builder type) : data.Typed builder' type := by
  cases data with
  | constant value =>
      exact ⟨hTyped.exact, hTyped.small, fun k hIndex =>
        ⟨hExt.components _ _ (hTyped.pooled k hIndex).1, (hTyped.pooled k hIndex).2⟩⟩
  | fieldRef field => trivial
  | binary op lhs rhs =>
      exact ⟨hExt.typeOf _ _ hTyped.1, hExt.typeOf _ _ hTyped.2.1, hTyped.2.2⟩
  | diff spec =>
      obtain ⟨operandType, hOperand⟩ := Option.isSome_iff_exists.mp hTyped.1
      exact ⟨by rw [hExt.typeOf _ _ hOperand]; rfl, hTyped.2⟩
  | noise spec => trivial
  | warp spec =>
      obtain ⟨⟨operandType, hOperand, hScalar⟩, hResult⟩ := hTyped
      exact ⟨⟨operandType, hExt.typeOf _ _ hOperand, hScalar⟩, hResult⟩
  | param param => exact hTyped
  | complexPack real imag =>
      refine ⟨hTyped.1, fun id hId => ?_⟩
      obtain ⟨laneType, hLane, hRest⟩ := hTyped.2 id hId
      exact ⟨laneType, hExt.typeOf _ _ hLane, hRest⟩
  | complexRotate operand angle =>
      obtain ⟨hOperand, hLanes, hRotate, angleType, hAngle, hRest⟩ := hTyped
      exact ⟨hExt.typeOf _ _ hOperand, hLanes, hRotate, angleType, hExt.typeOf _ _ hAngle, hRest⟩
  | index => exact hTyped
  | call kind operand => exact ⟨hExt.typeOf _ _ hTyped.1, hTyped.2⟩
  | floor operand => exact ⟨hExt.typeOf _ _ hTyped.1, hTyped.2⟩
  | coord field axis => exact hTyped
  | stateful spec => trivial

theorem SimIRNode.WellFormed.mono (hExt : Extends builder builder') {id : SimIRNodeId}
    {node : SimIRNode D} (hNode : node.WellFormed builder id) : node.WellFormed builder' id :=
  { hNode with typed := hNode.typed.mono hExt }

omit [CDouble D] in
theorem lt_count_of_typeOf? {id : SimIRNodeId} {type : SimIRType}
    (hType : builder.typeOf? id = some type) : id < builder.count := by
  rw [SimIRBuilder.typeOf?, Option.map_eq_some_iff] at hType
  obtain ⟨node, hNode, -⟩ := hType
  exact SimIRBuilder.lt_count_of_node? hNode

/-- Operands of a typed payload are nodes of the builder. -/
theorem SimIRNodeData.Typed.operands_lt {type : SimIRType} {data : SimIRNodeData D}
    (hTyped : data.Typed builder type) : ∀ operand ∈ data.operands, operand < builder.count := by
  intro operand hMem
  cases data with
  | constant value => simp [SimIRNodeData.operands] at hMem
  | fieldRef field => simp [SimIRNodeData.operands] at hMem
  | binary op lhs rhs =>
      simp only [SimIRNodeData.operands, List.mem_cons, List.not_mem_nil, or_false] at hMem
      rcases hMem with rfl | rfl
      · exact lt_count_of_typeOf? hTyped.1
      · exact lt_count_of_typeOf? hTyped.2.1
  | diff spec =>
      obtain ⟨operandType, hOperand⟩ := Option.isSome_iff_exists.mp hTyped.1
      rw [SimIRNodeData.operands, List.mem_singleton] at hMem
      exact hMem ▸ lt_count_of_typeOf? hOperand
  | noise spec => simp [SimIRNodeData.operands] at hMem
  | warp spec =>
      obtain ⟨⟨operandType, hOperand, -⟩, -⟩ := hTyped
      rw [SimIRNodeData.operands, List.mem_singleton] at hMem
      exact hMem ▸ lt_count_of_typeOf? hOperand
  | param param => simp [SimIRNodeData.operands] at hMem
  | complexPack real imag =>
      simp only [SimIRNodeData.operands, List.mem_cons, List.not_mem_nil, or_false] at hMem
      obtain ⟨laneType, hLane, -⟩ := hTyped.2 operand hMem
      exact lt_count_of_typeOf? hLane
  | complexRotate operand' angle =>
      obtain ⟨hOperand, -, -, angleType, hAngle, -⟩ := hTyped
      simp only [SimIRNodeData.operands, List.mem_cons, List.not_mem_nil, or_false] at hMem
      rcases hMem with rfl | rfl
      · exact lt_count_of_typeOf? hOperand
      · exact lt_count_of_typeOf? hAngle
  | index => simp [SimIRNodeData.operands] at hMem
  | call kind operand' =>
      rw [SimIRNodeData.operands, List.mem_singleton] at hMem
      exact hMem ▸ lt_count_of_typeOf? hTyped.1
  | floor operand' =>
      rw [SimIRNodeData.operands, List.mem_singleton] at hMem
      exact hMem ▸ lt_count_of_typeOf? hTyped.1
  | coord field axis => simp [SimIRNodeData.operands] at hMem
  | stateful spec => simp [SimIRNodeData.operands] at hMem

section Append

variable (data : SimIRNodeData D) (type : SimIRType) (warpClass : SimWarpLevel) (isLocal : Bool)

omit [CDouble D] in
/-- An appended builder has its old nodes and, at the end, the new one. -/
theorem node?_append {id : SimIRNodeId} {node : SimIRNode D}
    (hNode : (simIrBuilderAppend builder data type warpClass isLocal).2.node? id = some node) :
    builder.node? id = some node ∨
      id = builder.count ∧ node = ⟨builder.count, data, type, .misc, warpClass, isLocal⟩ := by
  simp only [simIrBuilderAppend, SimIRBuilder.node?, List.getElem?_append] at hNode
  split at hNode
  case isTrue => exact Or.inl hNode
  case isFalse hGe =>
    right
    rw [List.getElem?_singleton] at hNode
    split at hNode
    case isTrue hZero =>
      refine ⟨?_, (Option.some.inj hNode).symm⟩
      exact Nat.le_antisymm (Nat.sub_eq_zero_iff_le.mp hZero) (Nat.not_lt.mp hGe)
    case isFalse => cases hNode

section Over

variable {base : SimIRBuilder D} (hNodes : base.nodes = builder.nodes)

include hNodes

omit [CDouble D] in
theorem node?_append_of_lt {id : SimIRNodeId} (hLt : id < builder.count) :
    (simIrBuilderAppend base data type warpClass isLocal).2.node? id = builder.node? id := by
  rw [SimIRBuilder.node?, simIrBuilderAppend, SimIRBuilder.node?, hNodes]
  exact List.getElem?_append_left hLt

omit [CDouble D] in
theorem node?_append_count :
    (simIrBuilderAppend base data type warpClass isLocal).2.node? builder.count =
      some ⟨builder.count, data, type, .misc, warpClass, isLocal⟩ := by
  rw [SimIRBuilder.node?, simIrBuilderAppend, SimIRBuilder.count, SimIRBuilder.count, hNodes]
  exact List.getElem?_concat_length

end Over

omit [CDouble D] in
theorem extends_append :
    Extends builder (simIrBuilderAppend builder data type warpClass isLocal).2 := by
  refine ⟨fun id type' hType => ?_, fun k components h => h⟩
  have hLt := lt_count_of_typeOf? hType
  simp only [SimIRBuilder.typeOf?, SimIRBuilder.node?, simIrBuilderAppend] at hType ⊢
  rwa [List.getElem?_append_left hLt]

/-- Appending a typed node keeps a graph well formed. -/
theorem SimIRBuilder.WellFormed.append (hBuilder : builder.WellFormed)
    (hNormal : type.Normalized) (hTyped : data.Typed builder type) :
    (simIrBuilderAppend builder data type warpClass isLocal).2.WellFormed := by
  have hExt : Extends builder (simIrBuilderAppend builder data type warpClass isLocal).2 :=
    extends_append data type warpClass isLocal
  refine ⟨fun id node hNode => ?_, ⟨hBuilder.pool.length_eq, hBuilder.pool.bounded⟩⟩
  rcases node?_append data type warpClass isLocal hNode with hOld | ⟨rfl, rfl⟩
  · exact (hBuilder.nodes id node hOld).mono hExt
  · exact ⟨rfl, hTyped.operands_lt, hNormal, hTyped.mono hExt⟩

end Append

theorem extends_poolPush (values : List D) :
    Extends builder (simIrBuilderPoolPush builder values) := by
  refine ⟨fun id type hType => hType, fun k components h => ?_⟩
  have hLt := (List.getElem?_eq_some_iff.mp h).1
  simp only [simIrBuilderPoolPush]
  rwa [List.getElem?_append_left hLt]

theorem SimIRBuilder.WellFormed.poolPush (hBuilder : builder.WellFormed) (values : List D) :
    (simIrBuilderPoolPush builder values).WellFormed := by
  refine ⟨fun id node hNode => (hBuilder.nodes id node hNode).mono (extends_poolPush values), ?_, ?_⟩
  · simp [simIrBuilderPoolPush, hBuilder.pool.length_eq]
  · intro k offset components hOffset hComponents
    simp only [simIrBuilderPoolPush] at hOffset hComponents ⊢
    rw [List.length_append, List.length_map]
    by_cases hOld : k < builder.constantsOffsets.length
    · rw [List.getElem?_append_left hOld] at hOffset
      rw [List.getElem?_append_left (hBuilder.pool.length_eq ▸ hOld)] at hComponents
      have := hBuilder.pool.bounded k offset components hOffset hComponents
      omega
    · rw [List.getElem?_append_right (by omega)] at hOffset
      rw [List.getElem?_append_right (by rw [← hBuilder.pool.length_eq]; omega)] at hComponents
      rw [List.getElem?_singleton] at hOffset hComponents
      split at hOffset
      case isFalse => cases hOffset
      case isTrue =>
        split at hComponents
        case isFalse => cases hComponents
        case isTrue =>
          cases hOffset
          cases hComponents
          exact le_refl _

/-! ### Constructors -/

/-- Stored types are normalised. -/
theorem SimIRBuilder.WellFormed.normalize_eq (hBuilder : builder.WellFormed) {id : SimIRNodeId}
    {node : SimIRNode D} (hNode : builder.node? id = some node) :
    node.valueType.normalize = node.valueType :=
  (hBuilder.nodes id node hNode).normalized

omit [CDouble D] in
theorem typeOf?_of_node? {id : SimIRNodeId} {node : SimIRNode D}
    (hNode : builder.node? id = some node) : builder.typeOf? id = some node.valueType := by
  rw [SimIRBuilder.typeOf?, hNode]
  rfl

/-- If a constructor returns a node, then the grown graph is well formed. -/
def YieldsWellFormed (result : Option (SimIRNodeId × SimIRBuilder D)) : Prop :=
  ∀ grown, result = some grown → grown.2.WellFormed

theorem yieldsWellFormed_none : YieldsWellFormed (none : Option (SimIRNodeId × SimIRBuilder D)) := by
  intro grown hResult
  cases hResult

theorem yieldsWellFormed_append (hBuilder : builder.WellFormed) {data : SimIRNodeData D}
    {type : SimIRType} {warpClass : SimWarpLevel} {isLocal : Bool} (hNormal : type.Normalized)
    (hTyped : data.Typed builder type) :
    YieldsWellFormed (some (simIrBuilderAppend builder data type warpClass isLocal)) := by
  intro grown hResult
  rw [← Option.some.inj hResult]
  exact hBuilder.append data type warpClass isLocal hNormal hTyped

theorem yieldsWellFormed_constantIntegerRawTyped (hBuilder : builder.WellFormed) (raw : Word)
    (type : SimIRType) :
    YieldsWellFormed (simIrBuilderConstantIntegerRawTyped builder raw type) := by
  unfold simIrBuilderConstantIntegerRawTyped
  dsimp only
  split
  case isTrue => exact yieldsWellFormed_none
  case isFalse hInteger =>
    have hScalar : type.normalize.isScalar = true := by
      simp only [Bool.or_eq_true, not_or, Bool.not_eq_true', Bool.not_eq_false] at hInteger
      exact hInteger.1
    refine yieldsWellFormed_append hBuilder type.normalized_normalize ⟨fun _ => ?_, rfl, ?_⟩
    · exact ⟨hScalar, rfl, rfl⟩
    · intro k hIndex
      cases hIndex

theorem yieldsWellFormed_constantTyped (hBuilder : builder.WellFormed) (value : D)
    (type : SimIRType) : YieldsWellFormed (simIrBuilderConstantTyped builder value type) := by
  unfold simIrBuilderConstantTyped
  dsimp only
  split
  case isTrue =>
    split
    · exact yieldsWellFormed_none
    · exact yieldsWellFormed_constantIntegerRawTyped hBuilder _ _
  case isFalse hReal =>
    refine yieldsWellFormed_append hBuilder type.normalized_normalize ⟨fun hInteger => ?_, rfl, ?_⟩
    · exact absurd (type.normalized_normalize.domain ▸ hInteger) hReal
    · intro k hIndex
      cases hIndex

theorem yieldsWellFormed_constantVectorTyped (hBuilder : builder.WellFormed) (values : List D)
    (type : SimIRType) : YieldsWellFormed (simIrBuilderConstantVectorTyped builder values type) := by
  unfold simIrBuilderConstantVectorTyped
  dsimp only
  split
  case isTrue => exact yieldsWellFormed_none
  case isFalse hShape =>
    have hLanes : type.normalize.components = values.length := by
      by_contra hNe
      exact hShape (Or.inr hNe)
    split
    case isTrue => exact yieldsWellFormed_none
    case isFalse hReal =>
      have hNotInteger : ¬type.normalize.domain.isInteger = true := by
        rwa [type.normalized_normalize.domain]
      split
      case isTrue hSmall =>
        refine yieldsWellFormed_append hBuilder type.normalized_normalize
          ⟨fun hInteger => absurd hInteger hNotInteger, ?_, ?_⟩
        · simp only [List.length_append, List.length_map, List.length_replicate]
          omega
        · intro k hIndex
          cases hIndex
      case isFalse hLarge =>
        split
        case h_1 k hFound =>
          have hMatch := List.find?_some hFound
          have hRange := List.mem_range.mp (List.mem_of_find?_eq_some hFound)
          refine yieldsWellFormed_append hBuilder type.normalized_normalize
            ⟨fun hInteger => absurd hInteger hNotInteger, rfl, fun k' hIndex => ?_⟩
          cases hIndex
          simp only [SimIRBuilder.poolMatches, Bool.and_eq_true, beq_iff_eq] at hMatch
          rw [List.getD_eq_getElem?_getD, List.getElem?_eq_getElem hRange] at hMatch
          exact ⟨by rw [List.getElem?_eq_getElem hRange, hLanes, ← hMatch.1]; rfl, by omega⟩
        case h_2 =>
          refine yieldsWellFormed_append (hBuilder.poolPush values) type.normalized_normalize
            ⟨fun hInteger => absurd hInteger hNotInteger, rfl, fun k' hIndex => ?_⟩
          cases hIndex
          refine ⟨?_, by omega⟩
          rw [hLanes]
          simp [simIrBuilderPoolPush]

theorem yieldsWellFormed_noiseSpec (hBuilder : builder.WellFormed)
    (spec : Option (SimIRNoiseSpec D)) : YieldsWellFormed (simIrBuilderNoiseSpec builder spec) := by
  unfold simIrBuilderNoiseSpec
  dsimp only
  split
  · exact yieldsWellFormed_none
  · exact yieldsWellFormed_append hBuilder (SimIRType.normalized_normalize _) trivial

theorem yieldsWellFormed_statefulSpec (hBuilder : builder.WellFormed) (spec : SimIRStatefulSpec) :
    YieldsWellFormed (simIrBuilderStatefulSpec builder spec) := by
  unfold simIrBuilderStatefulSpec
  split
  · exact yieldsWellFormed_none
  · exact yieldsWellFormed_append hBuilder (SimIRType.normalized_normalize _) trivial

theorem yieldsWellFormed_call (hBuilder : builder.WellFormed) (kind : Option SimIRCallKind)
    (operand : SimIRNodeId) : YieldsWellFormed (simIrBuilderCall builder kind operand) := by
  unfold simIrBuilderCall
  split
  case h_1 node kind hNode =>
    rw [hBuilder.normalize_eq hNode]
    dsimp only
    split
    case isTrue => exact yieldsWellFormed_none
    case isFalse hSupports =>
      exact yieldsWellFormed_append hBuilder (hBuilder.normalize_eq hNode)
        ⟨typeOf?_of_node? hNode, by simpa using hSupports⟩
  case h_2 => exact yieldsWellFormed_none

theorem yieldsWellFormed_floor (hBuilder : builder.WellFormed) (operand : SimIRNodeId) :
    YieldsWellFormed (simIrBuilderFloor builder operand) := by
  unfold simIrBuilderFloor
  split
  case h_1 => exact yieldsWellFormed_none
  case h_2 node hNode =>
    rw [hBuilder.normalize_eq hNode]
    dsimp only
    split
    case isTrue => exact yieldsWellFormed_none
    case isFalse hSupports =>
      simp only [Bool.or_eq_true, not_or, Bool.not_eq_true', Bool.not_eq_false] at hSupports
      exact yieldsWellFormed_append hBuilder (hBuilder.normalize_eq hNode)
        ⟨typeOf?_of_node? hNode, hSupports⟩

theorem yieldsWellFormed_mod (hBuilder : builder.WellFormed) (lhs rhs : SimIRNodeId) :
    YieldsWellFormed (simIrBuilderMod builder lhs rhs) := by
  unfold simIrBuilderMod
  split
  case h_1 left right hLeft hRight =>
    rw [hBuilder.normalize_eq hLeft, hBuilder.normalize_eq hRight]
    dsimp only
    split
    case isTrue => exact yieldsWellFormed_none
    case isFalse hOk =>
      simp only [Bool.or_eq_true, not_or, Bool.not_eq_true', Bool.not_eq_false] at hOk
      obtain ⟨⟨⟨⟨hScalar, hEqual⟩, hSupports⟩, -⟩, -⟩ := hOk
      rw [SimIRType.equal_iff, hBuilder.normalize_eq hLeft, hBuilder.normalize_eq hRight] at hEqual
      exact yieldsWellFormed_append hBuilder (hBuilder.normalize_eq hLeft)
        ⟨typeOf?_of_node? hLeft, by rw [typeOf?_of_node? hRight, hEqual], hSupports, fun _ => hScalar⟩
  case h_2 => exact yieldsWellFormed_none

theorem yieldsWellFormed_binary (hBuilder : builder.WellFormed) (op : SimIRBinaryOp)
    (lhs rhs : SimIRNodeId) : YieldsWellFormed (simIrBuilderBinary builder op lhs rhs) := by
  unfold simIrBuilderBinary
  split
  case isTrue => exact yieldsWellFormed_none
  case isFalse hOp =>
    split
    case h_1 left right hLeft hRight =>
      rw [hBuilder.normalize_eq hLeft]
      dsimp only
      split
      case isTrue => exact yieldsWellFormed_none
      case isFalse hEqual =>
        rw [Bool.not_eq_true', Bool.not_eq_false, SimIRType.equal_iff,
          hBuilder.normalize_eq hLeft, hBuilder.normalize_eq hRight] at hEqual
        split
        case isTrue => exact yieldsWellFormed_none
        case isFalse hSupports =>
          exact yieldsWellFormed_append hBuilder (hBuilder.normalize_eq hLeft)
            ⟨typeOf?_of_node? hLeft, by rw [typeOf?_of_node? hRight, hEqual],
              by simpa using hSupports, fun hMod => absurd hMod hOp⟩
    case h_2 => exact yieldsWellFormed_none

theorem yieldsWellFormed_diffSpec (hBuilder : builder.WellFormed) (spec : SimIRDiffSpec D) :
    YieldsWellFormed (simIrBuilderDiffSpec builder spec) := by
  unfold simIrBuilderDiffSpec
  split
  case h_1 => exact yieldsWellFormed_none
  case h_2 node hNode =>
    dsimp only
    split
    case isTrue => exact yieldsWellFormed_none
    case isFalse hWidth =>
      refine yieldsWellFormed_append hBuilder (SimIRType.normalized_normalize _) ⟨?_, ?_⟩
      · rw [typeOf?_of_node? hNode]
        rfl
      · simpa using hWidth

theorem yieldsWellFormed_warpSpec (hBuilder : builder.WellFormed) (spec : SimIRWarpSpec D) :
    YieldsWellFormed (simIrBuilderWarpSpec builder spec) := by
  unfold simIrBuilderWarpSpec
  split
  case h_1 => exact yieldsWellFormed_none
  case h_2 node hNode =>
    have hNormal := SimIRType.normalized_normalize
      (if spec.resultType.components = 0 then node.valueType else spec.resultType)
    generalize SimIRType.normalize
      (if spec.resultType.components = 0 then node.valueType else spec.resultType) = type at hNormal ⊢
    dsimp only
    split
    case isTrue => exact yieldsWellFormed_none
    case isFalse hOperand =>
      split
      case isTrue => exact yieldsWellFormed_none
      case isFalse hResult =>
        exact yieldsWellFormed_append hBuilder hNormal
          ⟨⟨_, typeOf?_of_node? hNode, by simpa using hOperand⟩, by simpa using hResult⟩

theorem yieldsWellFormed_complexRotate (hBuilder : builder.WellFormed)
    (operand angle : SimIRNodeId) :
    YieldsWellFormed (simIrBuilderComplexRotate builder operand angle) := by
  unfold simIrBuilderComplexRotate
  split
  case h_1 node angleNode hNode hAngle =>
    rw [hBuilder.normalize_eq hNode, hBuilder.normalize_eq hAngle]
    dsimp only
    split
    case isTrue => exact yieldsWellFormed_none
    case isFalse hOperand =>
      simp only [not_or, not_not, Bool.not_eq_false] at hOperand
      split
      case isTrue => exact yieldsWellFormed_none
      case isFalse hOk =>
        simp only [Bool.or_eq_true, not_or, Bool.not_eq_true', Bool.not_eq_false] at hOk
        exact yieldsWellFormed_append hBuilder (hBuilder.normalize_eq hNode)
          ⟨typeOf?_of_node? hNode, hOperand.1, hOperand.2, _, typeOf?_of_node? hAngle, hOk⟩
  case h_2 => exact yieldsWellFormed_none

theorem yieldsWellFormed_complexPack (hBuilder : builder.WellFormed) (real imag : SimIRNodeId) :
    YieldsWellFormed (simIrBuilderComplexPack builder real imag) := by
  unfold simIrBuilderComplexPack
  split
  case h_1 re im hRe hIm =>
    rw [hBuilder.normalize_eq hRe, hBuilder.normalize_eq hIm]
    dsimp only
    split
    case isTrue => exact yieldsWellFormed_none
    case isFalse hOk =>
      simp only [Bool.or_eq_true, not_or, Bool.not_eq_true', Bool.not_eq_false,
        Bool.not_eq_true] at hOk
      obtain ⟨⟨⟨⟨⟨hReScalar, hReReal⟩, hReAdd⟩, hImScalar⟩, hImReal⟩, hImAdd⟩ := hOk
      refine yieldsWellFormed_append hBuilder (by decide) ⟨rfl, fun id hId => ?_⟩
      rcases hId with rfl | rfl
      · exact ⟨_, typeOf?_of_node? hRe, hReScalar, hReReal, hReAdd⟩
      · exact ⟨_, typeOf?_of_node? hIm, hImScalar, hImReal, hImAdd⟩
  case h_2 => exact yieldsWellFormed_none

theorem SimIRParamKind.normalized_valueType (kind : SimIRParamKind) :
    kind.valueType.Normalized := by
  cases kind <;> decide

/-- Every appending call keeps a graph well formed. -/
theorem BuilderCall.yieldsWellFormed (hBuilder : builder.WellFormed) (call : BuilderCall D) :
    YieldsWellFormed (call.run builder) := by
  cases call with
  | constant value => exact yieldsWellFormed_constantTyped hBuilder value simIrTypeScalar
  | constantTyped value type => exact yieldsWellFormed_constantTyped hBuilder value type
  | constantI64Typed value type =>
      unfold BuilderCall.run simIrBuilderConstantI64Typed
      dsimp only
      split
      · exact yieldsWellFormed_none
      · exact yieldsWellFormed_constantIntegerRawTyped hBuilder _ _
  | constantU64Typed value type =>
      unfold BuilderCall.run simIrBuilderConstantU64Typed
      dsimp only
      split
      · exact yieldsWellFormed_none
      · exact yieldsWellFormed_constantIntegerRawTyped hBuilder _ _
  | constantVector values =>
      exact yieldsWellFormed_constantVectorTyped hBuilder values (simIrTypeVector values.length)
  | constantVectorTyped values type =>
      exact yieldsWellFormed_constantVectorTyped hBuilder values type
  | constantComplex real imag =>
      exact yieldsWellFormed_constantVectorTyped hBuilder [real, imag] simIrTypeComplex
  | param kind =>
      cases kind with
      | none => exact yieldsWellFormed_none
      | some kind => exact yieldsWellFormed_append hBuilder kind.normalized_valueType rfl
  | index => exact yieldsWellFormed_append hBuilder (SimIRType.normalized_normalize _) rfl
  | coord field axis =>
      exact yieldsWellFormed_append hBuilder (SimIRType.normalized_normalize _) rfl
  | fieldRef field =>
      exact yieldsWellFormed_append hBuilder (SimIRType.normalized_normalize _) trivial
  | fieldRefTyped field type =>
      exact yieldsWellFormed_append hBuilder type.normalized_normalize trivial
  | noise seed amplitude => exact yieldsWellFormed_noiseSpec hBuilder _
  | noiseSpec spec => exact yieldsWellFormed_noiseSpec hBuilder spec
  | stateful eval userdata label => exact yieldsWellFormed_statefulSpec hBuilder _
  | statefulSpec spec => exact yieldsWellFormed_statefulSpec hBuilder spec
  | call kind operand => exact yieldsWellFormed_call hBuilder kind operand
  | floor operand => exact yieldsWellFormed_floor hBuilder operand
  | mod lhs rhs => exact yieldsWellFormed_mod hBuilder lhs rhs
  | binary op lhs rhs => exact yieldsWellFormed_binary hBuilder op lhs rhs
  | pow lhs rhs => exact yieldsWellFormed_binary hBuilder .pow lhs rhs
  | diff operand axis dx scale =>
      unfold BuilderCall.run simIrBuilderDiff
      dsimp only
      split
      · exact yieldsWellFormed_none
      · exact yieldsWellFormed_diffSpec hBuilder _
  | diffSpec spec => exact yieldsWellFormed_diffSpec hBuilder spec
  | warp operand profile bias delta lambda => exact yieldsWellFormed_warpSpec hBuilder _
  | warpSpec spec => exact yieldsWellFormed_warpSpec hBuilder spec
  | complexRotate operand angle => exact yieldsWellFormed_complexRotate hBuilder operand angle
  | complexPack real imag => exact yieldsWellFormed_complexPack hBuilder real imag

/-! ### Runs -/

/-- Updates of warp classes and opcodes keep a graph well formed. -/
theorem SimIRBuilder.WellFormed.of_sameExpressions (hBuilder : builder.WellFormed)
    (hPool : builder'.constantsData = builder.constantsData ∧
      builder'.constantsOffsets = builder.constantsOffsets ∧
      builder'.constantsComponents = builder.constantsComponents)
    (hNodes : ∀ id, (builder'.node? id).map (fun node => (node.id, node.data, node.valueType)) =
      (builder.node? id).map (fun node => (node.id, node.data, node.valueType))) :
    builder'.WellFormed := by
  have hExt : Extends builder builder' := by
    refine ⟨fun id type hType => ?_, fun k components h => by rw [hPool.2.2]; exact h⟩
    have hMap := congrArg (Option.map fun entry => entry.2.2) (hNodes id)
    simp only [Option.map_map] at hMap
    exact hMap.trans hType
  refine ⟨fun id node hNode => ?_, ?_, ?_⟩
  · have hSame := hNodes id
    rw [hNode, Option.map_some] at hSame
    obtain ⟨old, hOld, hEq⟩ := Option.map_eq_some_iff.mp hSame.symm
    obtain ⟨hId, hData, hType⟩ : old.id = node.id ∧ old.data = node.data ∧
        old.valueType = node.valueType := by
      simpa using hEq
    have hWell := (hBuilder.nodes id old hOld).mono hExt
    exact ⟨hId ▸ hWell.id_eq, hData ▸ hWell.operands_lt, hType ▸ hWell.normalized,
      hData ▸ hType ▸ hWell.typed⟩
  · rw [hPool.2.1, hPool.2.2]
    exact hBuilder.pool.length_eq
  · rw [hPool.1, hPool.2.1, hPool.2.2]
    exact hBuilder.pool.bounded

theorem wellFormed_retag (hBuilder : builder.WellFormed) (selected : SimIRNodeId → Bool)
    (opcode : Option SimIROpcode) (preserveExisting : Bool) :
    (simIrBuilderRetag builder selected opcode preserveExisting).WellFormed := by
  refine hBuilder.of_sameExpressions ⟨rfl, rfl, rfl⟩ fun id => ?_
  simp only [simIrBuilderRetag, SimIRBuilder.node?, List.getElem?_mapIdx, Option.map_map]
  refine Option.map_congr fun node _ => ?_
  simp only [Function.comp]
  split <;> rfl

theorem wellFormed_empty (boundary : SimIRBoundaryPolicy) :
    (⟨[], boundary, [], [], []⟩ : SimIRBuilder D).WellFormed := by
  refine ⟨fun id node hNode => ?_, rfl, fun k offset components hOffset => ?_⟩
  · simp [SimIRBuilder.node?] at hNode
  · simp at hOffset

/-- One builder call of any kind keeps a graph well formed. -/
theorem BuilderStep.wellFormed (hStep : BuilderStep builder builder')
    (hBuilder : builder.WellFormed) : builder'.WellFormed := by
  cases hStep with
  | constructed call hRun => exact call.yieldsWellFormed hBuilder _ hRun
  | refused => exact hBuilder
  | pooledOnly values => exact hBuilder.poolPush values
  | reset => exact wellFormed_empty _
  | setDefaultBoundary boundary =>
      exact hBuilder.of_sameExpressions ⟨rfl, rfl, rfl⟩ fun _ => rfl
  | setNodeWarpClass id warpClass =>
      cases warpClass with
      | none => exact hBuilder
      | some level =>
          refine hBuilder.of_sameExpressions ⟨rfl, rfl, rfl⟩ fun id' => ?_
          simp only [simIrBuilderSetNodeWarpClass, SimIRBuilder.node?, List.getElem?_modify,
            Option.map_eq_map, Option.map_map]
          refine Option.map_congr fun node _ => ?_
          simp only [Function.comp]
          split <;> rfl
  | applyOpcode opcode preserveExisting =>
      exact wellFormed_retag hBuilder _ opcode preserveExisting
  | applyOpcodeReachable opcode preserveExisting roots =>
      unfold simIrBuilderApplyOpcodeReachable
      split
      · exact wellFormed_retag hBuilder _ opcode preserveExisting
      · exact hBuilder

/-- Every graph made by builder calls is well formed. -/
theorem Built.wellFormed (hBuilt : Built builder) : builder.WellFormed := by
  induction hBuilt with
  | init => exact wellFormed_empty _
  | step prior last ih => exact last.wellFormed ih

end Oakfield.KernelIR
