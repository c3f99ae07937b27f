import Oakfield.KernelIR.BuilderSafety

/-! The flag of pointwise nodes: what it promises about the expression below a
node, and which constructor calls keep the promise. -/
namespace Oakfield.KernelIR

variable {D : Type} [CDouble D] {builder builder' : SimIRBuilder D}

/-- Nodes whose value at an element is not made of operand values there. -/
def SimIRNodeData.isNonlocal : SimIRNodeData D → Bool
  | .diff _ | .stateful _ => true
  | _ => false

/-- A stored node is flagged as local. -/
def SimIRBuilder.localAt (builder : SimIRBuilder D) (id : SimIRNodeId) : Bool :=
  (builder.node? id).any (·.isLocal)

/-- The flag which the operands of a node justify. -/
def SimIRBuilder.pointwise (builder : SimIRBuilder D) (data : SimIRNodeData D) : Bool :=
  !data.isNonlocal && data.operands.all builder.localAt

/-- A derivative or a stateful node is reachable. -/
def SimIRBuilder.ReachesNonlocal (builder : SimIRBuilder D) (id : SimIRNodeId) : Prop :=
  ∃ other node, builder.Reaches id other ∧ builder.node? other = some node ∧
    node.data.isNonlocal = true

/-- Below a node flagged as local there is no derivative and no stateful node. -/
def SimIRBuilder.LocalSound (builder : SimIRBuilder D) : Prop :=
  ∀ id, builder.localAt id = true → ¬builder.ReachesNonlocal id

/-- The call does not hide a node which is not local: a warp asks its operand, and a
rotation of a local operand asks its angle. -/
def KeepsLocality (builder : SimIRBuilder D) : BuilderCall D → Prop
  | .warp operand _ _ _ _ => builder.localAt operand = true
  | .warpSpec spec => builder.localAt spec.operand = true
  | .complexRotate operand angle =>
      builder.localAt operand = true → builder.localAt angle = true
  | _ => True

/-- Builders reached by calls whose constructors all meet a condition in the state they
are called in. -/
inductive BuiltWith (admitted : SimIRBuilder D → BuilderCall D → Prop) : SimIRBuilder D → Prop where
  | init : BuiltWith admitted simIrBuilderInit
  | constructed {builder builder' : SimIRBuilder D} {id : SimIRNodeId}
      (prior : BuiltWith admitted builder) (call : BuilderCall D)
      (hRun : call.run builder = some (id, builder')) (hAdmitted : admitted builder call) :
      BuiltWith admitted builder'
  | kept {builder builder' : SimIRBuilder D} (prior : BuiltWith admitted builder)
      (last : BuilderStep builder builder') (hCount : builder'.count ≤ builder.count) :
      BuiltWith admitted builder'

theorem BuiltWith.built {admitted : SimIRBuilder D → BuilderCall D → Prop}
    (hBuilt : BuiltWith admitted builder) : Built builder := by
  induction hBuilt with
  | init => exact .init
  | constructed _ call hRun _ ih => exact ih.step (.constructed call hRun)
  | kept _ last _ ih => exact ih.step last

/-! ### The flag of an appended node -/

/-- The result of a constructor is one appended node, flagged as local where its
operands justify it, and only there if the call is admitted. -/
def Flagged (builder : SimIRBuilder D) (admitted : Prop)
    (result : Option (SimIRNodeId × SimIRBuilder D)) : Prop :=
  ∀ grown, result = some grown →
    ∃ base data type warpClass isLocal, base.nodes = builder.nodes ∧
      grown = simIrBuilderAppend base data type warpClass isLocal ∧
      (builder.pointwise data = true → isLocal = true) ∧
      (admitted ↔ isLocal = builder.pointwise data)

omit [CDouble D] in
theorem flagged_none {admitted : Prop} : Flagged builder admitted none := by
  rintro _ ⟨⟩

omit [CDouble D] in
/-- A node appended behind a builder with the same nodes. -/
theorem flagged_appendOver {base : SimIRBuilder D} (hNodes : base.nodes = builder.nodes)
    {data : SimIRNodeData D} {isLocal : Bool} (hFlag : isLocal = builder.pointwise data)
    (type : SimIRType) (warpClass : SimWarpLevel) :
    Flagged builder True (some (simIrBuilderAppend base data type warpClass isLocal)) := by
  intro grown hResult
  have hGrown := (Option.some.inj hResult).symm
  refine ⟨base, data, type, warpClass, isLocal, hNodes, hGrown, fun hPointwise => ?_, ?_⟩
  · rw [hFlag, hPointwise]
  · exact ⟨fun _ => hFlag, fun _ => trivial⟩

omit [CDouble D] in
theorem flagged_append {data : SimIRNodeData D} {isLocal : Bool}
    (hFlag : isLocal = builder.pointwise data) (type : SimIRType) (warpClass : SimWarpLevel) :
    Flagged builder True (some (simIrBuilderAppend builder data type warpClass isLocal)) :=
  flagged_appendOver rfl hFlag type warpClass

omit [CDouble D] in
theorem flagged_guarded {rejected : Prop} [Decidable rejected] {data : SimIRNodeData D}
    {isLocal : Bool} (hFlag : isLocal = builder.pointwise data) (type : SimIRType)
    (warpClass : SimWarpLevel) :
    Flagged builder True
      (if rejected then none else some (simIrBuilderAppend builder data type warpClass isLocal)) := by
  split
  case isTrue => exact flagged_none
  case isFalse => exact flagged_append hFlag type warpClass

omit [CDouble D] in
theorem localAt_eq {id : SimIRNodeId} {node : SimIRNode D} (hNode : builder.node? id = some node) :
    builder.localAt id = node.isLocal := by
  rw [SimIRBuilder.localAt, hNode]
  rfl

theorem flagged_constantIntegerRawTyped (raw : Word) (type : SimIRType) :
    Flagged builder True (simIrBuilderConstantIntegerRawTyped builder raw type) :=
  flagged_guarded rfl _ _

theorem flagged_constantTyped (value : D) (type : SimIRType) :
    Flagged builder True (simIrBuilderConstantTyped builder value type) := by
  rw [simIrBuilderConstantTyped]
  split
  case isTrue =>
    split
    case h_1 => exact flagged_none
    case h_2 => exact flagged_constantIntegerRawTyped _ _
  case isFalse => exact flagged_append rfl _ _

theorem flagged_constantVectorTyped (values : List D) (type : SimIRType) :
    Flagged builder True (simIrBuilderConstantVectorTyped builder values type) := by
  rw [simIrBuilderConstantVectorTyped]
  dsimp only
  split
  · exact flagged_none
  split
  · exact flagged_none
  split
  · exact flagged_append rfl _ _
  split
  · exact flagged_append rfl _ _
  · apply flagged_appendOver
    · rfl
    · rfl

omit [CDouble D] in
/-- The flag of a node over one operand. -/
theorem pointwise_single {data : SimIRNodeData D} {operand : SimIRNodeId} {node : SimIRNode D}
    (hNode : builder.node? operand = some node) (hLocal : data.isNonlocal = false)
    (hOperands : data.operands = [operand]) : node.isLocal = builder.pointwise data := by
  rw [SimIRBuilder.pointwise, hLocal, hOperands]
  simp [localAt_eq hNode]

omit [CDouble D] in
theorem flagged_call (kind : Option SimIRCallKind) (operand : SimIRNodeId) :
    Flagged builder True (simIrBuilderCall builder kind operand) := by
  unfold simIrBuilderCall
  cases hNode : builder.node? operand with
  | none => exact flagged_none
  | some node =>
      cases kind with
      | none => exact flagged_none
      | some kind =>
          dsimp only
          apply flagged_guarded
          exact pointwise_single hNode rfl rfl

omit [CDouble D] in
theorem flagged_floor (operand : SimIRNodeId) :
    Flagged builder True (simIrBuilderFloor builder operand) := by
  rw [simIrBuilderFloor]
  cases hNode : builder.node? operand with
  | none => exact flagged_none
  | some node =>
      dsimp only
      apply flagged_guarded
      exact pointwise_single hNode rfl rfl

omit [CDouble D] in
/-- The flag of a node over two operands. -/
theorem pointwise_pair {data : SimIRNodeData D} {lhs rhs : SimIRNodeId} {left right : SimIRNode D}
    (hLeft : builder.node? lhs = some left) (hRight : builder.node? rhs = some right)
    (hLocal : data.isNonlocal = false) (hOperands : data.operands = [lhs, rhs]) :
    (left.isLocal && right.isLocal) = builder.pointwise data := by
  rw [SimIRBuilder.pointwise, hLocal, hOperands]
  simp [localAt_eq hLeft, localAt_eq hRight]

omit [CDouble D] in
theorem flagged_mod (lhs rhs : SimIRNodeId) :
    Flagged builder True (simIrBuilderMod builder lhs rhs) := by
  rw [simIrBuilderMod]
  split
  case h_1 left right hLeft hRight =>
    apply flagged_guarded
    exact pointwise_pair hLeft hRight rfl rfl
  case h_2 => exact flagged_none

omit [CDouble D] in
theorem flagged_binary (op : SimIRBinaryOp) (lhs rhs : SimIRNodeId) :
    Flagged builder True (simIrBuilderBinary builder op lhs rhs) := by
  rw [simIrBuilderBinary]
  split
  · exact flagged_none
  split
  case h_1 left right hLeft hRight =>
    split
    · exact flagged_none
    · apply flagged_guarded
      exact pointwise_pair hLeft hRight rfl rfl
  case h_2 => exact flagged_none

omit [CDouble D] in
theorem flagged_complexPack (real imag : SimIRNodeId) :
    Flagged builder True (simIrBuilderComplexPack builder real imag) := by
  rw [simIrBuilderComplexPack]
  split
  case h_1 re im hRe hIm =>
    apply flagged_guarded
    exact pointwise_pair hRe hIm rfl rfl
  case h_2 => exact flagged_none

theorem flagged_noiseSpec (spec : Option (SimIRNoiseSpec D)) :
    Flagged builder True (simIrBuilderNoiseSpec builder spec) := flagged_guarded rfl _ _

omit [CDouble D] in
theorem flagged_statefulSpec (spec : SimIRStatefulSpec) :
    Flagged builder True (simIrBuilderStatefulSpec builder spec) := by
  rw [simIrBuilderStatefulSpec]
  split
  · exact flagged_none
  · exact flagged_append rfl _ _

theorem flagged_diffSpec (spec : SimIRDiffSpec D) :
    Flagged builder True (simIrBuilderDiffSpec builder spec) := by
  rw [simIrBuilderDiffSpec]
  split
  · exact flagged_none
  · exact flagged_guarded rfl _ _

/-- A warp is flagged as local whatever its operand is. -/
theorem flagged_warpSpec (spec : SimIRWarpSpec D) :
    Flagged builder (builder.localAt spec.operand = true) (simIrBuilderWarpSpec builder spec) := by
  rw [simIrBuilderWarpSpec]
  split
  · exact flagged_none
  dsimp only
  generalize (if spec.resultType.components = 0 then _ else spec.resultType).normalize = type
  split
  · exact flagged_none
  split
  · exact flagged_none
  intro grown hResult
  refine ⟨builder, _, _, _, true, rfl, (Option.some.inj hResult).symm, fun _ => rfl, ?_⟩
  simp only [SimIRBuilder.pointwise, SimIRNodeData.isNonlocal, SimIRNodeData.operands,
    List.all_cons, List.all_nil, Bool.not_false, Bool.true_and, Bool.and_true]
  exact eq_comm

omit [CDouble D] in
/-- A rotation takes the flag of its operand. -/
theorem flagged_complexRotate (operand angle : SimIRNodeId) :
    Flagged builder (builder.localAt operand = true → builder.localAt angle = true)
      (simIrBuilderComplexRotate builder operand angle) := by
  rw [simIrBuilderComplexRotate]
  split
  case h_2 => exact flagged_none
  case h_1 node angleNode hNode hAngle =>
    dsimp only
    split
    · exact flagged_none
    split
    · exact flagged_none
    intro grown hResult
    refine ⟨builder, _, _, _, node.isLocal, rfl, (Option.some.inj hResult).symm, ?_, ?_⟩
    · simp only [SimIRBuilder.pointwise, SimIRNodeData.operands, List.all_cons, localAt_eq hNode,
        Bool.and_eq_true]
      exact fun hBoth => hBoth.2.1
    · simp only [SimIRBuilder.pointwise, SimIRNodeData.isNonlocal, SimIRNodeData.operands,
        List.all_cons, List.all_nil, localAt_eq hNode, Bool.not_false, Bool.true_and, Bool.and_true]
      cases node.isLocal <;> cases builder.localAt angle <;> decide

theorem BuilderCall.flagged (builder : SimIRBuilder D) (call : BuilderCall D) :
    Flagged builder (KeepsLocality builder call) (call.run builder) := by
  cases call with
  | constant value => exact flagged_constantTyped value simIrTypeScalar
  | constantTyped value type => exact flagged_constantTyped value type
  | constantI64Typed value type =>
      rw [BuilderCall.run, simIrBuilderConstantI64Typed]
      split
      case h_1 => exact flagged_none
      case h_2 => exact flagged_constantIntegerRawTyped _ _
  | constantU64Typed value type =>
      rw [BuilderCall.run, simIrBuilderConstantU64Typed]
      split
      case h_1 => exact flagged_none
      case h_2 => exact flagged_constantIntegerRawTyped _ _
  | constantVector values => exact flagged_constantVectorTyped values _
  | constantVectorTyped values type => exact flagged_constantVectorTyped values type
  | constantComplex real imag => exact flagged_constantVectorTyped [real, imag] simIrTypeComplex
  | param kind =>
      cases kind with
      | none => exact flagged_none
      | some kind => exact flagged_append rfl _ _
  | index => exact @flagged_append D builder .index _ rfl _ _
  | coord field axis => exact @flagged_append D builder (.coord field axis) _ rfl _ _
  | fieldRef field => exact @flagged_append D builder (.fieldRef field) _ rfl _ _
  | fieldRefTyped field type => exact @flagged_append D builder (.fieldRef field) _ rfl _ _
  | noise seed amplitude => exact flagged_noiseSpec _
  | noiseSpec spec => exact flagged_noiseSpec spec
  | stateful eval userdata label => exact flagged_statefulSpec _
  | statefulSpec spec => exact flagged_statefulSpec spec
  | call kind operand => exact flagged_call kind operand
  | floor operand => exact flagged_floor operand
  | mod lhs rhs => exact flagged_mod lhs rhs
  | binary op lhs rhs => exact flagged_binary op lhs rhs
  | pow lhs rhs => exact flagged_binary .pow lhs rhs
  | diff operand axis dx scale =>
      rw [BuilderCall.run, simIrBuilderDiff]
      split
      case h_1 => exact flagged_none
      case h_2 => exact flagged_diffSpec _
  | diffSpec spec => exact flagged_diffSpec spec
  | warp operand profile bias delta lambda => exact flagged_warpSpec _
  | warpSpec spec => exact flagged_warpSpec spec
  | complexRotate operand angle => exact flagged_complexRotate operand angle
  | complexPack real imag => exact flagged_complexPack real imag

/-! ### Honest flags -/

/-- Every node carries the flag which its operands justify. -/
def SimIRBuilder.HonestFlags (builder : SimIRBuilder D) : Prop :=
  ∀ id node, builder.node? id = some node → node.isLocal = builder.pointwise node.data

omit [CDouble D] in
theorem pointwise_congr {data : SimIRNodeData D}
    (hOperands : ∀ operand ∈ data.operands, builder'.localAt operand = builder.localAt operand) :
    builder'.pointwise data = builder.pointwise data := by
  have hAll : data.operands.all builder'.localAt = data.operands.all builder.localAt := by
    rw [Bool.eq_iff_iff, List.all_eq_true, List.all_eq_true]
    exact forall₂_congr fun operand hMem => by rw [hOperands operand hMem]
  rw [SimIRBuilder.pointwise, SimIRBuilder.pointwise, hAll]

omit [CDouble D] in
/-- Tags and warp classes are no part of a flag. -/
theorem SimIRBuilder.HonestFlags.of_sameFlags (hHonest : builder.HonestFlags)
    (hNodes : ∀ id, (builder'.node? id).map (fun node => (node.data, node.isLocal)) =
      (builder.node? id).map (fun node => (node.data, node.isLocal))) : builder'.HonestFlags := by
  have hLocal : builder'.localAt = builder.localAt := by
    funext id
    have hAny := congrArg (Option.any fun flagged => flagged.2) (hNodes id)
    rwa [Option.any_map, Option.any_map] at hAny
  intro id node hNode
  have hSame := hNodes id
  rw [hNode, Option.map_some] at hSame
  obtain ⟨old, hOld, hEq⟩ := Option.map_eq_some_iff.mp hSame.symm
  obtain ⟨hData, hFlag⟩ := Prod.mk.inj hEq
  have hPointwise : builder'.pointwise node.data = builder.pointwise node.data :=
    pointwise_congr fun operand _ => congrFun hLocal operand
  rw [hPointwise, ← hData, ← hFlag]
  exact hHonest id old hOld

omit [CDouble D] in
theorem honestFlags_retag (hHonest : builder.HonestFlags) (selected : SimIRNodeId → Bool)
    (opcode : Option SimIROpcode) (preserveExisting : Bool) :
    (simIrBuilderRetag builder selected opcode preserveExisting).HonestFlags := by
  apply hHonest.of_sameFlags
  intro id
  simp only [simIrBuilderRetag, SimIRBuilder.node?, List.getElem?_mapIdx, Option.map_map]
  refine Option.map_congr fun node _ => ?_
  simp only [Function.comp]
  split <;> rfl

section Append

variable {base : SimIRBuilder D} (hNodes : base.nodes = builder.nodes) (data : SimIRNodeData D)
  (type : SimIRType) (warpClass : SimWarpLevel) (isLocal : Bool)

include hNodes

/-- A node appended with the flag its operands justify keeps all flags honest. -/
theorem SimIRBuilder.HonestFlags.append (hHonest : builder.HonestFlags)
    (hBuilder : (simIrBuilderAppend base data type warpClass isLocal).2.WellFormed)
    (hFlag : isLocal = builder.pointwise data) :
    (simIrBuilderAppend base data type warpClass isLocal).2.HonestFlags := by
  have hLocal : ∀ id < builder.count,
      (simIrBuilderAppend base data type warpClass isLocal).2.localAt id = builder.localAt id := by
    intro id hLt
    rw [SimIRBuilder.localAt, node?_append_of_lt _ _ _ _ hNodes hLt, SimIRBuilder.localAt]
  intro id node hNode
  have hOperands := (hBuilder.nodes id node hNode).operands_lt
  rcases node?_append data type warpClass isLocal hNode with hOld | ⟨hId, rfl⟩
  · have hOld' : builder.node? id = some node := by
      rwa [SimIRBuilder.node?, hNodes] at hOld
    have hLt := SimIRBuilder.lt_count_of_node? hOld'
    rw [hHonest id node hOld']
    exact (pointwise_congr fun operand hMem =>
      hLocal operand (Nat.lt_trans (hOperands operand hMem) hLt)).symm
  · have hCount : id = builder.count := by
      rw [hId, SimIRBuilder.count, hNodes, SimIRBuilder.count]
    exact hFlag.trans (pointwise_congr fun operand hMem =>
      hLocal operand (hCount ▸ hOperands operand hMem)).symm

omit [CDouble D] in
theorem ReachesNonlocal.append {id : SimIRNodeId} (hReaches : builder.ReachesNonlocal id) :
    (simIrBuilderAppend base data type warpClass isLocal).2.ReachesNonlocal id := by
  have hKept : ∀ id node, builder.node? id = some node →
      (simIrBuilderAppend base data type warpClass isLocal).2.node? id = some node := by
    intro id node hNode
    rw [node?_append_of_lt _ _ _ _ hNodes (SimIRBuilder.lt_count_of_node? hNode), hNode]
  obtain ⟨other, node, hPath, hNode, hNonlocal⟩ := hReaches
  refine ⟨other, node, Relation.ReflTransGen.mono ?_ _ _ hPath, hKept other node hNode, hNonlocal⟩
  rintro id operand ⟨parent, hParent, hMem⟩
  exact ⟨parent, hKept id parent hParent, hMem⟩

end Append

/-- Calls which append nothing keep honest flags. -/
theorem BuilderStep.honestFlags (hStep : BuilderStep builder builder')
    (hCount : builder'.count ≤ builder.count) (hHonest : builder.HonestFlags) :
    builder'.HonestFlags := by
  cases hStep with
  | constructed call hRun =>
      obtain ⟨base, data, type, warpClass, isLocal, hNodes, hGrown, -⟩ := call.flagged builder _ hRun
      have hBuilder : builder' = (simIrBuilderAppend base data type warpClass isLocal).2 :=
        congrArg Prod.snd hGrown
      rw [hBuilder, SimIRBuilder.count, simIrBuilderAppend, List.length_append, hNodes,
        SimIRBuilder.count] at hCount
      exact absurd hCount (Nat.not_succ_le_self _)
  | refused => exact hHonest
  | pooledOnly values => exact hHonest
  | reset => exact fun id node hNode => (by cases hNode)
  | setDefaultBoundary boundary => exact hHonest
  | setNodeWarpClass id warpClass =>
      cases warpClass with
      | none => exact hHonest
      | some level =>
          apply hHonest.of_sameFlags
          intro id'
          simp only [simIrBuilderSetNodeWarpClass, SimIRBuilder.node?, List.getElem?_modify,
            Option.map_eq_map, Option.map_map]
          refine Option.map_congr fun node _ => ?_
          simp only [Function.comp]
          split <;> rfl
  | applyOpcode opcode preserveExisting => exact honestFlags_retag hHonest _ opcode preserveExisting
  | applyOpcodeReachable opcode preserveExisting roots =>
      unfold simIrBuilderApplyOpcodeReachable
      split
      · exact honestFlags_retag hHonest _ opcode preserveExisting
      · exact hHonest

/-- Where every constructor keeps locality, all flags are honest. -/
theorem BuiltWith.honestFlags (hBuilt : BuiltWith KeepsLocality builder) : builder.HonestFlags := by
  induction hBuilt with
  | init => exact fun id node hNode => nomatch hNode
  | constructed prior call hRun hKeeps ih =>
      obtain ⟨base, data, type, warpClass, isLocal, hNodes, hGrown, -, hFlag⟩ :=
        call.flagged _ _ hRun
      obtain rfl := congrArg Prod.snd hGrown
      have hWellFormed := (prior.built.step (.constructed call hRun)).wellFormed
      exact ih.append hNodes data type warpClass isLocal hWellFormed (hFlag.mp hKeeps)
  | kept prior last hCount ih => exact last.honestFlags hCount ih

omit [CDouble D] in
/-- Honest flags are sound: along every path the operands stay local. -/
theorem SimIRBuilder.HonestFlags.localSound (hHonest : builder.HonestFlags) :
    builder.LocalSound := by
  rintro id hLocal ⟨other, node, hPath, hNode, hNonlocal⟩
  have hOther : builder.localAt other = true := by
    clear hNode
    induction hPath with
    | refl => exact hLocal
    | tail prior last ih =>
        obtain ⟨parent, hParent, hMem⟩ := last
        rw [localAt_eq hParent, hHonest _ parent hParent, SimIRBuilder.pointwise,
          Bool.and_eq_true, List.all_eq_true] at ih
        exact ih.2 _ hMem
  rw [localAt_eq hNode, hHonest other node hNode, SimIRBuilder.pointwise, hNonlocal] at hOther
  cases hOther

/-- Honest flags are complete: a node which is not local reaches a reason. -/
theorem SimIRBuilder.HonestFlags.reachesNonlocal (hHonest : builder.HonestFlags)
    (hBuilder : builder.WellFormed) {id : SimIRNodeId} (hLt : id < builder.count)
    (hLocal : builder.localAt id = false) : builder.ReachesNonlocal id := by
  induction id using Nat.strong_induction_on with
  | _ id ih =>
      obtain ⟨node, hNode⟩ : ∃ node, builder.node? id = some node := ⟨_, List.getElem?_eq_getElem hLt⟩
      rw [localAt_eq hNode, hHonest id node hNode, SimIRBuilder.pointwise, Bool.and_eq_false_iff] at hLocal
      rcases hLocal with hSelf | hOperands
      · exact ⟨id, node, .refl, hNode, by simpa using hSelf⟩
      · obtain ⟨operand, hMem, hOperand⟩ := List.all_eq_false.mp hOperands
        have hBelow := (hBuilder.nodes id node hNode).operands_lt operand hMem
        obtain ⟨other, last, hPath, hRest⟩ :=
          ih operand hBelow (Nat.lt_trans hBelow hLt) (Bool.eq_false_of_not_eq_true hOperand)
        exact ⟨other, last, .head ⟨node, hNode, hMem⟩ hPath, hRest⟩

/-- A call which does not keep locality flags a node as local above a derivative or a
stateful node. -/
theorem not_localSound_of_not_keeps {id : SimIRNodeId} {call : BuilderCall D}
    (hBuilt : BuiltWith KeepsLocality builder) (hRun : call.run builder = some (id, builder'))
    (hKeeps : ¬KeepsLocality builder call) : ¬builder'.LocalSound := by
  obtain ⟨base, data, type, warpClass, isLocal, hNodes, hGrown, hPointwise, hFlag⟩ :=
    call.flagged _ _ hRun
  have hLocal : isLocal = true ∧ builder.pointwise data = false := by
    rw [hFlag] at hKeeps
    cases isLocal <;> cases hData : builder.pointwise data <;> simp_all
  have hNode := node?_append_count data type warpClass isLocal hNodes
  have hBuilder : builder' = (simIrBuilderAppend base data type warpClass isLocal).2 :=
    congrArg Prod.snd hGrown
  have hWellFormed := (hBuilt.built.step (.constructed call hRun)).wellFormed
  rw [← hBuilder] at hNode
  intro hSound
  apply hSound builder.count
  · rw [localAt_eq hNode]
    exact hLocal.1
  rw [SimIRBuilder.pointwise, Bool.and_eq_false_iff] at hLocal
  rcases hLocal.2 with hSelf | hOperands
  · exact ⟨builder.count, _, .refl, hNode, by simpa using hSelf⟩
  · obtain ⟨operand, hMem, hOperand⟩ := List.all_eq_false.mp hOperands
    have hLt := (hWellFormed.nodes _ _ hNode).operands_lt operand hMem
    have hBelow := hBuilt.honestFlags.reachesNonlocal hBuilt.built.wellFormed hLt
      (Bool.eq_false_of_not_eq_true hOperand)
    obtain ⟨other, last, hPath, hRest⟩ :=
      hBuilder ▸ ReachesNonlocal.append hNodes data type warpClass isLocal hBelow
    exact ⟨other, last, .head ⟨_, hNode, hMem⟩ hPath, hRest⟩

/-- Over every run whose warps and rotations keep locality, the flag of pointwise nodes
is sound; and the first call which does not keep it makes the flag unsound. -/
theorem localSound_iff_keepsLocality :
    (∀ builder : SimIRBuilder D, BuiltWith KeepsLocality builder → builder.LocalSound) ∧
      ∀ (builder : SimIRBuilder D) (call : BuilderCall D) (id : SimIRNodeId)
        (builder' : SimIRBuilder D), BuiltWith KeepsLocality builder →
        call.run builder = some (id, builder') →
        (builder'.LocalSound ↔ KeepsLocality builder call) := by
  constructor
  · intro builder hBuilt
    exact hBuilt.honestFlags.localSound
  · intro builder call id builder' hBuilt hRun
    constructor
    · intro hSound
      by_contra hKeeps
      exact not_localSound_of_not_keeps hBuilt hRun hKeeps hSound
    · intro hKeeps
      exact (BuiltWith.constructed hBuilt call hRun hKeeps).honestFlags.localSound

/-- A field, its difference along an axis, and a warp of the difference. -/
def warpedDifference : SimIRBuilder ℤ :=
  BuilderCall.runAll [.fieldRef 0, .diff 0 0 1 1, .warp 1 (some .digamma) 0 0 0]

/-- The warp is flagged as local and reads the difference. -/
theorem warpedDifference_unsound : Built warpedDifference ∧ ¬warpedDifference.LocalSound := by
  apply And.intro (built_runAll _)
  intro hSound
  apply hSound 2 rfl
  exact ⟨1, _, .single ⟨_, rfl, List.mem_singleton.mpr rfl⟩, rfl, rfl⟩

end Oakfield.KernelIR
