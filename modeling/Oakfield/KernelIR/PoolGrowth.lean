import Oakfield.KernelIR.BuilderSafety

/-! Growth of a builder after a constant was made: nodes keep their payloads, the pool
of constants grows at its end, and a lane that could be read is read again. -/
namespace Oakfield.KernelIR

open CDouble Library.Memo

variable {D : Type} [CDouble D] {builder builder' later : SimIRBuilder D} {id : SimIRNodeId}

/-- `sim_graph_ir_builder_clone`, its arrays allocated. -/
def simGraphIrBuilderClone (src : SimIRBuilder D) : SimIRBuilder D :=
  if 0 < src.constantsOffsets.length then
    { nodes := src.nodes
      defaultBoundary := src.defaultBoundary
      constantsData := src.constantsData
      constantsOffsets := src.constantsOffsets
      constantsComponents := src.constantsComponents }
  else ⟨src.nodes, src.defaultBoundary, [], [], []⟩

/-- What the lookup of the evaluators finds in a lane of a node. -/
def SimIRBuilder.constantLane (builder : SimIRBuilder D) (id : SimIRNodeId) (component : ℕ) :
    Option D :=
  (builder.node? id).bind fun node => simIrConstantComponent builder node component

/-! ### Growth -/

/-- Nodes keep what they compute, and the pool grows at its end. -/
structure Grown (builder later : SimIRBuilder D) : Prop where
  nodes : ∀ id node, builder.node? id = some node → ∃ node', later.node? id = some node' ∧
    node'.data = node.data ∧ node'.valueType = node.valueType
  data : builder.constantsData <+: later.constantsData
  offsets : builder.constantsOffsets <+: later.constantsOffsets
  components : builder.constantsComponents <+: later.constantsComponents

omit [CDouble D] in
theorem Grown.refl (builder : SimIRBuilder D) : Grown builder builder :=
  ⟨fun _ node hNode => ⟨node, hNode, rfl, rfl⟩, List.prefix_rfl, List.prefix_rfl, List.prefix_rfl⟩

omit [CDouble D] in
theorem Grown.trans (hFirst : Grown builder builder') (hSecond : Grown builder' later) :
    Grown builder later := by
  refine ⟨fun id node hNode => ?_, hFirst.data.trans hSecond.data,
    hFirst.offsets.trans hSecond.offsets, hFirst.components.trans hSecond.components⟩
  obtain ⟨node', hNode', hData, hType⟩ := hFirst.nodes id node hNode
  obtain ⟨last, hLast, hData', hType'⟩ := hSecond.nodes id node' hNode'
  exact ⟨last, hLast, hData'.trans hData, hType'.trans hType⟩

omit [CDouble D] in
/-- Updates of tags are growth: they keep payloads, types and the pool. -/
theorem Grown.of_samePayloads
    (hPool : later.constantsData = builder.constantsData ∧
      later.constantsOffsets = builder.constantsOffsets ∧
      later.constantsComponents = builder.constantsComponents)
    (hNodes : ∀ id, (later.node? id).map (fun node => (node.data, node.valueType)) =
      (builder.node? id).map (fun node => (node.data, node.valueType))) :
    Grown builder later := by
  obtain ⟨hData, hOffsets, hComponents⟩ := hPool
  constructor
  case nodes =>
    intro id node hNode
    have hSame := hNodes id
    rw [hNode, Option.map_some] at hSame
    obtain ⟨node', hNode', hEq⟩ := Option.map_eq_some_iff.mp hSame
    obtain ⟨hPayload, hType⟩ := Prod.mk.inj hEq
    exact ⟨node', hNode', hPayload, hType⟩
  case data => exact hData ▸ List.prefix_rfl
  case offsets => exact hOffsets ▸ List.prefix_rfl
  case components => exact hComponents ▸ List.prefix_rfl

theorem Grown.poolPush (values : List D) : Grown builder (simIrBuilderPoolPush builder values) :=
  ⟨fun _ node hNode => ⟨node, hNode, rfl, rfl⟩, List.prefix_append _ _, List.prefix_append _ _,
    List.prefix_append _ _⟩

omit [CDouble D] in
theorem Grown.append (data : SimIRNodeData D) (type : SimIRType) (warpClass : SimWarpLevel)
    (isLocal : Bool) :
    Grown builder (simIrBuilderAppend builder data type warpClass isLocal).2 := by
  refine ⟨fun id node hNode => ⟨node, ?_, rfl, rfl⟩, List.prefix_rfl, List.prefix_rfl,
    List.prefix_rfl⟩
  have hLt := SimIRBuilder.lt_count_of_node? hNode
  rw [SimIRBuilder.node?, simIrBuilderAppend]
  rw [List.getElem?_append_left hLt]
  exact hNode

theorem Grown.constructed {call : BuilderCall D} (hRun : call.run builder = some (id, builder')) :
    Grown builder builder' := by
  obtain ⟨base, hBase, data, type, warpClass, isLocal, hGrown⟩ := call.appendsOne _ hRun
  obtain rfl := congrArg Prod.snd hGrown
  rcases hBase with rfl | ⟨values, rfl⟩
  · exact .append data type warpClass isLocal
  · exact (Grown.poolPush values).trans (.append data type warpClass isLocal)

omit [CDouble D] in
theorem Grown.retag (selected : SimIRNodeId → Bool) (opcode : Option SimIROpcode)
    (preserveExisting : Bool) :
    Grown builder (simIrBuilderRetag builder selected opcode preserveExisting) := by
  refine .of_samePayloads ⟨rfl, rfl, rfl⟩ ?_
  intro id
  simp only [simIrBuilderRetag, SimIRBuilder.node?, List.getElem?_mapIdx, Option.map_map]
  apply Option.map_congr
  intro node _
  simp only [Function.comp]
  split <;> rfl

/-- Every call but a reset lets a builder with nodes grow. -/
theorem BuilderStep.grown (hStep : BuilderStep builder builder') (hNodes : 0 < builder.count)
    (hCount : builder.count ≤ builder'.count) : Grown builder builder' := by
  cases hStep with
  | constructed call hRun => exact .constructed hRun
  | refused => exact .refl builder
  | pooledOnly values => exact .poolPush values
  | reset => exact absurd (Nat.lt_of_lt_of_le hNodes hCount) (Nat.lt_irrefl 0)
  | setDefaultBoundary boundary => exact .of_samePayloads ⟨rfl, rfl, rfl⟩ fun _ => rfl
  | setNodeWarpClass id warpClass =>
      cases warpClass with
      | none => exact .refl builder
      | some level =>
          refine .of_samePayloads ⟨rfl, rfl, rfl⟩ ?_
          intro id'
          simp only [simIrBuilderSetNodeWarpClass, SimIRBuilder.node?, List.getElem?_modify,
            Option.map_eq_map, Option.map_map]
          apply Option.map_congr
          intro node _
          simp only [Function.comp]
          split <;> rfl
  | applyOpcode opcode preserveExisting => exact .retag _ opcode preserveExisting
  | applyOpcodeReachable opcode preserveExisting roots =>
      unfold simIrBuilderApplyOpcodeReachable
      split
      · exact .retag _ opcode preserveExisting
      · exact .refl builder

/-- States which a builder reaches by calls of any kind but a reset. -/
def SimIRBuilder.Later : SimIRBuilder D → SimIRBuilder D → Prop :=
  Relation.ReflTransGen fun before after => BuilderStep before after ∧ before.count ≤ after.count

theorem SimIRBuilder.Later.grown (hLater : builder.Later later) (hNodes : 0 < builder.count) :
    Grown builder later ∧ builder.count ≤ later.count := by
  induction hLater with
  | refl => exact ⟨.refl builder, Nat.le_refl _⟩
  | tail prior last ih =>
      have hNow := Nat.lt_of_lt_of_le hNodes ih.2
      exact ⟨ih.1.trans (last.1.grown hNow last.2), Nat.le_trans ih.2 last.2⟩

theorem SimIRBuilder.Later.built (hLater : builder.Later later) (hBuilt : Built builder) :
    Built later := by
  induction hLater with
  | refl => exact hBuilt
  | tail prior last ih => exact ih.step last.1

theorem getElem?_eq_of_initial {α : Type} {xs ys : List α} (hPrefix : xs <+: ys) {k : ℕ} {a : α}
    (hGet : xs[k]? = some a) : ys[k]? = some a := by
  have hLt := (List.getElem?_eq_some_iff.mp hGet).1
  rw [← hGet, List.getElem?_eq_getElem hLt, List.prefix_iff_getElem?.mp hPrefix k hLt]

omit [CDouble D] in
/-- A lane that could be read is read in every grown builder. -/
theorem Grown.constantLane (hGrown : Grown builder later) {component : ℕ} {value : D}
    (hRead : builder.constantLane id component = some value) :
    later.constantLane id component = some value := by
  obtain ⟨node, hNode, hLane⟩ := Option.bind_eq_some_iff.mp hRead
  obtain ⟨node', hNode', hData, hType⟩ := hGrown.nodes id node hNode
  apply Option.bind_eq_some_iff.mpr
  refine ⟨node', hNode', ?_⟩
  unfold simIrConstantComponent at hLane ⊢
  rw [hData, hType]
  cases hPayload : node.data with
  | constant stored =>
      rw [hPayload] at hLane
      dsimp only at hLane ⊢
      cases hIndex : stored.constantIndex with
      | none =>
          rw [hIndex] at hLane
          exact hLane
      | some k =>
          rw [hIndex] at hLane
          dsimp only at hLane ⊢
          cases hOffset : builder.constantsOffsets[k]? with
          | none => simp [hOffset] at hLane
          | some offset =>
              cases hLanes : builder.constantsComponents[k]? with
              | none => simp [hOffset, hLanes] at hLane
              | some lanes =>
                  simp only [hOffset, hLanes] at hLane
                  simp only [getElem?_eq_of_initial hGrown.offsets hOffset,
                    getElem?_eq_of_initial hGrown.components hLanes]
                  split at hLane
                  case isTrue hLt =>
                    rw [if_pos hLt]
                    exact getElem?_eq_of_initial hGrown.data hLane
                  case isFalse => cases hLane
  | _ => simp [hPayload] at hLane

/-! ### The pool -/

/-- Entries are canonical, and without entries there is no data. -/
structure SimIRBuilder.PoolTidy (builder : SimIRBuilder D) : Prop where
  canonical : ∀ value ∈ builder.constantsData, simIrCanonicalizeConstant value = value
  empty : builder.constantsOffsets = [] → builder.constantsData = []

theorem simIrCanonicalizeConstant_idem (value : D) :
    simIrCanonicalizeConstant (simIrCanonicalizeConstant value) = simIrCanonicalizeConstant value := by
  unfold simIrCanonicalizeConstant
  by_cases hZero : eq value zero = true
  · simp [hZero]
  · simp [hZero]

theorem SimIRBuilder.PoolTidy.poolPush (hTidy : builder.PoolTidy) (values : List D) :
    (simIrBuilderPoolPush builder values).PoolTidy := by
  constructor
  case canonical =>
    intro value hMem
    rcases List.mem_append.mp hMem with hOld | hNew
    · exact hTidy.canonical value hOld
    · obtain ⟨given, -, rfl⟩ := List.mem_map.mp hNew
      exact simIrCanonicalizeConstant_idem given
  case empty =>
    intro hNil
    exact absurd hNil (List.append_ne_nil_of_right_ne_nil _ (List.cons_ne_nil _ _))

theorem Built.poolTidy (hBuilt : Built builder) : builder.PoolTidy := by
  induction hBuilt with
  | init => exact ⟨fun _ hMem => (nomatch hMem), fun _ => rfl⟩
  | step prior last ih =>
      cases last with
      | constructed call hRun =>
          obtain ⟨base, hBase, data, type, warpClass, isLocal, hGrown⟩ := call.appendsOne _ hRun
          obtain rfl := congrArg Prod.snd hGrown
          rcases hBase with rfl | ⟨values, rfl⟩
          · exact ⟨ih.canonical, ih.empty⟩
          · exact ⟨(ih.poolPush values).canonical, (ih.poolPush values).empty⟩
      | refused => exact ih
      | pooledOnly values => exact ih.poolPush values
      | reset => exact ⟨fun _ hMem => (nomatch hMem), fun _ => rfl⟩
      | setDefaultBoundary boundary => exact ⟨ih.canonical, ih.empty⟩
      | setNodeWarpClass id warpClass =>
          cases warpClass with
          | none => exact ih
          | some level => exact ⟨ih.canonical, ih.empty⟩
      | applyOpcode opcode preserveExisting => exact ⟨ih.canonical, ih.empty⟩
      | applyOpcodeReachable opcode preserveExisting roots =>
          unfold simIrBuilderApplyOpcodeReachable
          split
          · exact ⟨ih.canonical, ih.empty⟩
          · exact ih

/-- The clone of a graph is the graph. -/
theorem simGraphIrBuilderClone_eq (hBuilt : Built builder) :
    simGraphIrBuilderClone builder = builder := by
  rw [simGraphIrBuilderClone]
  split
  case isTrue => rfl
  case isFalse hNone =>
    have hOffsets : builder.constantsOffsets = [] := by
      apply List.eq_nil_of_length_eq_zero
      omega
    have hComponents : builder.constantsComponents = [] := by
      apply List.eq_nil_of_length_eq_zero
      rw [← hBuilt.wellFormed.pool.length_eq, hOffsets]
      rfl
    have hData := hBuilt.poolTidy.empty hOffsets
    cases builder
    simp only at hData hOffsets hComponents
    rw [hData, hOffsets, hComponents]

end Oakfield.KernelIR
