import Oakfield.KernelIR.BuilderSafety

/-! Which nodes a search from a list of roots marks, and which nodes the opcode of a
kernel is given to. -/
namespace Oakfield.KernelIR

variable {D : Type} [CDouble D] {builder : SimIRBuilder D}

/-! ### The calls with their argument and memory errors -/

/-- `sim_ir_collect_reachable` on an array with `reachableCount` entries. There are no
roots when their pointer is `NULL` although the count is positive; `flagsMemory` tells
whether the flags of the nodes in progress can be allocated. -/
def simIrCollectReachableInto (builder : SimIRBuilder D) (roots : Option (List SimIRNodeId))
    (outReachable : SimIRNodeId → Bool) (reachableCount : ℕ) (flagsMemory : Bool) :
    Option (Except SimError Unit × (SimIRNodeId → Bool)) :=
  if builder.count > reachableCount then some (.error .invalidArgument, outReachable)
  else
    match roots with
    | none => some (.error .invalidArgument, outReachable)
    | some roots =>
        if builder.count = 0 then some (.ok (), outReachable)
        else
          let cleared : SimIRNodeId → Bool :=
            fun id => if id < builder.count then false else outReachable id
          if flagsMemory then
            (ReachState.visitAll (simIrCollectReachableNode builder (builder.count + 1)) roots
              ⟨cleared, fun _ => false⟩).map fun out => (out.1, out.2.reachable)
          else some (.error .outOfMemory, cleared)

/-- What `sim_ir_builder_apply_opcode_reachable` finds: whether the node array exists, and
whether its own table and the flags of the search can be allocated. -/
structure ReachMemory where
  nodes : Bool
  table : Bool
  flags : Bool

/-- `sim_ir_builder_apply_opcode_reachable` with its result. -/
def simIrBuilderApplyOpcodeReachableWith (builder : SimIRBuilder D) (memory : ReachMemory)
    (opcode : Option SimIROpcode) (preserveExisting : Bool) (roots : Option (List SimIRNodeId)) :
    Option (Except SimError Unit × SimIRBuilder D) :=
  if !memory.nodes then some (.error .invalidArgument, builder)
  else if builder.count = 0 then some (.ok (), builder)
  else if !memory.table then some (.error .outOfMemory, builder)
  else
    match simIrCollectReachableInto builder roots (fun _ => false) builder.count memory.flags with
    | none => none
    | some (.error e, _) => some (.error e, builder)
    | some (.ok (), reachable) =>
        some (.ok (), simIrBuilderRetag builder reachable opcode preserveExisting)

/-! ### The search -/

/-- The marks below a bound are closed under operands. -/
def ReachState.ClosedBelow (builder : SimIRBuilder D) (bound : ℕ) (state : ReachState) : Prop :=
  ∀ id < bound, state.reachable id = true →
    ∀ below, builder.Reaches id below → state.reachable below = true

/-- The search has added exactly the nodes below some starting points. -/
def ReachState.Adds (builder : SimIRBuilder D) (starts : List SimIRNodeId)
    (before after : ReachState) : Prop :=
  after.stackFlags = before.stackFlags ∧
    ∀ id, after.reachable id = true ↔
      before.reachable id = true ∨ ∃ start ∈ starts, builder.Reaches start id

omit [CDouble D] in
theorem ReachState.Adds.closedBelow {starts : List SimIRNodeId} {before after : ReachState}
    {bound : ℕ} (hAdds : ReachState.Adds builder starts before after)
    (hClosed : before.ClosedBelow builder bound) : after.ClosedBelow builder bound := by
  intro id hId hMarked below hReaches
  rw [hAdds.2] at hMarked ⊢
  rcases hMarked with hOld | ⟨start, hStart, hNew⟩
  · exact .inl (hClosed id hId hOld below hReaches)
  · exact .inr ⟨start, hStart, hNew.trans hReaches⟩

omit [CDouble D] in
theorem ReachState.Adds.refl (state : ReachState) : ReachState.Adds builder [] state state := by
  refine ⟨rfl, fun id => ⟨.inl, ?_⟩⟩
  rintro (hOld | ⟨start, hStart, -⟩)
  · exact hOld
  · cases hStart

omit [CDouble D] in
theorem ReachState.Adds.cons {id : SimIRNodeId} {ids : List SimIRNodeId}
    {before middle after : ReachState} (hHead : ReachState.Adds builder [id] before middle)
    (hTail : ReachState.Adds builder ids middle after) :
    ReachState.Adds builder (id :: ids) before after := by
  refine ⟨hTail.1.trans hHead.1, fun other => ?_⟩
  rw [hTail.2, hHead.2, or_assoc]
  simp only [List.exists_mem_cons_iff, List.not_mem_nil, false_and, exists_false, or_false]

omit [CDouble D] in
/-- Visits one after the other add what each of them does. -/
theorem visitAll_adds
    {visit : SimIRNodeId → ReachState → Option (Except SimError Unit × ReachState)} {bound : ℕ}
    {flags : SimIRNodeId → Bool} {ids : List SimIRNodeId}
    (hVisit : ∀ id ∈ ids, ∀ state : ReachState, state.stackFlags = flags →
      state.ClosedBelow builder bound →
        ∃ state', visit id state = some (.ok (), state') ∧
          ReachState.Adds builder [id] state state')
    (state : ReachState) (hFlags : state.stackFlags = flags)
    (hClosed : state.ClosedBelow builder bound) :
    ∃ state', ReachState.visitAll visit ids state = some (.ok (), state') ∧
      ReachState.Adds builder ids state state' := by
  induction ids generalizing state with
  | nil => exact ⟨state, rfl, .refl state⟩
  | cons id ids ih =>
      obtain ⟨next, hRun, hAdds⟩ := hVisit id List.mem_cons_self state hFlags hClosed
      obtain ⟨state', hRest, hTail⟩ := ih (fun id hMem => hVisit id (List.mem_cons_of_mem _ hMem))
        next (hAdds.1.trans hFlags) (hAdds.closedBelow hClosed)
      refine ⟨state', ?_, hAdds.cons hTail⟩
      rw [ReachState.visitAll, hRun]
      exact hRest

omit [CDouble D] in
/-- What a node reaches: itself, and what its operands reach. -/
theorem reaches_iff {id : SimIRNodeId} {node : SimIRNode D} (hNode : builder.node? id = some node)
    (below : SimIRNodeId) :
    builder.Reaches id below ↔
      below = id ∨ ∃ operand ∈ node.data.operands, builder.Reaches operand below := by
  rw [SimIRBuilder.Reaches, Relation.ReflTransGen.cases_head_iff]
  refine or_congr eq_comm ⟨?_, ?_⟩
  · rintro ⟨operand, ⟨node', hNode', hMem⟩, hRest⟩
    rw [hNode, Option.some.injEq] at hNode'
    exact ⟨operand, hNode' ▸ hMem, hRest⟩
  · rintro ⟨operand, hMem, hRest⟩
    exact ⟨operand, ⟨node, hNode, hMem⟩, hRest⟩

/-- The search from a node above all nodes in progress adds exactly what the node
reaches. Nodes below it which are marked already need no second visit, since all they
reach is marked too. -/
theorem simIrCollectReachableNode_adds (hBuilder : builder.WellFormed) {fuel : ℕ}
    (id : SimIRNodeId) (hFuel : id < fuel) (hId : id < builder.count) (state : ReachState)
    (hStack : ∀ below, below ≤ id → state.stackFlags below = false)
    (hClosed : state.ClosedBelow builder (id + 1)) :
    ∃ state', simIrCollectReachableNode builder fuel id state = some (.ok (), state') ∧
      ReachState.Adds builder [id] state state' := by
  induction fuel generalizing id state with
  | zero => exact absurd hFuel (Nat.not_lt_zero _)
  | succ fuel ih =>
      obtain ⟨node, hNode⟩ := Option.isSome_iff_exists.mp (SimIRBuilder.node?_isSome.mpr hId)
      rw [simIrCollectReachableNode, hNode]
      dsimp only
      rw [hStack id (Nat.le_refl _), if_neg Bool.false_ne_true]
      by_cases hMarked : state.reachable id = true
      · rw [if_pos hMarked]
        refine ⟨state, rfl, rfl, fun below => ⟨.inl, ?_⟩⟩
        rintro (hOld | ⟨start, hStart, hReaches⟩)
        · exact hOld
        · rw [List.mem_singleton] at hStart
          exact hClosed id (Nat.lt_succ_self id) hMarked below (hStart ▸ hReaches)
      · rw [if_neg hMarked]
        have hBelow : ∀ operand ∈ node.data.operands, operand < id :=
          (hBuilder.nodes id node hNode).operands_lt
        have hOperand : ∀ operand ∈ node.data.operands, ∀ entered : ReachState,
            entered.stackFlags = Function.update state.stackFlags id true →
            entered.ClosedBelow builder id →
            ∃ state', simIrCollectReachableNode builder fuel operand entered =
              some (.ok (), state') ∧ ReachState.Adds builder [operand] entered state' := by
          intro operand hMem entered hEntered hEnteredClosed
          have hLt : operand < id := hBelow operand hMem
          refine ih operand (Nat.lt_of_lt_of_le hLt (Nat.le_of_lt_succ hFuel))
            (Nat.lt_trans hLt hId) entered (fun below hLe => ?_) (fun below hLess =>
              hEnteredClosed below (Nat.lt_of_lt_of_le hLess hLt))
          rw [hEntered, Function.update_of_ne (Nat.ne_of_lt (Nat.lt_of_le_of_lt hLe hLt))]
          exact hStack below (Nat.le_trans hLe (Nat.le_of_lt hLt))
        have hEnteredClosed : (⟨Function.update state.reachable id true,
            Function.update state.stackFlags id true⟩ : ReachState).ClosedBelow builder id := by
          intro other hOther hOtherMarked below hReaches
          dsimp only at hOtherMarked ⊢
          have hNe : below ≠ id :=
            Nat.ne_of_lt (Nat.lt_of_le_of_lt (hBuilder.le_of_reaches hReaches) hOther)
          rw [Function.update_of_ne (Nat.ne_of_lt hOther)] at hOtherMarked
          rw [Function.update_of_ne hNe]
          exact hClosed other (Nat.lt_succ_of_lt hOther) hOtherMarked below hReaches
        obtain ⟨state', hRun, hFlags, hMarks⟩ := visitAll_adds hOperand
          ⟨Function.update state.reachable id true, Function.update state.stackFlags id true⟩ rfl
            hEnteredClosed
        dsimp only at hFlags
        rw [hRun]
        refine ⟨_, rfl, ?_, fun below => ?_⟩
        · funext other
          dsimp only
          by_cases hOther : other = id
          · rw [hOther, Function.update_self, hStack id (Nat.le_refl _)]
          · rw [Function.update_of_ne hOther, hFlags, Function.update_of_ne hOther]
        · dsimp only
          rw [hMarks]
          simp only [List.mem_singleton, exists_eq_left]
          rw [reaches_iff hNode]
          by_cases hSelf : below = id
          · simp [hSelf]
          · simp [hSelf]

/-- The search from roots of which the bad ones are refused. -/
theorem visitAll_roots (hBuilder : builder.WellFormed) (roots : List SimIRNodeId)
    (state : ReachState) (hStack : state.stackFlags = fun _ => false)
    (hClosed : state.ClosedBelow builder builder.count) :
    ∃ result state',
      ReachState.visitAll (simIrCollectReachableNode builder (builder.count + 1)) roots state =
        some (result, state') ∧
      (∀ id, builder.count ≤ id → state'.reachable id = state.reachable id) ∧
      (result = .ok () ↔ ∀ root ∈ roots, root < builder.count) ∧
      (result = .ok () → ReachState.Adds builder roots state state') := by
  induction roots generalizing state with
  | nil => exact ⟨.ok (), state, rfl, fun _ _ => rfl, by simp, fun _ => .refl state⟩
  | cons root roots ih =>
      by_cases hRoot : root < builder.count
      · obtain ⟨next, hRun, hAdds⟩ := simIrCollectReachableNode_adds hBuilder root
          (Nat.lt_succ_of_lt hRoot) hRoot state (fun _ _ => by rw [hStack])
            (fun id hId => hClosed id (Nat.lt_of_lt_of_le hId hRoot))
        obtain ⟨result, state', hRest, hOutside, hOk, hTail⟩ := ih next (hAdds.1.trans hStack)
          (hAdds.closedBelow hClosed)
        refine ⟨result, state', ?_, fun id hId => ?_, ?_, fun hResult => hAdds.cons (hTail hResult)⟩
        · rw [ReachState.visitAll, hRun]
          exact hRest
        · rw [hOutside id hId, Bool.eq_iff_iff, hAdds.2, or_iff_left]
          rintro ⟨start, hStart, hReaches⟩
          rw [List.mem_singleton] at hStart
          rw [hStart] at hReaches
          exact hId.not_gt (Nat.lt_of_le_of_lt (hBuilder.le_of_reaches hReaches) hRoot)
        · rw [hOk, List.forall_mem_cons, and_iff_right hRoot]
      · have hNone : builder.node? root = none := by
          rw [← Option.not_isSome_iff_eq_none, SimIRBuilder.node?_isSome]
          exact hRoot
        refine ⟨.error .invalidArgument, state, ?_, fun _ _ => rfl, ?_, fun hResult =>
          (by cases hResult)⟩
        · rw [ReachState.visitAll, simIrCollectReachableNode, hNone]
        · rw [List.forall_mem_cons]
          exact ⟨fun hResult => (by cases hResult), fun hAll => absurd hAll.1 hRoot⟩

/-- Whether the search succeeds, and what it then marks. -/
theorem simIrCollectReachableInto_spec (hBuilder : builder.WellFormed)
    (roots : Option (List SimIRNodeId)) (outReachable : SimIRNodeId → Bool) (reachableCount : ℕ)
    (flagsMemory : Bool) :
    ∃ result reachable,
      simIrCollectReachableInto builder roots outReachable reachableCount flagsMemory =
        some (result, reachable) ∧
      (∀ id, builder.count ≤ id → reachable id = outReachable id) ∧
      (result = .ok () ↔ builder.count ≤ reachableCount ∧ ∃ list, roots = some list ∧
        (builder.count = 0 ∨ flagsMemory = true ∧ ∀ root ∈ list, root < builder.count)) ∧
      ∀ list, roots = some list → result = .ok () → ∀ id < builder.count,
        (reachable id = true ↔ ∃ root ∈ list, builder.Reaches root id) := by
  unfold simIrCollectReachableInto
  by_cases hSmall : builder.count > reachableCount
  · refine ⟨_, _, if_pos hSmall, fun _ _ => rfl, ?_, fun _ _ hResult => (nomatch hResult)⟩
    exact ⟨fun hResult => (nomatch hResult), fun hAll => absurd hAll.1 hSmall.not_ge⟩
  rw [if_neg hSmall]
  rw [not_lt] at hSmall
  cases roots with
  | none =>
      refine ⟨_, _, rfl, fun _ _ => rfl, ?_, fun _ _ hResult => (nomatch hResult)⟩
      exact ⟨fun hResult => (nomatch hResult), fun ⟨_, _, hList, _⟩ => (nomatch hList)⟩
  | some roots =>
      dsimp only
      by_cases hEmpty : builder.count = 0
      · refine ⟨_, _, if_pos hEmpty, fun _ _ => rfl, ?_, fun _ _ _ id hId => ?_⟩
        · exact ⟨fun _ => ⟨hSmall, roots, rfl, .inl hEmpty⟩, fun _ => rfl⟩
        · omega
      rw [if_neg hEmpty]
      cases flagsMemory with
      | false =>
          refine ⟨_, _, if_neg Bool.false_ne_true, fun id hId => if_neg (Nat.not_lt.mpr hId), ?_,
            fun _ _ hResult => (nomatch hResult)⟩
          refine ⟨fun hResult => (nomatch hResult), ?_⟩
          rintro ⟨-, list, -, hZero | ⟨hMemory, -⟩⟩
          · exact absurd hZero hEmpty
          · cases hMemory
      | true =>
          have hCleared : (⟨fun id => if id < builder.count then false else outReachable id,
              fun _ => false⟩ : ReachState).ClosedBelow builder builder.count := by
            intro id hId hMarked
            dsimp only at hMarked
            rw [if_pos hId] at hMarked
            cases hMarked
          obtain ⟨result, state, hRun, hOutside, hOk, hMarks⟩ :=
            visitAll_roots hBuilder roots _ rfl hCleared
          refine ⟨result, state.reachable, by rw [if_pos rfl, hRun]; rfl, fun id hId => ?_, ?_, ?_⟩
          · exact (hOutside id hId).trans (if_neg (Nat.not_lt.mpr hId))
          · rw [hOk]
            constructor
            · intro hRoots
              exact ⟨hSmall, roots, rfl, .inr ⟨rfl, hRoots⟩⟩
            · rintro ⟨-, list, hList, hZero | ⟨-, hRoots⟩⟩
              · exact absurd hZero hEmpty
              · cases hList
                exact hRoots
          · intro list hList hResult id hId
            cases hList
            rw [(hMarks hResult).2]
            dsimp only
            rw [if_pos hId, or_iff_right Bool.false_ne_true]

omit [CDouble D] in
theorem retag_node? (selected : SimIRNodeId → Bool) (opcode : Option SimIROpcode)
    (preserveExisting : Bool) (id : SimIRNodeId) :
    (simIrBuilderRetag builder selected opcode preserveExisting).node? id =
      (builder.node? id).map fun node =>
        if selected id && (!preserveExisting || node.opcode == .misc) then
          { node with opcode := opcode.getD .misc }
        else node := by
  rw [SimIRBuilder.node?, simIrBuilderRetag, List.getElem?_mapIdx]
  rfl

/-- The nodes which rewriting is meant for: those which a root reaches, of which the ones
with an opcode of their own may be kept. -/
def SimIRBuilder.Rewritten (builder : SimIRBuilder D) (preserveExisting : Bool)
    (roots : Option (List SimIRNodeId)) (id : SimIRNodeId) (node : SimIRNode D) : Prop :=
  (∃ list, roots = some list ∧ ∃ root ∈ list, builder.Reaches root id) ∧
    (preserveExisting = false ∨ node.opcode = .misc)

/-- On a built graph the search marks what the roots reach, and a successful rewriting
changes the opcode of the nodes meant, and nothing else. -/
theorem applyOpcodeReachable_spec (builder : SimIRBuilder D) (hBuilt : Built builder) :
    (∀ roots outReachable reachableCount flagsMemory, ∃ result reachable,
      simIrCollectReachableInto builder roots outReachable reachableCount flagsMemory =
        some (result, reachable) ∧
      (∀ id, builder.count ≤ id → reachable id = outReachable id) ∧
      (result = .ok () ↔ builder.count ≤ reachableCount ∧ ∃ list, roots = some list ∧
        (builder.count = 0 ∨ flagsMemory = true ∧ ∀ root ∈ list, root < builder.count)) ∧
      ∀ list, roots = some list → result = .ok () → ∀ id < builder.count,
        (reachable id = true ↔ ∃ root ∈ list, builder.Reaches root id)) ∧
    ∀ memory opcode preserveExisting roots, ∃ result after,
      simIrBuilderApplyOpcodeReachableWith builder memory opcode preserveExisting roots =
        some (result, after) ∧
      (result ≠ .ok () → after = builder) ∧
      after = { builder with nodes := after.nodes } ∧ after.count = builder.count ∧
      (result = .ok () → ∀ id node, builder.node? id = some node →
        (builder.Rewritten preserveExisting roots id node →
          after.node? id = some { node with opcode := opcode.getD .misc }) ∧
        (¬builder.Rewritten preserveExisting roots id node → after.node? id = some node)) := by
  have hBuilder := hBuilt.wellFormed
  refine ⟨simIrCollectReachableInto_spec hBuilder, fun memory opcode preserveExisting roots => ?_⟩
  unfold simIrBuilderApplyOpcodeReachableWith
  split_ifs with hNodes hEmpty hTable
  · exact ⟨_, _, rfl, fun _ => rfl, rfl, rfl, fun hResult => (nomatch hResult)⟩
  · refine ⟨_, _, rfl, fun _ => rfl, rfl, rfl, fun _ id node hNode => ?_⟩
    have hLt := SimIRBuilder.lt_count_of_node? hNode
    rw [hEmpty] at hLt
    exact absurd hLt (Nat.not_lt_zero id)
  · exact ⟨_, _, rfl, fun _ => rfl, rfl, rfl, fun hResult => (nomatch hResult)⟩
  · obtain ⟨result, reachable, hRun, hOutside, hOk, hMarks⟩ := simIrCollectReachableInto_spec
      hBuilder roots (fun _ => false) builder.count memory.flags
    rw [hRun]
    cases result with
    | error e => exact ⟨_, _, rfl, fun _ => rfl, rfl, rfl, fun hResult => (nomatch hResult)⟩
    | ok u =>
        obtain ⟨-, list, rfl, -⟩ := hOk.mp rfl
        have hCount : (simIrBuilderRetag builder reachable opcode preserveExisting).count =
            builder.count := List.length_mapIdx
        refine ⟨_, _, rfl, fun hResult => absurd rfl hResult, rfl, hCount,
          fun _ id node hNode => ?_⟩
        have hMarked := hMarks list rfl rfl id (SimIRBuilder.lt_count_of_node? hNode)
        have hMeant : (reachable id && (!preserveExisting || node.opcode == .misc)) = true ↔
            builder.Rewritten preserveExisting (some list) id node := by
          rw [SimIRBuilder.Rewritten, Bool.and_eq_true, Bool.or_eq_true, Bool.not_eq_true',
            beq_iff_eq, hMarked]
          simp only [Option.some.injEq, exists_eq_left']
        rw [retag_node?, hNode, Option.map_some]
        exact ⟨fun hYes => by rw [if_pos (hMeant.mpr hYes)],
          fun hNo => by rw [if_neg (mt hMeant.mp hNo)]⟩

/-- An index node with an opcode of its own. -/
def flowIndex : SimIRBuilder ℤ :=
  simIrBuilderApplyOpcode (simIrBuilderIndex simIrBuilderInit).2 (some .flow) false

theorem flowIndex_built : Built flowIndex :=
  (Built.init.step (.constructed .index rfl)).step (.applyOpcode _ _ _)

theorem applyOpcodeReachable_spec_flowIndex :
    Built flowIndex ∧ ∀ memory opcode preserveExisting roots, ∃ result after,
      simIrBuilderApplyOpcodeReachableWith flowIndex memory opcode preserveExisting roots =
        some (result, after) ∧ (result ≠ .ok () → after = flowIndex) := by
  refine ⟨flowIndex_built, fun memory opcode preserveExisting roots => ?_⟩
  obtain ⟨result, after, hRun, hError, -⟩ := (applyOpcodeReachable_spec flowIndex
    flowIndex_built).2 memory opcode preserveExisting roots
  exact ⟨result, after, hRun, hError⟩

/-- Without the request to preserve opcodes, an opcode other than `misc` is overwritten. -/
theorem flowIndex_overwritten :
    ¬∀ builder : SimIRBuilder ℤ, Built builder →
      ∀ memory opcode preserveExisting roots result after,
        simIrBuilderApplyOpcodeReachableWith builder memory opcode preserveExisting roots =
          some (result, after) →
        ∀ id node, builder.node? id = some node → after.node? id ≠ some node →
          node.opcode = .misc ∧
            ∃ list, roots = some list ∧ ∃ root ∈ list, builder.Reaches root id := by
  intro hClaim
  have hMisc := hClaim flowIndex flowIndex_built ⟨true, true, true⟩ (some .core) false (some [0])
    (.ok ()) (simIrBuilderApplyOpcode flowIndex (some .core) false) rfl 0 _ rfl (by decide)
  exact absurd hMisc.1 (by decide)

end Oakfield.KernelIR
