import Oakfield.Cpu.EvalInteger
import Oakfield.Cpu.EvalNode
import Oakfield.KernelIR.ConstantLanes

/-! Constants are read back as they were written: over every later state of the builder
and its clone, by the evaluators of the core and of the CPU backend. -/
namespace Oakfield.Cpu

open KernelIR CDouble

variable {D : Type} [CDouble D] {builder builder' later : SimIRBuilder D} {id : SimIRNodeId}
  {lanes : List D} {given : Option Word}

/-- Every evaluator which accepts a node reads the given lanes from it: the real one
the first, the complex one the first two, the CPU backend each; and the integer ones the
given integer. -/
structure ReadsBack (builder : SimIRBuilder D) (id : SimIRNodeId) (lanes : List D)
    (given : Option Word) : Prop where
  lane : ∀ component value, lanes[component]? = some value →
    builder.constantLane id component = some value
  real : ∀ node, builder.node? id = some node → node.valueType.isRealScalar = true →
    ∀ evaluator, simIrEvaluate builder id evaluator = lanes[0]?.map Except.ok
  complex : ∀ evaluator re im, lanes[0]? = some re → lanes[1]? = some im →
    simIrEvaluateComplex builder id evaluator = some (.ok ⟨re, im⟩)
  integer : ∀ node word, builder.node? id = some node → given = some word →
    ∀ evaluator, simIrEvaluateDomain builder id evaluator =
      some (.ok ⟨node.valueType.domain, word, 0⟩)
  cpu : ∀ (kernel : Kernel D) fields reference elementIndex node, kernel.builder = builder →
    builder.node? id = some node → ∀ component value, lanes[component]? = some value →
      backendCpuEvalNode kernel fields reference elementIndex node component = pure value
  cpuInteger : ∀ (kernel : Kernel D) fields elementIndex node word, kernel.builder = builder →
    builder.node? id = some node → given = some word → ∃ raw,
      backendCpuEvaluateInteger kernel fields elementIndex id = some (.ok raw) ∧
        node.valueType.domain.IsRaw raw word

/-- The CPU backend reads what the lookup of the core reads. -/
theorem backendCpuConstantLane_eq (hBuilder : builder.WellFormed) {node : SimIRNode D}
    {constant : SimIRConstant D} (hNode : builder.node? id = some node)
    (hData : node.data = .constant constant) {component : ℕ} {value : D}
    (hRead : simIrConstantComponent builder node component = some value) :
    backendCpuConstantLane builder node.valueType constant component = value := by
  have hWell := hBuilder.nodes id node hNode
  have hFits : constant.Fits builder node.valueType := by
    have hTyped := hWell.typed
    rwa [hData] at hTyped
  have hScalar := hWell.normalized.isScalar_eq_false
  have hPos := hWell.normalized.components_pos
  unfold simIrConstantComponent at hRead
  unfold backendCpuConstantLane
  rw [hData] at hRead
  dsimp only at hRead
  cases hIndex : constant.constantIndex with
  | none =>
      rw [hIndex] at hRead
      dsimp only at hRead ⊢
      cases hType : node.valueType.isScalar with
      | true =>
          rw [hType, if_neg (fun h => absurd h.2 Bool.true_eq_false_eq_False)] at hRead
          exact Option.some.inj hRead
      | false =>
          rw [if_neg Bool.false_ne_true]
          split at hRead
          case isTrue hSmall =>
            rw [if_pos hSmall.1]
            split at hRead
            case isTrue => rw [List.getD_eq_getElem?_getD, hRead]; rfl
            case isFalse => cases hRead
          case isFalse hLarge =>
            rw [if_neg (fun h => hLarge ⟨h, hType⟩)]
            exact Option.some.inj hRead
  | some k =>
      obtain ⟨hComponents, hWide⟩ := hFits.pooled k hIndex
      have hVector : node.valueType.isScalar = false :=
        hScalar.mpr (Nat.lt_of_le_of_lt (by decide) hWide)
      rw [hIndex] at hRead
      dsimp only at hRead ⊢
      rw [hVector, if_neg Bool.false_ne_true]
      cases hOffset : builder.constantsOffsets[k]? with
      | none => simp [hOffset] at hRead
      | some offset =>
          simp only [hOffset, hComponents] at hRead
          dsimp only
          split at hRead
          case isTrue => rw [List.getD_eq_getElem?_getD, hRead]; rfl
          case isFalse => cases hRead

/-- Stored lanes and integers are read by every evaluator. -/
theorem readsBack_of_stores (hStores : builder.Stores id lanes given) (hBuilder : builder.WellFormed) :
    ReadsBack builder id lanes given := by
  obtain ⟨node, constant, hNode, hData, hLength, hGiven⟩ := hStores.payload
  have hWell := hBuilder.nodes id node hNode
  have hUnique : ∀ node', builder.node? id = some node' → node' = node :=
    fun node' hNode' => Option.some.inj (hNode'.symm.trans hNode)
  have hLane : ∀ component value, lanes[component]? = some value →
      simIrConstantComponent builder node component = some value := by
    intro component value hGet
    have hRead := hStores.lane component value hGet
    rwa [SimIRBuilder.constantLane, hNode, Option.bind_some] at hRead
  have hInteger : ∀ word, given = some word → node.valueType.domain.isInteger = true ∧
      (!node.valueType.isScalar || !node.valueType.domain.isInteger) = false := by
    intro word hWord
    obtain ⟨hScalar, -, hRaw⟩ := hGiven word hWord
    rw [hScalar, hRaw.1.1]
    exact ⟨rfl, rfl⟩
  constructor
  case lane => exact hStores.lane
  case real =>
    intro node' hNode' hReal evaluator
    obtain rfl := hUnique node' hNode'
    have hPos : 0 < lanes.length := hLength ▸ hWell.normalized.components_pos
    have hFirst := List.getElem?_eq_getElem hPos
    rw [simIrEvaluate, hNode]
    dsimp only
    rw [hReal, if_neg (by simp), hFirst, Option.map_some]
    apply evaluateNodes_leaf hBuilder hNode
    rw [simIrEvaluateImpl, hReal, if_neg (by simp), hData]
    dsimp only
    rw [hLane 0 _ hFirst]
  case complex =>
    intro evaluator re im hRe hIm
    have hTwo : 2 ≤ node.valueType.components :=
      hLength ▸ (List.getElem?_eq_some_iff.mp hIm).1
    rw [simIrEvaluateComplex, if_neg (Nat.not_le.mpr (SimIRBuilder.lt_count_of_node? hNode))]
    apply evaluateNodes_leaf hBuilder hNode
    rw [simIrEvaluateImplComplex, hData]
    dsimp only
    rw [simIrComplexConstant, if_pos hTwo, hLane 0 re hRe, hLane 1 im hIm]
    rfl
  case integer =>
    intro node' word hNode' hWord evaluator
    obtain rfl := hUnique node' hNode'
    obtain ⟨hScalar, hExact, hRaw⟩ := hGiven word hWord
    obtain ⟨hDomain, hAccepted⟩ := hInteger word hWord
    have hBody : simIrEvaluateImplInteger evaluator node' = pure
        (simIrIntegerTruncate (simIrIntegerTruncate constant.unsignedScalar node'.valueType.domain)
          node'.valueType.domain) := by
      rw [simIrEvaluateImplInteger, simIrEvaluateInteger, hAccepted, hData]
      dsimp only
      rw [if_neg Bool.false_ne_true, simIrConstantIntegerRaw, hDomain, hExact]
      rfl
    rw [simIrEvaluateDomain, hNode]
    dsimp only
    rw [SimIRType.isScalar_normalize, SimIRType.domain_normalize, hScalar, hDomain,
      if_neg (by simp), if_pos rfl, evaluateNodes_leaf hBuilder hNode hBody, Option.map_some,
      Except.map]
    apply congrArg (fun value => some (Except.ok value))
    apply hRaw.domainValue
    rw [intValue_truncate hRaw.1, intValue_truncate hRaw.1]
  case cpu =>
    intro kernel fields reference elementIndex node' hKernel hNode' component value hGet
    obtain rfl := hUnique node' hNode'
    rw [backendCpuEvalNode, hData]
    dsimp only
    rw [hKernel, backendCpuConstantLane_eq hBuilder hNode hData (hLane component value hGet)]
  case cpuInteger =>
    intro kernel fields elementIndex node' word hKernel hNode' hWord
    obtain rfl := hUnique node' hNode'
    obtain ⟨hScalar, hExact, hRaw⟩ := hGiven word hWord
    obtain ⟨hDomain, hAccepted⟩ := hInteger word hWord
    have hBody : backendCpuEvalIntegerNode kernel fields elementIndex node' = pure
        (simIrIntegerTruncate (simIrIntegerTruncate constant.unsignedScalar node'.valueType.domain)
          node'.valueType.domain) := by
      rw [backendCpuEvalIntegerNode, backendCpuEvalInteger, hAccepted, hData]
      dsimp only
      rw [if_neg Bool.false_ne_true, hExact, if_pos rfl]
      rfl
    refine ⟨simIrIntegerTruncate (simIrIntegerTruncate constant.unsignedScalar
      node'.valueType.domain) node'.valueType.domain, ?_, hRaw.1, ?_⟩
    · rw [backendCpuEvaluateInteger, hKernel]
      exact evaluateNodes_leaf hBuilder hNode hBody
    · rw [intValue_truncate hRaw.1, intValue_truncate hRaw.1]
      exact hRaw.2

/-- Constants read back as they are written, at every later time and in a clone, exactly
if the constructor keeps its arguments. -/
theorem constant_readsBack_iff (hEqual : EqualAreCanonical D) (hBuilt : Built builder)
    {call : BuilderCall D} (hRun : call.run builder = some (id, builder'))
    (hLanes : call.givenLanes = some lanes) :
    (∀ later, builder'.Later later → ReadsBack later id lanes call.givenWord ∧
      ReadsBack (simGraphIrBuilderClone later) id lanes call.givenWord) ↔ call.KeepsConstant := by
  obtain ⟨stored, hStored⟩ : ∃ stored, call.storedLanes = some stored := by
    cases call with
    | constantTyped value type =>
        rw [BuilderCall.storedLanes]
        split <;> exact ⟨_, rfl⟩
    | constant value => exact ⟨_, rfl⟩
    | constantI64Typed value type => exact ⟨_, rfl⟩
    | constantU64Typed value type => exact ⟨_, rfl⟩
    | constantVector values => exact ⟨_, rfl⟩
    | constantVectorTyped values type => exact ⟨_, rfl⟩
    | constantComplex real imag => exact ⟨_, rfl⟩
    | _ => cases hLanes
  have hStores : builder'.Stores id stored call.givenWord :=
    call.yieldsStored hEqual hBuilt hStored _ hRun
  have hBuilt' := hBuilt.step (.constructed call hRun)
  rw [← call.givenLanes_eq_iff hRun, hLanes, hStored, Option.some_inj]
  constructor
  · intro hReads
    have hNow := (hReads builder' .refl).1
    apply List.ext_getElem?
    intro component
    by_cases hLt : component < lanes.length
    · have hGiven := hNow.lane component _ (List.getElem?_eq_getElem hLt)
      have hLength := call.length_givenLanes hRun hLanes hStored
      have hKept := hStores.lane component _ (List.getElem?_eq_getElem (hLength ▸ hLt))
      rw [List.getElem?_eq_getElem hLt, List.getElem?_eq_getElem (hLength ▸ hLt), ← hGiven, hKept]
    · have hLength := call.length_givenLanes hRun hLanes hStored
      rw [List.getElem?_eq_none (Nat.not_lt.mp hLt),
        List.getElem?_eq_none (hLength ▸ Nat.not_lt.mp hLt)]
  · rintro rfl later hLater
    have hCount : 0 < builder'.count := by
      obtain ⟨node, -, hNode, -⟩ := hStores.payload
      exact Nat.lt_of_le_of_lt (Nat.zero_le id) (SimIRBuilder.lt_count_of_node? hNode)
    have hBuiltLater := hLater.built hBuilt'
    have hReads := readsBack_of_stores (hStores.grown (hLater.grown hCount).1)
      hBuiltLater.wellFormed
    rw [simGraphIrBuilderClone_eq hBuiltLater]
    exact ⟨hReads, hReads⟩

/-- Exact integers compare equal only if they are equal. -/
theorem equalAreCanonical_int : EqualAreCanonical ℤ := by
  intro a b hEq
  rw [show a = b by simpa [eq] using hEq]

/-- A vector of five lanes after the same vector, whose pool entry it shares. -/
theorem constant_readsBack_shared :
    (∀ later, (BuilderCall.runAll [.constantVector [(1 : ℤ), 2, 3, 4, 5],
        .constantVector [1, 2, 3, 4, 5]]).Later later →
      ReadsBack later 1 [1, 2, 3, 4, 5] none ∧
        ReadsBack (simGraphIrBuilderClone later) 1 [1, 2, 3, 4, 5] none) ↔
      (BuilderCall.constantVector [(1 : ℤ), 2, 3, 4, 5]).KeepsConstant :=
  @constant_readsBack_iff ℤ _ _ _ 1 _ equalAreCanonical_int
    (built_runAll [.constantVector [1, 2, 3, 4, 5]]) (.constantVector [1, 2, 3, 4, 5]) rfl rfl

/-- A scalar for a type of three lanes. -/
def smallBroadcast : SimIRBuilder ℤ :=
  BuilderCall.runAll [.constantTyped 5 (simIrTypeVector 3)]

/-- The scalar is stored, and the inline lanes which are read are zero. -/
theorem smallBroadcast_notReadBack :
    (BuilderCall.constantTyped 5 (simIrTypeVector 3)).run simIrBuilderInit =
        some (0, smallBroadcast) ∧
      (BuilderCall.constantTyped (5 : ℤ) (simIrTypeVector 3)).givenLanes = some [5, 5, 5] ∧
      smallBroadcast.constantLane 0 0 = some 0 ∧
      ¬∀ later, smallBroadcast.Later later → ReadsBack later 0 [5, 5, 5] none := by
  refine ⟨rfl, rfl, rfl, fun hReads => ?_⟩
  have hLane := (hReads smallBroadcast .refl).lane 0 5 rfl
  exact absurd hLane (by decide)

end Oakfield.Cpu
