import Oakfield.Context.SplitRegistration
import Oakfield.GraphIR.Fusion

/-! Validation of a graph, which fuses it first, against the checks on the nodes as they
were before. -/
namespace Oakfield.GraphIR

open KernelIR Cpu

inductive SimRepresentationMode where
  | strict
  | relaxed
  | exploration
deriving DecidableEq, Repr

structure SimGraphIRCompileContext (D μ : Type) where
  context : SimContext D μ
  representationMode : SimRepresentationMode
  explorationMode : Bool

variable {D μ : Type}

/-! ### The checks -/

/-- `sim_graph_ir_value_kind_compatible`. -/
def simGraphIrValueKindCompatible (required actual : SimFieldValueKind) : Bool :=
  required == actual || (required == .complexScalar && actual.isComplexValued)

/-- `sim_graph_ir_check_representation`, without its warnings. -/
def simGraphIrCheckRepresentation (ctx : SimGraphIRCompileContext D μ)
    (required actual : SimFieldRepresentation) : Except SimError Unit :=
  let tolerant := ctx.explorationMode || ctx.representationMode == .exploration
  if required.domain ≠ .unknown ∧ required.domain ≠ actual.domain ∧ tolerant = false then
    .error .typeMismatch
  else if (required.valueKind ≠ .realScalar ∨ actual.valueKind ≠ .realScalar) ∧
      simGraphIrValueKindCompatible required.valueKind actual.valueKind = false ∧
        tolerant = false then .error .typeMismatch
  else .ok ()

def SimGraphIRNode.produced (node : SimGraphIRNode D) : SimFieldRepresentation :=
  ⟨node.contract.output.domain, node.contract.output.valueKind⟩

/-- The checks on purity. -/
def checkPurity (ctx : SimGraphIRCompileContext D μ) (purity : SimGraphIRPurity) :
    Except SimError Unit :=
  if purity.hasState && !purity.resetOnRewind && ctx.representationMode == .strict then
    .error .notSupported
  else if purity.timeSource == .accumulated && ctx.representationMode == .strict then
    .error .notSupported
  else .ok ()

/-- The checks on the input of node `i`. -/
def checkInput (graph : SimGraphIR D) (ctx : SimGraphIRCompileContext D μ) (i : ℕ)
    (node : SimGraphIRNode D) : Except SimError Unit :=
  match node.input with
  | .none => .ok ()
  | .field index =>
      match ctx.context.fields[index]? with
      | none => .error .invalidArgument
      | some field => simGraphIrCheckRepresentation ctx node.contract.input field.representation
  | .node id =>
      match graph.nodes[id]? with
      | none => .error .invalidArgument
      | some source =>
          if i ≤ id then .error .dependencyError
          else simGraphIrCheckRepresentation ctx node.contract.input source.produced

/-- The check on the output of a node. -/
def checkOutput (ctx : SimGraphIRCompileContext D μ) (node : SimGraphIRNode D) :
    Except SimError Unit :=
  match node.output with
  | .none => .ok ()
  | .temp => .ok ()
  | .field index =>
      match ctx.context.fields[index]? with
      | none => .error .invalidArgument
      | some field => simGraphIrCheckRepresentation ctx node.produced field.representation

/-- The body of the validation loop. -/
def validateNode (graph : SimGraphIR D) (ctx : SimGraphIRCompileContext D μ) (i : ℕ)
    (node : SimGraphIRNode D) : Except SimError Unit := do
  checkPurity ctx node.contract.purity
  checkInput graph ctx i node
  checkOutput ctx node

def validateNodes (graph : SimGraphIR D) (ctx : SimGraphIRCompileContext D μ) :
    ℕ → List (SimGraphIRNode D) → Except SimError Unit
  | _, [] => .ok ()
  | i, node :: nodes => do
      validateNode graph ctx i node
      validateNodes graph ctx (i + 1) nodes

/-- `sim_graph_ir_validate`. -/
def simGraphIrValidate (raw : RawEqual D) (allocate : ℕ → Bool) (graph : SimGraphIR D)
    (ctx : SimGraphIRCompileContext D μ) : SimGraphIR D × Except SimError Unit :=
  match simGraphIrFusePointwise raw allocate graph with
  | (fused, .error failure) => (fused, .error failure)
  | (fused, .ok _) =>
      if fused.edges.any fun edge =>
          decide (fused.nodes.length ≤ edge.source ∨ fused.nodes.length ≤ edge.target) then
        (fused, .error .invalidArgument)
      else (fused, validateNodes fused ctx 0 fused.nodes)

/-! ### Validity -/

/-- Every check of the loop passes on every node of a graph. -/
def Valid (graph : SimGraphIR D) (ctx : SimGraphIRCompileContext D μ) : Prop :=
  ∀ (i : ℕ) node, graph.nodes[i]? = some node → validateNode graph ctx i node = .ok ()

/-- A node which fusion merges into one on its left. -/
def Absorbed (raw : RawEqual D) (graph : SimGraphIR D) (id : ℕ) : Prop :=
  ∃ left < id, graph.home raw left = graph.home raw id

/-- The checks which fusion drops: those on the nodes which it absorbs, and those of the
readers of such a node against its own contract. -/
structure AbsorbedValid (raw : RawEqual D) (graph : SimGraphIR D)
    (ctx : SimGraphIRCompileContext D μ) : Prop where
  node : ∀ (i : ℕ) node, graph.nodes[i]? = some node → Absorbed raw graph i →
    validateNode graph ctx i node = .ok ()
  reader : ∀ (i id : ℕ) node source, graph.nodes[i]? = some node → node.input = .node id →
    graph.nodes[id]? = some source → Absorbed raw graph id →
      simGraphIrCheckRepresentation ctx node.contract.input source.produced = .ok ()

variable {graph : SimGraphIR D} {ctx : SimGraphIRCompileContext D μ}

/-- A sequence of checks passes if each of them does. -/
theorem andThen_ok {first second : Except SimError Unit} :
    (do first; second) = .ok () ↔ first = .ok () ∧ second = .ok () := by
  cases first with
  | error failure => exact ⟨fun hRun => (by cases hRun), fun hBoth => hBoth.1.symm ▸ hBoth.2⟩
  | ok code => exact ⟨fun hRun => ⟨rfl, hRun⟩, fun hBoth => hBoth.2⟩

theorem validateNode_ok {i : ℕ} {node : SimGraphIRNode D} :
    validateNode graph ctx i node = .ok () ↔
      checkPurity ctx node.contract.purity = .ok () ∧ checkInput graph ctx i node = .ok () ∧
        checkOutput ctx node = .ok () := by
  rw [validateNode, andThen_ok, andThen_ok]

/-- The loop passes exactly if every node does. -/
theorem validateNodes_ok {first : ℕ} {nodes : List (SimGraphIRNode D)} :
    validateNodes graph ctx first nodes = .ok () ↔
      ∀ (k : ℕ) node, nodes[k]? = some node → validateNode graph ctx (first + k) node = .ok () := by
  induction nodes generalizing first with
  | nil => simp [validateNodes]
  | cons head nodes ih =>
      rw [validateNodes, andThen_ok, ih]
      constructor
      case mp =>
        rintro ⟨hHead, hNodes⟩ k node hNode
        cases k with
        | zero =>
            cases hNode
            exact hHead
        | succ k =>
            rw [show first + (k + 1) = first + 1 + k by omega]
            exact hNodes k node hNode
      case mpr =>
        intro hAll
        refine ⟨hAll 0 head rfl, fun k node hNode => ?_⟩
        rw [show first + 1 + k = first + (k + 1) by omega]
        exact hAll (k + 1) node hNode

/-- Accepted graphs have been fused, and the fused graph is valid. -/
theorem simGraphIrValidate_ok {raw : RawEqual D} {allocate : ℕ → Bool} {fused : SimGraphIR D}
    (hRun : simGraphIrValidate raw allocate graph ctx = (fused, .ok ())) :
    FusedBy (graph.home raw) graph fused ∧ Valid fused ctx := by
  rw [simGraphIrValidate] at hRun
  split at hRun
  case h_1 => cases hRun
  case h_2 later code hFuse =>
    split at hRun
    case isTrue => cases hRun
    case isFalse =>
      obtain ⟨rfl, hNodes⟩ := Prod.mk.inj hRun
      refine ⟨fusedBy_simGraphIrFusePointwise hFuse, fun i node hNode => ?_⟩
      have hNode := validateNodes_ok.mp hNodes i node hNode
      rwa [Nat.zero_add] at hNode

/-- A node which has not been absorbed is in the fused graph. -/
theorem FusedBy.survivor {raw : RawEqual D} {fused : SimGraphIR D} {i : ℕ}
    {node : SimGraphIRNode D} (hFused : FusedBy (graph.home raw) graph fused)
    (hNode : graph.nodes[i]? = some node) (hKept : ¬ Absorbed raw graph i) :
    ∃ later, fused.nodes[graph.home raw i]? = some later ∧
      later.input = node.input.map (graph.home raw) ∧ later.output = node.output ∧
        later.contract = node.contract := by
  have hLt := (hFused.lt_iff i).mpr (List.getElem?_eq_some_iff.mp hNode).1
  obtain ⟨lead, first, hFirst, hHome, hLeast, hSame⟩ :=
    hFused.node _ _ (List.getElem?_eq_getElem hLt)
  have hLead : lead = i := by
    have hLe := hLeast i rfl
    by_contra hOther
    exact hKept ⟨lead, by omega, hHome⟩
  subst hLead
  cases hFirst.symm.trans hNode
  exact ⟨_, List.getElem?_eq_getElem hLt, hSame⟩

/-- The checks on a surviving node, from those on the node of the fused graph. -/
theorem checkInput_of_fused {raw : RawEqual D} {fused : SimGraphIR D} {i : ℕ}
    {node later : SimGraphIRNode D} (hFused : FusedBy (graph.home raw) graph fused)
    (hInput : later.input = node.input.map (graph.home raw))
    (hContract : later.contract = node.contract)
    (hReader : ∀ (id : ℕ) source, node.input = .node id → graph.nodes[id]? = some source →
      Absorbed raw graph id →
        simGraphIrCheckRepresentation ctx node.contract.input source.produced = .ok ())
    (hCheck : checkInput fused ctx (graph.home raw i) later = .ok ()) :
    checkInput graph ctx i node = .ok () := by
  unfold checkInput at hCheck ⊢
  rw [hInput, hContract] at hCheck
  cases hRef : node.input with
  | none => rfl
  | field index => simpa [hRef, SimGraphIRInputRef.map] using hCheck
  | node id =>
      simp only [hRef, SimGraphIRInputRef.map] at hCheck ⊢
      split at hCheck
      case h_1 => cases hCheck
      case h_2 moved hMoved =>
        split at hCheck
        case isTrue => cases hCheck
        case isFalse hBefore =>
          have hLt : id < graph.nodes.length :=
            (hFused.lt_iff id).mp (List.getElem?_eq_some_iff.mp hMoved).1
          have hOrder : ¬ i ≤ id := fun hLe => hBefore (hFused.monotone hLe)
          have hSource := List.getElem?_eq_getElem hLt
          rw [hSource]
          simp only [hOrder, if_false]
          by_cases hAbsorbed : Absorbed raw graph id
          case pos => exact hReader id _ hRef hSource hAbsorbed
          case neg =>
            obtain ⟨kept, hKept, -, -, hSame⟩ := hFused.survivor hSource hAbsorbed
            cases hKept.symm.trans hMoved
            rw [SimGraphIRNode.produced, hSame] at hCheck
            exact hCheck

/-- A graph which validation accepts was valid before fusion exactly if the checks which
fusion drops pass. -/
theorem valid_iff (raw : RawEqual D) (allocate : ℕ → Bool) (graph fused : SimGraphIR D)
    (ctx : SimGraphIRCompileContext D μ)
    (hRun : simGraphIrValidate raw allocate graph ctx = (fused, .ok ())) :
    Valid graph ctx ↔ AbsorbedValid raw graph ctx := by
  obtain ⟨hFused, hValid⟩ := simGraphIrValidate_ok hRun
  constructor
  case mp =>
    intro hAll
    refine ⟨fun i node hNode _ => hAll i node hNode, ?_⟩
    intro i id node source hNode hInput hSource _
    have hCheck := (validateNode_ok.mp (hAll i node hNode)).2.1
    simp only [checkInput, hInput, hSource] at hCheck
    split at hCheck
    case isTrue => cases hCheck
    case isFalse => exact hCheck
  case mpr =>
    intro hDropped i node hNode
    by_cases hAbsorbed : Absorbed raw graph i
    case pos => exact hDropped.node i node hNode hAbsorbed
    case neg =>
      obtain ⟨later, hLater, hInput, hOutput, hContract⟩ := hFused.survivor hNode hAbsorbed
      obtain ⟨hPurity, hRead, hWrite⟩ := validateNode_ok.mp (hValid _ later hLater)
      refine validateNode_ok.mpr ⟨by rwa [hContract] at hPurity, ?_, ?_⟩
      · exact checkInput_of_fused hFused hInput hContract
          (fun id source => hDropped.reader i id node source hNode) hRead
      · rw [checkOutput, SimGraphIRNode.produced, hOutput, hContract] at hWrite
        exact hWrite

/-- The bytes of equal integers are equal. -/
def sameIntegers : RawEqual ℤ := ⟨fun a b => a == b, fun a b => a == b⟩

/-- A kernel which writes field 0 of the expression to the output `field` of the context. -/
def copyNode (irField field : ℕ) (purity : SimGraphIRPurity) : SimGraphIRNode ℤ where
  data := .pointwiseKernel
    { builder := BuilderCall.runAll [.fieldRef 0]
      bindingMap := [⟨0, 0⟩, ⟨1, 0⟩]
      outputs := [⟨irField, 0⟩]
      params := []
      requiredFeatures := 0
      complexSemantics := .componentwise }
  input := .none
  output := .field field
  contract := ⟨⟨.unknown, .realScalar⟩, ⟨.unknown, .realScalar, true, true⟩, purity⟩

/-- The second kernel has state which a rewind does not reset, and an output field which the
context does not have. -/
def hiddenState : SimGraphIR ℤ where
  nodes := [copyNode 0 0 ⟨.none, .none, false, false⟩, copyNode 1 9 ⟨.none, .none, true, false⟩]
  edges := []

def strictContext : SimGraphIRCompileContext ℤ Unit := ⟨oneField, .strict, false⟩

/-- Validation accepts the fused graph in strict mode, and the second node fails its checks. -/
theorem hiddenState_not_valid :
    (simGraphIrValidate sameIntegers (fun _ => true) hiddenState strictContext).2 = .ok () ∧
      hiddenState.nodes.map (validateNode hiddenState strictContext 1) =
        [.ok (), .error .notSupported] ∧
      ¬ Valid hiddenState strictContext := by
  refine ⟨by decide, by decide, fun hValid => ?_⟩
  have hSecond := hValid 1 _ rfl
  exact absurd hSecond (by decide)

theorem valid_iff_hiddenState :
    Valid hiddenState strictContext ↔ AbsorbedValid sameIntegers hiddenState strictContext :=
  valid_iff sameIntegers (fun _ => true) hiddenState
    (simGraphIrValidate sameIntegers (fun _ => true) hiddenState strictContext).1 strictContext
    (Prod.ext rfl (by decide))

end Oakfield.GraphIR
