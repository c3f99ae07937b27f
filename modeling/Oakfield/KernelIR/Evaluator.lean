import Oakfield.KernelIR.BuilderRun
import Oakfield.KernelIR.Warp
import Oakfield.Library.MemoMeaning
import Mathlib.Logic.Relation

/-! What the evaluators of kernel expressions share: caller callbacks, values of
a scalar domain, and the memoised recursion over node identifiers. -/
namespace Oakfield.KernelIR

open CDouble Library.Memo

variable {D : Type} [CDouble D]

/-- `SimComplexDouble`. -/
structure SimComplexDouble (D : Type) where
  re : D
  im : D
deriving DecidableEq, Repr

/-- `SimIRDomainValue`. The payload is a union of one or two machine words. -/
structure SimIRDomainValue where
  domain : SimScalarDomain
  first : Word
  second : Word
deriving DecidableEq, Repr

def simIrDomainValueZero (domain : SimScalarDomain) : SimIRDomainValue := ⟨domain, 0, 0⟩

/-- The union member `as_f64`. -/
def SimIRDomainValue.asF64 (value : SimIRDomainValue) : D := ofBits value.first

/-- The union member `as_complex`. -/
def SimIRDomainValue.asComplex (value : SimIRDomainValue) : SimComplexDouble D :=
  ⟨ofBits value.first, ofBits value.second⟩

def SimIRDomainValue.ofF64 (domain : SimScalarDomain) (value : D) : SimIRDomainValue :=
  ⟨domain, toBits value, 0⟩

def SimIRDomainValue.ofComplex (domain : SimScalarDomain) (value : SimComplexDouble D) :
    SimIRDomainValue :=
  ⟨domain, toBits value.re, toBits value.im⟩

/-- A value without a domain takes the expected one. -/
def SimIRDomainValue.inDomain (value : SimIRDomainValue) (expected : SimScalarDomain) :
    SimIRDomainValue :=
  if value.domain.kind = .unknown then { value with domain := expected } else value

/-- `SimIREvaluator`: callbacks, `none` when null. The callbacks answer each
request the same way every time. -/
structure SimIREvaluator (D : Type) where
  fieldValue : Option (ℕ → SimIRType → Except SimError D)
  differential : Option (SimIRBuilder D → SimIRNode D → SimIRNodeId → D → Except SimError D)
  noise : Option (SimIRNode D → Except SimError D)
  paramValue : Option (SimIRParamKind → Except SimError D)

structure SimIREvaluatorComplex (D : Type) where
  fieldValueC : Option (ℕ → SimIRType → Except SimError (SimComplexDouble D))
  differentialC : Option (SimIRBuilder D → SimIRNode D → SimIRNodeId → SimComplexDouble D →
    Except SimError (SimComplexDouble D))
  noiseC : Option (SimIRNode D → Except SimError (SimComplexDouble D))
  paramValue : Option (SimIRParamKind → Except SimError D)

structure SimIREvaluatorDomain (D : Type) where
  fieldValue : Option (ℕ → SimIRType → SimScalarDomain → Except SimError SimIRDomainValue)
  differential : Option (SimIRBuilder D → SimIRNode D → SimIRNodeId → SimScalarDomain →
    SimIRDomainValue → Except SimError SimIRDomainValue)
  noise : Option (SimIRNode D → SimScalarDomain → Except SimError SimIRDomainValue)
  paramValue : Option (SimIRParamKind → SimScalarDomain → Except SimError SimIRDomainValue)

/-- `sim_ir_constant_component`. -/
def simIrConstantComponent (builder : SimIRBuilder D) (node : SimIRNode D) (component : ℕ) :
    Option D :=
  match node.data with
  | .constant value =>
      match value.constantIndex with
      | none =>
          if node.valueType.components ≤ simIrSmallConstantCapacity ∧
              node.valueType.isScalar = false then
            if component < node.valueType.components then value.small[component]? else none
          else some value.scalar
      | some k =>
          match builder.constantsOffsets[k]?, builder.constantsComponents[k]? with
          | some offset, some components =>
              if component < components then builder.constantsData[offset + component]? else none
          | _, _ => none
  | _ => none

/-! ### The recursion over nodes -/

/-- Bodies of nodes which ask for other nodes of the same builder. -/
abbrev NodeProgram (V : Type) := Program SimIRNodeId Unit V Empty SimError

/-- Identifiers outside the builder are refused, a node which needs itself is a
dependency error. -/
def nodeRules {V : Type} (builder : SimIRBuilder D) (body : SimIRNode D → NodeProgram V V) :
    Rules SimIRNodeId Unit V Empty SimError where
  reject id := if builder.count ≤ id then some .invalidArgument else none
  cyclic := .dependencyError
  exhausted := .outOfMemory
  body _ id :=
    match builder.node? id with
    | none => .fail .invalidArgument
    | some node => body node

/-- Evaluate a root over cleared flags. `none` is a trap of the machine; the
flags bound the depth of the recursion by the number of nodes. -/
def evaluateNodes {V : Type} (builder : SimIRBuilder D) (body : SimIRNode D → NodeProgram V V)
    (root : SimIRNodeId) : Option (Except SimError V) :=
  (eval (nodeRules builder body) fresh (fun e w => (nomatch e, w)) (builder.count + 1) () root
    [fun _ => .clean] ()).map fun out => out.1

/-- The value of a node over an acyclic graph, without flags and cache. -/
def nodeMeaning {V : Type} (builder : SimIRBuilder D) (body : SimIRNode D → NodeProgram V V)
    (id : SimIRNodeId) : Option (Except SimError V) :=
  meaning (nodeRules builder body) (fun e => nomatch e) (fun id => id) () id

/-- One node is an operand of another. -/
def SimIRBuilder.HasOperand (builder : SimIRBuilder D) (id operand : SimIRNodeId) : Prop :=
  ∃ node, builder.node? id = some node ∧ operand ∈ node.data.operands

/-- The nodes of the expression at a root. -/
def SimIRBuilder.Reaches (builder : SimIRBuilder D) : SimIRNodeId → SimIRNodeId → Prop :=
  Relation.ReflTransGen builder.HasOperand

section Recursion

variable {V : Type} {builder : SimIRBuilder D} {body : SimIRNode D → NodeProgram V V}
  {good : SimIRNodeId → Prop}

/-- Bodies of the nodes in `good` cannot fault and ask for their operands. -/
def AsksOperands (builder : SimIRBuilder D) (body : SimIRNode D → NodeProgram V V)
    (good : SimIRNodeId → Prop) : Prop :=
  ∀ id node, good id → builder.node? id = some node →
    (body node).Within fun operand => good operand ∧ operand ∈ node.data.operands

theorem ranked_of_asksOperands (hBuilder : builder.WellFormed)
    (hAsks : AsksOperands builder body good) :
    Ranked (nodeRules builder body) good fun id => id := by
  intro c id hGood _
  simp only [nodeRules]
  cases hNode : builder.node? id with
  | none => trivial
  | some node =>
      exact (hAsks id node hGood hNode).mono fun operand hOperand =>
        ⟨hOperand.1, (hBuilder.nodes id node hNode).operands_lt operand hOperand.2⟩

/-- Flags and cache do not change the result over a well-formed graph. -/
theorem evaluateNodes_eq_meaning (hBuilder : builder.WellFormed)
    (hAsks : AsksOperands builder body good) {root : SimIRNodeId} (hGood : good root)
    (hRoot : root < builder.count) :
    evaluateNodes builder body root = nodeMeaning builder body root := by
  have hEval : ∃ tbl, eval (nodeRules builder body) fresh (fun e w => (nomatch e, w))
      (builder.count + 1) () root [fun _ => .clean] () =
        (nodeMeaning builder body root).map fun r => (r, [tbl], ()) :=
    eval_fresh (ranked_of_asksOperands hBuilder hAsks) (fun e => nomatch e) () root [] () hGood
      (Nat.lt_succ_of_lt hRoot)
  obtain ⟨tbl, hEval⟩ := hEval
  rw [evaluateNodes, hEval, Option.map_map]
  exact congrFun Option.map_id _

/-- Evaluation over a well-formed graph has a result. -/
theorem evaluateNodes_isSome (hBuilder : builder.WellFormed)
    (hAsks : AsksOperands builder body good) {root : SimIRNodeId} (hGood : good root)
    (hRoot : root < builder.count) : ∃ result, evaluateNodes builder body root = some result := by
  obtain ⟨r, tbl, hEval, -⟩ := eval_transparent (ranked_of_asksOperands hBuilder hAsks)
    ⟨fun e => (nomatch e), fun e => (nomatch e)⟩ () root [] () hGood (Nat.lt_succ_of_lt hRoot)
    (Valid.empty (nodeRules builder body) (fun e w => (nomatch e, w)) _ () ()) fun q' h => by cases h
  exact ⟨r, by rw [evaluateNodes, hEval]; rfl⟩

/-- A node means its body over the meanings of its operands. -/
theorem nodeMeaning_eq (hBuilder : builder.WellFormed) (hAsks : AsksOperands builder body good)
    {id : SimIRNodeId} {node : SimIRNode D} (hGood : good id) (hNode : builder.node? id = some node) :
    nodeMeaning builder body id =
      (body node).interpret (fun _ operand => nodeMeaning builder body operand)
        (fun e => nomatch e) () := by
  have hReject : (nodeRules builder body).reject id = none := by
    simp [nodeRules, Nat.not_le.mpr (SimIRBuilder.lt_count_of_node? hNode)]
  rw [nodeMeaning, meaning_eq (ranked_of_asksOperands hBuilder hAsks) () hGood hReject]
  simp only [nodeRules, hNode]
  rfl

/-- A node whose body asks for nothing evaluates to its value. -/
theorem evaluateNodes_leaf (hBuilder : builder.WellFormed) {id : SimIRNodeId} {node : SimIRNode D}
    {value : V} (hNode : builder.node? id = some node) (hBody : body node = pure value) :
    evaluateNodes builder body id = some (.ok value) := by
  have hAsks : AsksOperands builder body (· = id) := by
    rintro _ node' rfl hNode'
    cases hNode.symm.trans hNode'
    rw [hBody]
    exact within_pure _
  rw [evaluateNodes_eq_meaning hBuilder hAsks rfl (SimIRBuilder.lt_count_of_node? hNode),
    nodeMeaning_eq hBuilder hAsks rfl hNode, hBody]
  rfl

end Recursion

end Oakfield.KernelIR
