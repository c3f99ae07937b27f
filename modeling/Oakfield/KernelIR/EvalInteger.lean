import Oakfield.KernelIR.EvalReal
import Oakfield.KernelIR.IntegerArithmetic

/-! The integer evaluator of kernel expressions, and the integers which
expressions denote. -/
namespace Oakfield.KernelIR

open CDouble Library.Memo

variable {D : Type} [CDouble D]

def simIrDomainValueFromIntegerRaw (domain : SimScalarDomain) (raw : Word) : SimIRDomainValue :=
  let raw := simIrIntegerTruncate raw domain
  if domain.isSigned then ⟨domain, simIrIntegerAsI64 raw domain, 0⟩ else ⟨domain, raw, 0⟩

def simIrDomainValueToIntegerRaw (value : SimIRDomainValue) (expected : SimScalarDomain) :
    Option Word :=
  if !expected.isInteger then none
  else
    let value := value.inDomain expected
    if value.domain ≠ expected then none
    else if expected.isSigned then simIrIntegerRawFromSigned value.first expected
    else simIrIntegerRawFromUnsigned value.first expected

/-- `sim_ir_constant_integer_raw`. -/
def simIrConstantIntegerRaw (value : SimIRConstant D) (domain : SimScalarDomain) : Option Word :=
  if !domain.isInteger then none
  else if value.exactInteger then some (simIrIntegerTruncate value.unsignedScalar domain)
  else simIrIntegerRawFromDouble value.scalar domain

/-- A callback's answer as raw bits of the domain. -/
def simIrIntegerAnswer (domain : SimScalarDomain) (answer : Except SimError SimIRDomainValue) :
    Except SimError Word :=
  match answer with
  | .error e => .error e
  | .ok value =>
      match simIrDomainValueToIntegerRaw value domain with
      | none => .error .typeMismatch
      | some raw => .ok raw

/-- The switch of `sim_ir_evaluate_impl_integer`. -/
def simIrEvaluateInteger (evaluator : SimIREvaluatorDomain D) (node : SimIRNode D) :
    NodeProgram Word Word :=
  let domain := node.valueType.domain
  if !node.valueType.isScalar || !domain.isInteger then .fail .invalidArgument
  else
    match node.data with
    | .constant value =>
        match simIrConstantIntegerRaw value domain with
        | none => .fail .invalidArgument
        | some raw => pure raw
    | .fieldRef field =>
        ofExcept (viaCallback evaluator.fieldValue fun callback =>
          simIrIntegerAnswer domain (callback field node.valueType domain))
    | .binary op lhs rhs => do
        let lhsRaw ← ask lhs
        let rhsRaw ← ask rhs
        let result ← ofOption (simIrIntegerBinary domain op lhsRaw rhsRaw)
        ofExcept result
    | .floor operand => ask operand
    | .param kind =>
        ofExcept (viaCallback evaluator.paramValue fun callback =>
          simIrIntegerAnswer domain (callback kind domain))
    | _ => .fail .invalidArgument

/-- The body of `sim_ir_evaluate_impl_integer` behind the cache. -/
def simIrEvaluateImplInteger (evaluator : SimIREvaluatorDomain D) (node : SimIRNode D) :
    NodeProgram Word Word := do
  let raw ← simIrEvaluateInteger evaluator node
  pure (simIrIntegerTruncate raw node.valueType.domain)

/-! ### Reference semantics -/

/-- The integer in the payload, read as the signedness of the domain says. -/
def SimIRDomainValue.payload (value : SimIRDomainValue) (domain : SimScalarDomain) : ℤ :=
  if domain.isSigned then value.first.toInt else value.first.toNat

/-- The integer of a value offered for a domain: it must be of that domain, or
of none, and must fit. -/
def SimIRDomainValue.integer? (value : SimIRDomainValue) (domain : SimScalarDomain) : Option ℤ :=
  if (value.domain.kind = .unknown ∨ value.domain = domain) ∧
      domain.wrap (value.payload domain) = value.payload domain then
    some (value.payload domain)
  else none

/-- An assignment gives a value to a request. -/
def Assigns {α : Type} (callback : Option α) (request : α → Except SimError SimIRDomainValue)
    (domain : SimScalarDomain) (z : ℤ) : Prop :=
  ∃ f value, callback = some f ∧ request f = .ok value ∧ value.integer? domain = some z

/-- `Denotes builder evaluator id z`: in fixed-width arithmetic, the expression
at node `id` has the value `z` under the assignment of the callbacks. Where no
`z` is denoted the value is undefined. -/
inductive Denotes (builder : SimIRBuilder D) (evaluator : SimIREvaluatorDomain D) :
    SimIRNodeId → ℤ → Prop where
  | constant {id : SimIRNodeId} {node : SimIRNode D} {value : SimIRConstant D}
      (hNode : builder.node? id = some node) (hScalar : node.valueType.isScalar = true)
      (hData : node.data = .constant value) (hExact : value.exactInteger = true) :
      Denotes builder evaluator id (node.valueType.domain.intValue value.unsignedScalar)
  | fieldRef {id : SimIRNodeId} {node : SimIRNode D} {field : ℕ} {z : ℤ}
      (hNode : builder.node? id = some node) (hScalar : node.valueType.isScalar = true)
      (hData : node.data = .fieldRef field)
      (hValue : Assigns evaluator.fieldValue
        (fun f => f field node.valueType node.valueType.domain) node.valueType.domain z) :
      Denotes builder evaluator id z
  | param {id : SimIRNodeId} {node : SimIRNode D} {kind : SimIRParamKind} {z : ℤ}
      (hNode : builder.node? id = some node) (hScalar : node.valueType.isScalar = true)
      (hData : node.data = .param kind)
      (hValue : Assigns evaluator.paramValue (fun f => f kind node.valueType.domain)
        node.valueType.domain z) :
      Denotes builder evaluator id z
  | binary {id lhs rhs : SimIRNodeId} {node : SimIRNode D} {op : SimIRBinaryOp} {x y z : ℤ}
      (hNode : builder.node? id = some node) (hScalar : node.valueType.isScalar = true)
      (hData : node.data = .binary op lhs rhs)
      (left : Denotes builder evaluator lhs x) (right : Denotes builder evaluator rhs y)
      (hValue : referenceBinary node.valueType.domain op x y = some z) :
      Denotes builder evaluator id z
  | floor {id operand : SimIRNodeId} {node : SimIRNode D} {z : ℤ}
      (hNode : builder.node? id = some node) (hScalar : node.valueType.isScalar = true)
      (hData : node.data = .floor operand) (inner : Denotes builder evaluator operand z) :
      Denotes builder evaluator id z

variable {builder : SimIRBuilder D} {evaluator : SimIREvaluatorDomain D}
  {domain : SimScalarDomain}

/-- An assignment gives at most one value. -/
theorem Assigns.unique {α : Type} {callback : Option α}
    {request : α → Except SimError SimIRDomainValue} {z z' : ℤ}
    (hLeft : Assigns callback request domain z) (hRight : Assigns callback request domain z') :
    z = z' := by
  obtain ⟨f, value, hCallback, hRequest, hValue⟩ := hLeft
  obtain ⟨f', value', hCallback', hRequest', hValue'⟩ := hRight
  cases hCallback.symm.trans hCallback'
  cases hRequest.symm.trans hRequest'
  exact Option.some.inj (hValue.symm.trans hValue')

/-! ### Conversions of callback values -/

theorem rawFromSigned_eq_some (hDomain : domain.IsMachineInteger)
    (hWidth : domain.bitWidth = 32 ∨ domain.bitWidth = 64) (hSigned : domain.isSigned = true)
    (x : Word) :
    simIrIntegerRawFromSigned x domain =
      if domain.wrap x.toInt = x.toInt then some (simIrIntegerFromI64 x domain) else none := by
  have hLow := BitVec.le_two_mul_toInt (x := x)
  have hHigh := BitVec.two_mul_toInt_lt (x := x)
  unfold simIrIntegerRawFromSigned SimScalarDomain.wrap
  rw [hDomain.1, hSigned]
  rcases hWidth with hWidth | hWidth
  · rw [hWidth]
    by_cases hRange : -2 ^ 31 ≤ x.toInt ∧ x.toInt < 2 ^ 31
    · rw [Library.FixedWidth.wrap_signed_eq_self (by omega) hRange.1 hRange.2, if_pos rfl,
        if_neg (by simp), if_neg (by omega), if_neg (by omega)]
    · have hBounds := Library.FixedWidth.wrap_signed_bounds (w := 32) (by omega) x.toInt
      rw [if_neg (by simp), if_pos (by omega), if_neg]
      intro hEq
      rw [hEq] at hBounds
      exact hRange hBounds
  · rw [hWidth, Library.FixedWidth.wrap_signed_eq_self (by omega) (by omega) (by omega), if_pos rfl,
      if_neg (by simp), if_neg (by omega), if_neg (by omega)]

theorem rawFromUnsigned_eq_some (hDomain : domain.IsMachineInteger)
    (hWidth : domain.bitWidth = 32 ∨ domain.bitWidth = 64) (hSigned : domain.isSigned = false)
    (x : Word) :
    simIrIntegerRawFromUnsigned x domain =
      if domain.wrap x.toNat = x.toNat then some (simIrIntegerTruncate x domain) else none := by
  have hLt := x.isLt
  unfold simIrIntegerRawFromUnsigned SimScalarDomain.wrap
  rw [hDomain.1, hSigned]
  rcases hWidth with hWidth | hWidth
  · rw [hWidth]
    by_cases hRange : x.toNat < 2 ^ 32
    · rw [Library.FixedWidth.wrap_unsigned_eq_self (by omega) (by omega), if_pos rfl,
        if_neg (by simp), if_neg (by omega), if_neg (by omega)]
    · have hBounds := Library.FixedWidth.wrap_unsigned_bounds (w := 32) (x.toNat : ℤ)
      rw [if_neg (by simp), if_pos (by omega), if_neg]
      intro hEq
      rw [hEq] at hBounds
      omega
  · rw [hWidth, Library.FixedWidth.wrap_unsigned_eq_self (by omega) (by omega), if_pos rfl,
      if_neg (by simp), if_neg (by omega), if_neg (by omega)]

/-- A value converts to raw bits of its integer, or has no integer in the domain. -/
theorem toIntegerRaw_spec (hDomain : domain.IsMachineInteger)
    (hWidth : domain.bitWidth = 32 ∨ domain.bitWidth = 64) (value : SimIRDomainValue) :
    (value.integer? domain = none ∧ simIrDomainValueToIntegerRaw value domain = none) ∨
      ∃ raw, simIrDomainValueToIntegerRaw value domain = some raw ∧
        value.integer? domain = some (domain.intValue raw) := by
  have hKnown : domain.kind ≠ .unknown := by
    intro hUnknown
    have := hDomain.1
    simp [SimScalarDomain.isInteger, hUnknown] at this
  have hFirst : (value.inDomain domain).first = value.first := by
    unfold SimIRDomainValue.inDomain
    split <;> rfl
  have hSame : (value.inDomain domain).domain = domain ↔
      (value.domain.kind = .unknown ∨ value.domain = domain) := by
    unfold SimIRDomainValue.inDomain
    by_cases hUnknown : value.domain.kind = .unknown
    · simp [hUnknown]
    · simp [hUnknown]
  unfold simIrDomainValueToIntegerRaw SimIRDomainValue.integer? SimIRDomainValue.payload
  simp only [hDomain.1, Bool.not_true, Bool.false_eq_true, if_false, hFirst, ne_eq, hSame]
  by_cases hOffer : value.domain.kind = .unknown ∨ value.domain = domain
  · simp only [hOffer, not_true, if_false, true_and]
    cases hSigned : domain.isSigned with
    | true =>
        simp only [if_true, rawFromSigned_eq_some hDomain hWidth hSigned]
        by_cases hFits : domain.wrap value.first.toInt = value.first.toInt
        · refine Or.inr ⟨_, if_pos hFits, ?_⟩
          rw [if_pos hFits, intValue_fromI64 hDomain, intValue_eq_wrap_toInt hDomain, hFits]
        · exact Or.inl ⟨if_neg hFits, if_neg hFits⟩
    | false =>
        simp only [Bool.false_eq_true, if_false, rawFromUnsigned_eq_some hDomain hWidth hSigned]
        by_cases hFits : domain.wrap value.first.toNat = value.first.toNat
        · refine Or.inr ⟨_, if_pos hFits, ?_⟩
          rw [if_pos hFits, intValue_truncate hDomain, intValue_eq_wrap_toNat, hFits]
        · exact Or.inl ⟨if_neg hFits, if_neg hFits⟩
  · exact Or.inl ⟨by simp [hOffer], by simp [hOffer]⟩

/-! ### Evaluation yields the denoted integer -/

/-- A run agrees with a set of at most one integer: it returns raw bits of the
integer, or an error when there is none. It never traps. -/
def Agrees (domain : SimScalarDomain) (denoted : ℤ → Prop) (run : Option (Except SimError Word)) :
    Prop :=
  (∃ raw, run = some (.ok raw) ∧ ∀ z, denoted z ↔ z = domain.intValue raw) ∨
    ((∀ z, ¬denoted z) ∧ ∃ e, run = some (.error e))

theorem Agrees.congr {denoted denoted' : ℤ → Prop} {run : Option (Except SimError Word)}
    (hAgrees : Agrees domain denoted run) (hSame : ∀ z, denoted' z ↔ denoted z) :
    Agrees domain denoted' run := by
  rcases hAgrees with ⟨raw, hRun, hValue⟩ | ⟨hNone, hError⟩
  · exact Or.inl ⟨raw, hRun, fun z => (hSame z).trans (hValue z)⟩
  · exact Or.inr ⟨fun z hZ => hNone z ((hSame z).mp hZ), hError⟩

theorem agrees_answer (hDomain : domain.IsMachineInteger)
    (hWidth : domain.bitWidth = 32 ∨ domain.bitWidth = 64) {α : Type} (callback : Option α)
    (request : α → Except SimError SimIRDomainValue) :
    Agrees domain (Assigns callback request domain)
      (some (viaCallback callback fun f => simIrIntegerAnswer domain (request f))) := by
  cases callback with
  | none =>
      refine Or.inr ⟨fun z hZ => ?_, _, rfl⟩
      obtain ⟨f, value, hCallback, -⟩ := hZ
      cases hCallback
  | some f =>
      cases hRequest : request f with
      | error e =>
          refine Or.inr ⟨fun z hZ => ?_, e, by simp [viaCallback, simIrIntegerAnswer, hRequest]⟩
          obtain ⟨f', value, hCallback, hOk, -⟩ := hZ
          cases hCallback
          cases hRequest.symm.trans hOk
      | ok value =>
          rcases toIntegerRaw_spec hDomain hWidth value with ⟨hNone, hRaw⟩ | ⟨raw, hRaw, hSome⟩
          · refine Or.inr ⟨fun z hZ => ?_, .typeMismatch,
              by simp [viaCallback, simIrIntegerAnswer, hRequest, hRaw]⟩
            obtain ⟨f', value', hCallback, hOk, hValue⟩ := hZ
            cases hCallback
            cases hRequest.symm.trans hOk
            cases hNone.symm.trans hValue
          · refine Or.inl ⟨raw, by simp [viaCallback, simIrIntegerAnswer, hRequest, hRaw],
              fun z => ⟨fun hZ => ?_, fun hZ => ?_⟩⟩
            · exact hZ.unique ⟨f, value, rfl, hRequest, hSome⟩
            · exact ⟨f, value, rfl, hRequest, by rw [hSome, hZ]⟩

/-- The nodes of one scalar domain. -/
def SimIRBuilder.InDomain (builder : SimIRBuilder D) (domain : SimScalarDomain)
    (id : SimIRNodeId) : Prop :=
  ∃ type, builder.typeOf? id = some type ∧ type.isScalar = true ∧ type.domain = domain

omit [CDouble D] in
/-- A scalar node and its operands are of one type, for the operations which
the integer evaluator follows. -/
theorem inDomain_of_typeOf? {id operand : SimIRNodeId} {node : SimIRNode D}
    (hId : builder.InDomain domain id) (hNode : builder.node? id = some node)
    (hOperand : builder.typeOf? operand = some node.valueType) :
    builder.InDomain domain operand := by
  obtain ⟨type, hType, hScalar, hDomain⟩ := hId
  rw [typeOf?_of_node? hNode] at hType
  cases hType
  exact ⟨node.valueType, hOperand, hScalar, hDomain⟩

theorem asksOperands_simIrEvaluateImplInteger (hBuilder : builder.WellFormed)
    (hDomain : domain.IsMachineInteger) :
    AsksOperands builder (simIrEvaluateImplInteger evaluator) (builder.InDomain domain) := by
  intro id node hId hNode
  have hTyped := (hBuilder.nodes id node hNode).typed
  have hNodeDomain : node.valueType.domain = domain := by
    obtain ⟨type, hType, -, hDomain⟩ := hId
    rw [typeOf?_of_node? hNode] at hType
    cases hType
    exact hDomain
  refine Program.Within.bind ?_ fun raw => within_pure _
  unfold simIrEvaluateInteger
  dsimp only
  split
  case isTrue => trivial
  case isFalse =>
    cases hData : node.data with
    | constant value =>
        dsimp only
        split <;> trivial
    | fieldRef field => exact within_ofExcept _
    | param kind => exact within_ofExcept _
    | binary op lhs rhs =>
        rw [hData] at hTyped
        refine within_ask_bind ⟨inDomain_of_typeOf? hId hNode hTyped.1, by
          simp [SimIRNodeData.operands]⟩ fun lhsRaw => ?_
        refine within_ask_bind ⟨inDomain_of_typeOf? hId hNode hTyped.2.1, by
          simp [SimIRNodeData.operands]⟩ fun rhsRaw => ?_
        rw [hNodeDomain]
        -- No pair of operands traps.
        rcases simIrIntegerBinary_spec hDomain op lhsRaw rhsRaw with ⟨-, hRun⟩ | ⟨raw, hRun, -⟩
        · rw [hRun]
          trivial
        · rw [hRun]
          trivial
    | floor operand =>
        rw [hData] at hTyped
        exact ⟨⟨inDomain_of_typeOf? hId hNode hTyped.1, by simp [SimIRNodeData.operands]⟩,
          fun _ => trivial⟩
    | diff spec => trivial
    | noise spec => trivial
    | warp spec => trivial
    | complexPack real imag => trivial
    | complexRotate operand angle => trivial
    | index => trivial
    | call kind operand => trivial
    | coord field axis => trivial
    | stateful spec => trivial

section Inversion

variable {id : SimIRNodeId} {node : SimIRNode D} (hNode : builder.node? id = some node)
  (hScalar : node.valueType.isScalar = true)

omit [CDouble D]

include hNode hScalar

theorem denotes_constant_iff {value : SimIRConstant D} (hData : node.data = .constant value)
    (hExact : value.exactInteger = true) (z : ℤ) :
    Denotes builder evaluator id z ↔ z = node.valueType.domain.intValue value.unsignedScalar := by
  constructor
  · intro hDenotes
    cases hDenotes <;> simp_all
  · rintro rfl
    exact .constant hNode hScalar hData hExact

theorem denotes_fieldRef_iff {field : ℕ} (hData : node.data = .fieldRef field) (z : ℤ) :
    Denotes builder evaluator id z ↔
      Assigns evaluator.fieldValue (fun f => f field node.valueType node.valueType.domain)
        node.valueType.domain z := by
  constructor
  · intro hDenotes
    cases hDenotes <;> simp_all
  · exact .fieldRef hNode hScalar hData

theorem denotes_param_iff {kind : SimIRParamKind} (hData : node.data = .param kind) (z : ℤ) :
    Denotes builder evaluator id z ↔
      Assigns evaluator.paramValue (fun f => f kind node.valueType.domain)
        node.valueType.domain z := by
  constructor
  · intro hDenotes
    cases hDenotes <;> simp_all
  · exact .param hNode hScalar hData

theorem denotes_binary_iff {op : SimIRBinaryOp} {lhs rhs : SimIRNodeId}
    (hData : node.data = .binary op lhs rhs) (z : ℤ) :
    Denotes builder evaluator id z ↔ ∃ x y, Denotes builder evaluator lhs x ∧
      Denotes builder evaluator rhs y ∧ referenceBinary node.valueType.domain op x y = some z := by
  constructor
  · intro hDenotes
    cases hDenotes with
    | binary hNode' _ hData' left right hValue =>
        cases hNode.symm.trans hNode'
        cases hData.symm.trans hData'
        exact ⟨_, _, left, right, hValue⟩
    | _ => simp_all
  · rintro ⟨x, y, left, right, hValue⟩
    exact .binary hNode hScalar hData left right hValue

theorem denotes_floor_iff {operand : SimIRNodeId} (hData : node.data = .floor operand) (z : ℤ) :
    Denotes builder evaluator id z ↔ Denotes builder evaluator operand z := by
  constructor
  · intro hDenotes
    cases hDenotes with
    | floor hNode' _ hData' inner =>
        cases hNode.symm.trans hNode'
        cases hData.symm.trans hData'
        exact inner
    | _ => simp_all
  · exact .floor hNode hScalar hData

end Inversion

/-- Truncating a result keeps its integer. -/
theorem Agrees.truncate (hDomain : domain.IsMachineInteger) {denoted : ℤ → Prop}
    {p : NodeProgram Word Word} {answer : Unit → SimIRNodeId → Option (Except SimError Word)}
    {reply : Empty → Except SimError Word}
    (hAgrees : Agrees domain denoted (p.interpret answer reply ())) :
    Agrees domain denoted
      ((p >>= fun raw => pure (simIrIntegerTruncate raw domain)).interpret answer reply ()) := by
  rw [interpret_bind]
  rcases hAgrees with ⟨raw, hRun, hValue⟩ | ⟨hNone, e, hRun⟩
  · rw [hRun]
    exact Or.inl ⟨_, rfl, fun z => by rw [intValue_truncate hDomain]; exact hValue z⟩
  · rw [hRun]
    exact Or.inr ⟨hNone, e, rfl⟩

/-- A binary node agrees when its operands do. -/
theorem agrees_binary (hDomain : domain.IsMachineInteger) (op : SimIRBinaryOp)
    {lhs rhs : SimIRNodeId} {answer : Unit → SimIRNodeId → Option (Except SimError Word)}
    {reply : Empty → Except SimError Word} {left right : ℤ → Prop}
    (hLeft : Agrees domain left (answer () lhs)) (hRight : Agrees domain right (answer () rhs)) :
    Agrees domain (fun z => ∃ x y, left x ∧ right y ∧ referenceBinary domain op x y = some z)
      (Program.interpret answer reply () (do
        let lhsRaw ← ask lhs
        let rhsRaw ← ask rhs
        let result ← ofOption (simIrIntegerBinary domain op lhsRaw rhsRaw)
        ofExcept result)) := by
  simp only [interpret_bind, interpret_ask, interpret_ofOption]
  rcases hLeft with ⟨x, hX, hLeft⟩ | ⟨hLeft, e, hX⟩
  · rw [hX]
    rcases hRight with ⟨y, hY, hRight⟩ | ⟨hRight, e, hY⟩
    · rw [hY]
      dsimp only
      rcases simIrIntegerBinary_spec hDomain op x y with ⟨hNone, hRun⟩ | ⟨raw, hRun, hSome⟩
      · rw [hRun]
        refine Or.inr ⟨?_, .invalidArgument, rfl⟩
        rintro z ⟨x', y', hX', hY', hZ⟩
        rw [(hLeft x').mp hX', (hRight y').mp hY', hNone] at hZ
        cases hZ
      · rw [hRun]
        refine Or.inl ⟨raw, rfl, fun z => ⟨?_, ?_⟩⟩
        · rintro ⟨x', y', hX', hY', hZ⟩
          rw [(hLeft x').mp hX', (hRight y').mp hY', hSome] at hZ
          exact (Option.some.inj hZ).symm
        · rintro rfl
          exact ⟨_, _, (hLeft _).mpr rfl, (hRight _).mpr rfl, hSome⟩
    · rw [hY]
      refine Or.inr ⟨?_, e, rfl⟩
      rintro z ⟨x', y', -, hY', -⟩
      exact hRight y' hY'
  · rw [hX]
    refine Or.inr ⟨?_, e, rfl⟩
    rintro z ⟨x', y', hX', -, -⟩
    exact hLeft x' hX'

/-- The value of every node of the domain is the integer which it denotes. -/
theorem agrees_nodeMeaning (hBuilder : builder.WellFormed) (hDomain : domain.IsMachineInteger)
    (hWidth : domain.bitWidth = 32 ∨ domain.bitWidth = 64) (id : SimIRNodeId) (hId : builder.InDomain domain id) :
    Agrees domain (Denotes builder evaluator id)
      (nodeMeaning builder (simIrEvaluateImplInteger evaluator) id) := by
  induction id using Nat.strongRecOn with
  | ind id ih =>
      obtain ⟨type, hType, hScalar, hTypeDomain⟩ := hId
      obtain ⟨node, hNode, rfl⟩ := Option.map_eq_some_iff.mp hType
      have hWell := hBuilder.nodes id node hNode
      have hTyped := hWell.typed
      have hOperand : ∀ operand ∈ node.data.operands,
          builder.typeOf? operand = some node.valueType →
          Agrees domain (Denotes builder evaluator operand)
            (nodeMeaning builder (simIrEvaluateImplInteger evaluator) operand) :=
        fun operand hMem hSame => ih operand (hWell.operands_lt operand hMem)
          ⟨_, hSame, hScalar, hTypeDomain⟩
      rw [nodeMeaning_eq hBuilder (asksOperands_simIrEvaluateImplInteger hBuilder hDomain)
        ⟨_, hType, hScalar, hTypeDomain⟩ hNode]
      subst hTypeDomain
      refine Agrees.truncate hDomain ?_
      have hInteger := hDomain.1
      unfold simIrEvaluateInteger
      simp only [hScalar, hInteger, Bool.not_true, Bool.or_self, Bool.false_eq_true, if_false]
      have hUndefined : (∀ z, ¬Denotes builder evaluator id z) →
          Agrees node.valueType.domain (Denotes builder evaluator id)
            (some (.error .invalidArgument)) :=
        fun hNone => Or.inr ⟨hNone, _, rfl⟩
      cases hData : node.data with
      | constant value =>
          rw [hData] at hTyped
          have hExact := (hTyped.exact hInteger).2.1
          simp only [simIrConstantIntegerRaw, hInteger, hExact, Bool.not_true, Bool.false_eq_true,
            if_false, if_true]
          refine Or.inl ⟨_, rfl, fun z => ?_⟩
          rw [intValue_truncate hDomain]
          exact denotes_constant_iff hNode hScalar hData hExact z
      | fieldRef field =>
          simp only [interpret_ofExcept]
          exact (agrees_answer hDomain hWidth evaluator.fieldValue _).congr
            (denotes_fieldRef_iff hNode hScalar hData)
      | param kind =>
          simp only [interpret_ofExcept]
          exact (agrees_answer hDomain hWidth evaluator.paramValue _).congr
            (denotes_param_iff hNode hScalar hData)
      | binary op lhs rhs =>
          rw [hData] at hTyped
          exact (agrees_binary hDomain op
            (hOperand lhs (by simp [hData, SimIRNodeData.operands]) hTyped.1)
            (hOperand rhs (by simp [hData, SimIRNodeData.operands]) hTyped.2.1)).congr
            (denotes_binary_iff hNode hScalar hData)
      | floor operand =>
          rw [hData] at hTyped
          simp only [interpret_ask]
          exact (hOperand operand (by simp [hData, SimIRNodeData.operands]) hTyped.1).congr
            (denotes_floor_iff hNode hScalar hData)
      | _ =>
          -- The remaining node types have no integer semantics.
          refine hUndefined fun z hDenotes => ?_
          cases hDenotes <;> simp_all

end Oakfield.KernelIR
