import Oakfield.Cpu.Kernel
import Oakfield.KernelIR.EvalDomain

/-! The integer evaluator of the CPU backend, with its own conversions, and its
agreement with the core evaluator. -/
namespace Oakfield.Cpu

open KernelIR CDouble Library.Memo

variable {D : Type} [CDouble D]

def backendCpuIntegerMask (domain : SimScalarDomain) : Word :=
  if 64 ≤ domain.bitWidth then BitVec.allOnes 64 else (1#64 <<< domain.bitWidth) - 1#64

def backendCpuIntegerTruncate (raw : Word) (domain : SimScalarDomain) : Word :=
  if 64 ≤ domain.bitWidth then raw else raw &&& backendCpuIntegerMask domain

def backendCpuIntegerAsI64 (raw : Word) (domain : SimScalarDomain) : Word :=
  let raw := backendCpuIntegerTruncate raw domain
  if !domain.isSigned || decide (64 ≤ domain.bitWidth) then raw
  else if raw &&& (1#64 <<< (domain.bitWidth - 1)) ≠ 0 then raw ||| ~~~backendCpuIntegerMask domain
  else raw

/-- `backend_cpu_integer_raw_from_double`: no width but 32 and 64 is checked. -/
def backendCpuIntegerRawFromDouble (value : D) (domain : SimScalarDomain) : Option Word :=
  if !domain.isInteger || !isfinite value || ne (trunc value) value then none
  else if domain.isSigned then
    if domain.bitWidth = 32 ∧ (lt value (ofI64 (BitVec.ofInt 64 (-2 ^ 31))) ||
        gt value (ofI64 (BitVec.ofInt 64 (2 ^ 31 - 1)))) then none
    else if domain.bitWidth = 64 ∧ (lt value (ofI64 int64Min) || gt value (ofI64 int64Max)) then none
    else some (backendCpuIntegerTruncate (toI64 value) domain)
  else if lt value zero then none
  else if domain.bitWidth = 32 ∧ gt value (ofU64 (BitVec.ofNat 64 (2 ^ 32 - 1))) then none
  else if domain.bitWidth = 64 ∧ gt value (ofU64 uint64Max) then none
  else some (backendCpuIntegerTruncate (toU64 value) domain)

/-- `backend_cpu_field_value_integer`. -/
def backendCpuFieldValueInteger (kernel : Kernel D) (fields : Fields D)
    (elementIndex fieldIndex : ℕ) (domain : SimScalarDomain) : Except SimError Word :=
  if !domain.isInteger then .error .invalidArgument
  else
    match backendCpuFindField kernel fieldIndex with
    | none => .error .notFound
    | some address =>
        let field := fields address
        if field.domain ≠ domain ∨ domain.matchesStorage field.elementSize = false then
          .error .typeMismatch
        else if backendCpuElementCount field ≤ elementIndex then .error .invalidArgument
        else if domain.bitWidth = 32 ∨ domain.bitWidth = 64 then
          match field.buffer with
          | none => .error .invalidArgument
          | some data => .ok (backendCpuIntegerTruncate (data.word elementIndex) domain)
        else .error .invalidArgument

/-- The division of the signed branch; `none` is a trap. -/
def backendCpuIntegerSignedDiv (domain : SimScalarDomain) (lhs rhs : Word) : Option Word :=
  if lhs = int64Min ∧ rhs = -1 ∧ domain.bitWidth = 64 then some int64Min
  else (i64Div lhs rhs).map (backendCpuIntegerTruncate · domain)

def backendCpuIntegerSignedMod (domain : SimScalarDomain) (lhs rhs : Word) : Option Word :=
  if rhs = -1 then some (backendCpuIntegerTruncate 0 domain)
  else (i64Mod lhs rhs).map (backendCpuIntegerTruncate · domain)

def backendCpuIntegerPowLoop (domain : SimScalarDomain) : ℕ → Word → Word → Word → Word
  | 0, _, _, accum => accum
  | fuel + 1, exponent, base, accum =>
      if exponent = 0 then accum
      else
        let accum :=
          if exponent &&& 1 ≠ 0 then backendCpuIntegerTruncate (accum * base) domain else accum
        let exponent := exponent >>> 1
        let base := if exponent ≠ 0 then backendCpuIntegerTruncate (base * base) domain else base
        backendCpuIntegerPowLoop domain fuel exponent base accum

/-- The binary cases of `backend_cpu_eval_integer_node`; `none` is a trap. -/
def backendCpuIntegerBinary (domain : SimScalarDomain) (op : SimIRBinaryOp)
    (lhsRaw rhsRaw : Word) : Option (Except SimError Word) :=
  match op with
  | .add => some (.ok (backendCpuIntegerTruncate (lhsRaw + rhsRaw) domain))
  | .sub => some (.ok (backendCpuIntegerTruncate (lhsRaw - rhsRaw) domain))
  | .mul => some (.ok (backendCpuIntegerTruncate (lhsRaw * rhsRaw) domain))
  | .div =>
      if backendCpuIntegerTruncate rhsRaw domain = 0 then some (.error .invalidArgument)
      else if domain.isSigned then
        (backendCpuIntegerSignedDiv domain (backendCpuIntegerAsI64 lhsRaw domain)
          (backendCpuIntegerAsI64 rhsRaw domain)).map .ok
      else
        some (.ok (backendCpuIntegerTruncate lhsRaw domain / backendCpuIntegerTruncate rhsRaw domain))
  | .mod =>
      if backendCpuIntegerTruncate rhsRaw domain = 0 then some (.error .invalidArgument)
      else if domain.isSigned then
        (backendCpuIntegerSignedMod domain (backendCpuIntegerAsI64 lhsRaw domain)
          (backendCpuIntegerAsI64 rhsRaw domain)).map .ok
      else
        some (.ok (backendCpuIntegerTruncate lhsRaw domain % backendCpuIntegerTruncate rhsRaw domain))
  | .pow =>
      let base := backendCpuIntegerTruncate lhsRaw domain
      let accum := backendCpuIntegerTruncate 1 domain
      if domain.isSigned then
        let signedExp := backendCpuIntegerAsI64 rhsRaw domain
        if signedExp.toInt < 0 then some (.error .invalidArgument)
        else some (.ok (backendCpuIntegerPowLoop domain 64 signedExp base accum))
      else
        some (.ok (backendCpuIntegerPowLoop domain 64 (backendCpuIntegerTruncate rhsRaw domain) base
          accum))

/-- The switch of `backend_cpu_eval_integer_node`. -/
def backendCpuEvalInteger (kernel : Kernel D) (fields : Fields D) (elementIndex : ℕ)
    (node : SimIRNode D) : NodeProgram Word Word :=
  let domain := node.valueType.domain
  if !node.valueType.isScalar || !domain.isInteger then .fail .invalidArgument
  else
    match node.data with
    | .constant value =>
        if value.exactInteger then pure (backendCpuIntegerTruncate value.unsignedScalar domain)
        else
          match backendCpuIntegerRawFromDouble value.scalar domain with
          | none => .fail .invalidArgument
          | some raw => pure raw
    | .fieldRef field =>
        ofExcept (backendCpuFieldValueInteger kernel fields elementIndex field domain)
    | .binary op lhs rhs => do
        let lhsRaw ← ask lhs
        let rhsRaw ← ask rhs
        let result ← ofOption (backendCpuIntegerBinary domain op lhsRaw rhsRaw)
        ofExcept result
    | .floor operand => ask operand
    | .param kind =>
        match kernel.params[kind.index]? with
        | none => .fail .notFound
        | some value =>
            match backendCpuIntegerRawFromDouble value domain with
            | none => .fail .typeMismatch
            | some raw => pure raw
    | .index => pure (backendCpuIntegerTruncate (BitVec.ofNat 64 elementIndex) domain)
    | .coord field axis =>
        match backendCpuIntegerRawFromDouble (backendCpuCoordValue kernel elementIndex field axis)
            domain with
        | none => .fail .typeMismatch
        | some raw => pure raw
    | _ => .fail .invalidArgument

/-- The body of `backend_cpu_eval_integer_node` behind the cache. -/
def backendCpuEvalIntegerNode (kernel : Kernel D) (fields : Fields D) (elementIndex : ℕ)
    (node : SimIRNode D) : NodeProgram Word Word := do
  let raw ← backendCpuEvalInteger kernel fields elementIndex node
  pure (backendCpuIntegerTruncate raw node.valueType.domain)

/-- The integer evaluator at one element, over cleared flags. -/
def backendCpuEvaluateInteger (kernel : Kernel D) (fields : Fields D) (elementIndex : ℕ)
    (root : SimIRNodeId) : Option (Except SimError Word) :=
  evaluateNodes kernel.builder (backendCpuEvalIntegerNode kernel fields elementIndex) root

/-! ### The two copies of the helpers -/

@[simp]
theorem backendCpuIntegerTruncate_eq (raw : Word) (domain : SimScalarDomain) :
    backendCpuIntegerTruncate raw domain = simIrIntegerTruncate raw domain := rfl

@[simp]
theorem backendCpuIntegerAsI64_eq (raw : Word) (domain : SimScalarDomain) :
    backendCpuIntegerAsI64 raw domain = simIrIntegerAsI64 raw domain := by
  simp only [backendCpuIntegerAsI64, simIrIntegerAsI64, backendCpuIntegerTruncate_eq]
  cases domain.isSigned with
  | false => rfl
  | true =>
      by_cases hWide : 64 ≤ domain.bitWidth
      · simp [hWide]
      · simp only [hWide, Bool.not_true, decide_false, Bool.or_self, Bool.false_eq_true, if_false]
        rfl

theorem backendCpuIntegerSignedDiv_eq (domain : SimScalarDomain) (lhs rhs : Word) :
    backendCpuIntegerSignedDiv domain lhs rhs = simIrIntegerSignedDiv domain lhs rhs := by
  unfold backendCpuIntegerSignedDiv simIrIntegerSignedDiv
  by_cases hPair : lhs = int64Min ∧ rhs = -1 ∧ domain.bitWidth = 64
  · rw [if_pos hPair, if_pos hPair]
    simp [simIrIntegerFromI64, simIrIntegerTruncate, hPair.2.2]
  · rw [if_neg hPair, if_neg hPair]
    rfl

theorem backendCpuIntegerPowLoop_eq (domain : SimScalarDomain) (fuel : ℕ)
    (exponent base accum : Word) :
    backendCpuIntegerPowLoop domain fuel exponent base accum =
      simIrIntegerPowLoop domain fuel exponent base accum := by
  induction fuel generalizing exponent base accum with
  | zero => rfl
  | succ fuel ih =>
      simp only [backendCpuIntegerPowLoop, simIrIntegerPowLoop, backendCpuIntegerTruncate_eq, ih]

/-- The two evaluators compute binary operations alike. -/
theorem backendCpuIntegerBinary_eq (domain : SimScalarDomain) (op : SimIRBinaryOp) (x y : Word) :
    backendCpuIntegerBinary domain op x y = simIrIntegerBinary domain op x y := by
  cases op with
  | add => rfl
  | sub => rfl
  | mul => rfl
  | div =>
      simp only [backendCpuIntegerBinary, simIrIntegerBinary, backendCpuIntegerTruncate_eq,
        backendCpuIntegerAsI64_eq, backendCpuIntegerSignedDiv_eq]
  | mod =>
      simp only [backendCpuIntegerBinary, simIrIntegerBinary, backendCpuIntegerTruncate_eq,
        backendCpuIntegerAsI64_eq]
      rfl
  | pow =>
      simp only [backendCpuIntegerBinary, simIrIntegerBinary, backendCpuIntegerTruncate_eq,
        backendCpuIntegerAsI64_eq, backendCpuIntegerPowLoop_eq]

/-- The two conversions from `double` agree in the 64-bit domains. -/
theorem backendCpuIntegerRawFromDouble_eq (value : D) {domain : SimScalarDomain}
    (hWidth : domain.bitWidth = 64) :
    backendCpuIntegerRawFromDouble value domain = simIrIntegerRawFromDouble value domain := by
  unfold backendCpuIntegerRawFromDouble simIrIntegerRawFromDouble simIrIntegerRawFromSigned
    simIrIntegerRawFromUnsigned
  cases hInteger : domain.isInteger with
  | false => simp
  | true => cases hSigned : domain.isSigned <;> simp [hWidth, simIrIntegerFromI64]

/-! ### Evaluation has a result -/

section Total

variable {kernel : Kernel D} {fields : Fields D} {elementIndex : ℕ} {domain : SimScalarDomain}

theorem asksOperands_backendCpuEvalIntegerNode (hBuilder : kernel.builder.WellFormed)
    (hDomain : domain.IsMachineInteger) :
    AsksOperands kernel.builder (backendCpuEvalIntegerNode kernel fields elementIndex)
      (kernel.builder.InDomain domain) := by
  intro id node hId hNode
  have hTyped := (hBuilder.nodes id node hNode).typed
  have hNodeDomain : node.valueType.domain = domain := by
    obtain ⟨type, hType, -, hDomain⟩ := hId
    rw [typeOf?_of_node? hNode] at hType
    cases hType
    exact hDomain
  refine Program.Within.bind ?_ fun raw => within_pure _
  unfold backendCpuEvalInteger
  dsimp only
  split
  case isTrue => trivial
  case isFalse =>
    cases hData : node.data with
    | binary op lhs rhs =>
        rw [hData] at hTyped
        refine within_ask_bind ⟨inDomain_of_typeOf? hId hNode hTyped.1, by
          simp [SimIRNodeData.operands]⟩ fun lhsRaw => ?_
        refine within_ask_bind ⟨inDomain_of_typeOf? hId hNode hTyped.2.1, by
          simp [SimIRNodeData.operands]⟩ fun rhsRaw => ?_
        rw [hNodeDomain, backendCpuIntegerBinary_eq]
        -- No pair of operands traps.
        rcases simIrIntegerBinary_spec hDomain op lhsRaw rhsRaw with ⟨-, hRun⟩ | ⟨raw, hRun, -⟩
        · rw [hRun]
          trivial
        · rw [hRun]
          trivial
    | floor operand =>
        rw [hData] at hTyped
        exact ⟨⟨inDomain_of_typeOf? hId hNode hTyped.1, by simp [SimIRNodeData.operands]⟩,
          fun _ => trivial⟩
    | fieldRef field => exact within_ofExcept _
    | _ =>
        dsimp only
        repeat' first | trivial | split

/-- A root which is no scalar fails before it asks for anything. -/
theorem asksOperands_vectorRoot (kernel : Kernel D) (fields : Fields D) (elementIndex : ℕ)
    {root : SimIRNodeId} {node : SimIRNode D} (hRoot : kernel.builder.node? root = some node)
    (hScalar : node.valueType.isScalar = false) :
    backendCpuEvalIntegerNode kernel fields elementIndex node = .fail .invalidArgument ∧
      AsksOperands kernel.builder (backendCpuEvalIntegerNode kernel fields elementIndex)
        (· = root) := by
  have hFails : backendCpuEvalIntegerNode kernel fields elementIndex node =
      .fail .invalidArgument := by
    unfold backendCpuEvalIntegerNode backendCpuEvalInteger
    simp only [hScalar, Bool.not_false, Bool.true_or, if_true]
    rfl
  refine ⟨hFails, ?_⟩
  rintro id node' rfl hNode
  cases hRoot.symm.trans hNode
  rw [hFails]
  trivial

/-- The integer evaluator never traps. -/
theorem backendCpuEvaluateInteger_isSome (hBuilt : Built kernel.builder) {root : SimIRNodeId}
    {node : SimIRNode D} (hRoot : kernel.builder.node? root = some node)
    (hInteger : node.valueType.domain.isInteger = true) (fields : Fields D) (elementIndex : ℕ) :
    ∃ result, backendCpuEvaluateInteger kernel fields elementIndex root = some result := by
  have hBuilder := hBuilt.wellFormed
  have hCount := SimIRBuilder.lt_count_of_node? hRoot
  unfold backendCpuEvaluateInteger
  cases hScalar : node.valueType.isScalar with
  | false =>
      obtain ⟨-, hAsks⟩ := asksOperands_vectorRoot kernel fields elementIndex hRoot hScalar
      exact evaluateNodes_isSome hBuilder hAsks rfl hCount
  | true =>
      exact evaluateNodes_isSome hBuilder
        (asksOperands_backendCpuEvalIntegerNode hBuilder (SimIRType.isMachineInteger hInteger))
        ⟨_, typeOf?_of_node? hRoot, hScalar, rfl⟩ hCount

end Total

end Oakfield.Cpu
