import Oakfield.Cpu.CacheTransparency
import Oakfield.Cpu.InPlace

/-! What the outputs of a launch are computed from: the fields as they were when
the pass over that output began. -/
namespace Oakfield.Cpu

open KernelIR CDouble Library.Memo Library.Loop

variable {D : Type} [CDouble D] {S σ : Type}

/-! ### Rows from the start of a pass -/

/-- The row of an expression at an element over fields, from an empty cache. -/
def backendCpuRow (kernel : Kernel D) (callbacks : Callbacks D σ) (fields : Fields D)
    (reference : SimField D) (expression : SimIRNodeId) (limit elementIndex : ℕ) (w : σ) :
    Option (Except SimError (List D) × List (NodeLane → Slot D) × σ) :=
  backendCpuEvalComponents (fun component => backendCpuEvaluate freshLaunchFrames kernel callbacks
    fields reference elementIndex (expression, component)) limit 0 [fun _ => .clean] w

/-- Rows of the first elements, each computed by `evalRow` in the state of the
callbacks which the ones before it left. -/
inductive RowsFrom (evalRow : ℕ → σ → Option (Except SimError (List D) × S × σ)) (w : σ) :
    List (List D) → σ → Prop where
  | nil : RowsFrom evalRow w [] w
  | snoc {rows : List (List D)} {row : List D} {s : S} {v v' : σ} (hRows : RowsFrom evalRow w rows v)
      (hRow : evalRow rows.length v = some (.ok row, s, v')) :
      RowsFrom evalRow w (rows ++ [row]) v'

/-- A pass over an output which is computed from the fields as they were when it
began; the second component is what the callbacks keep. -/
inductive FromPassStart (kernel : Kernel D) (callbacks : Callbacks D σ) (output : SimKernelIROutput) :
    Fields D × σ → Fields D × σ → Prop where
  /-- There is no element. -/
  | empty {fields : Fields D} {w : σ} {address : ℕ}
      (hFind : backendCpuFindField kernel output.fieldIndex = some address)
      (hEmpty : backendCpuElementCount (fields address) = 0) :
      FromPassStart kernel callbacks output (fields, w) (fields, w)
  /-- An integer output: every word is the value of the expression. -/
  | integer {fields fields' : Fields D} {w : σ} {address : ℕ} {root : SimIRNode D}
      {data data' : FieldData D}
      (hFind : backendCpuFindField kernel output.fieldIndex = some address)
      (hRoot : kernel.builder.node? output.expression = some root)
      (hInteger : root.valueType.domain.isInteger = true)
      (hRewritten : Rewritten address fields fields' data data')
      (hWords : ∀ i, i < backendCpuElementCount (fields address) → ∃ raw,
        backendCpuEvaluateInteger kernel fields i output.expression = some (.ok raw) ∧
          data'.word i = backendCpuIntegerTruncate raw root.valueType.domain)
      (hRest : ∀ i, backendCpuElementCount (fields address) ≤ i → data'.word i = data.word i) :
      FromPassStart kernel callbacks output (fields, w) (fields', w)
  /-- The fast path: every lane is its operator on the two operands. -/
  | simple {fields fields' : Fields D} {w : σ} {address : ℕ} {op : SimIRBinaryOp}
      {lhs rhs : BackendCPUOperand D} {data data' : FieldData D}
      (hFind : backendCpuFindField kernel output.fieldIndex = some address)
      (hOperands : backendCpuSimpleOperands kernel fields output.expression address
        (backendCpuElementCount (fields address)) = some (op, lhs, rhs))
      (hRewritten : Rewritten address fields fields' data data')
      (hLanes : ∀ i, i < backendCpuElementCount (fields address) * ((fields address).elementSize / 8) →
        data'.lane i = backendCpuRealBinary op (backendCpuOperandValue kernel.builder fields lhs i)
          (backendCpuOperandValue kernel.builder fields rhs i))
      (hRest : ∀ i, backendCpuElementCount (fields address) * ((fields address).elementSize / 8) ≤ i →
        data'.lane i = data.lane i) :
      FromPassStart kernel callbacks output (fields, w) (fields', w)
  /-- The general path: every element is the row of the expression. -/
  | general {fields fields' : Fields D} {w w' : σ} {address : ℕ} {rows : List (List D)}
      {data data' : FieldData D}
      (hFind : backendCpuFindField kernel output.fieldIndex = some address)
      (hRows : RowsFrom (backendCpuRow kernel callbacks fields (fields address) output.expression
        (backendCpuComponentLimit kernel (fields address))) w rows w')
      (hCount : rows.length = backendCpuElementCount (fields address))
      (hRewritten : Rewritten address fields fields' data data')
      (hLanes : Overwritten ((fields address).elementSize / 8) rows data data') :
      FromPassStart kernel callbacks output (fields, w) (fields', w')

omit [CDouble D] in
theorem evalComponents_length {evalLane : ℕ → S → σ → Option (Except SimError D × S × σ)}
    {limit component : ℕ} {s s' : S} {w w' : σ} {row : List D}
    (hRun : backendCpuEvalComponents evalLane limit component s w = some (.ok row, s', w')) :
    row.length = limit := by
  induction limit generalizing component s w row with
  | zero =>
      cases hRun
      rfl
  | succ limit ih =>
      simp only [backendCpuEvalComponents] at hRun
      split at hRun
      case h_1 => cases hRun
      case h_2 => cases hRun
      case h_3 =>
        split at hRun
        case h_1 => cases hRun
        case h_2 => cases hRun
        case h_3 hRest =>
          cases hRun
          exact congrArg Nat.succ (ih hRest)

omit [CDouble D] in
/-- Rows are alike when their lanes are. -/
theorem evalComponents_congr {evalLane evalLane' : ℕ → S → σ → Option (Except SimError D × S × σ)}
    {bound : ℕ} (hLane : ∀ component, component < bound → evalLane component = evalLane' component)
    {limit component : ℕ} (hLimit : component + limit ≤ bound) (s : S) (w : σ) :
    backendCpuEvalComponents evalLane limit component s w =
      backendCpuEvalComponents evalLane' limit component s w := by
  induction limit generalizing component s w with
  | zero => rfl
  | succ limit ih =>
      simp only [backendCpuEvalComponents, hLane component (by omega)]
      split
      · rfl
      · rfl
      · rw [ih (by omega)]

/-! ### The general path -/

section Passes

variable {kernel : Kernel D} {callbacks : Callbacks D σ}

/-- The state of a general pass after `k` elements. -/
def GeneralPass (kernel : Kernel D) (callbacks : Callbacks D σ) (expression : SimIRNodeId)
    (address : ℕ) (fields : Fields D) (w : σ) (data : FieldData D) (k : ℕ)
    (st : LaunchState (SimBackendCPUState D) σ D) : Prop :=
  Session σ st.frames (.launched kernel) ∧ ∃ rows data',
    RowsFrom (backendCpuRow kernel callbacks fields (fields address) expression
      (backendCpuComponentLimit kernel (fields address))) w rows st.world ∧
    rows.length = k ∧ Rewritten address fields st.fields data data' ∧
    Overwritten ((fields address).elementSize / 8) rows data data'

/-- One element of a general pass over an expression which is pointwise in the
destination. -/
theorem GeneralPass.step {expression : SimIRNodeId} {address k : ℕ} {fields : Fields D} {w : σ}
    {data : FieldData D} (hKernel : Launchable kernel)
    (hExpression : expression < kernel.builder.count)
    (hPointwise : PointwiseIn kernel callbacks expression address)
    (hWidth : 0 < (fields address).elementSize / 8)
    {st st' : LaunchState (SimBackendCPUState D) σ D}
    (hPass : GeneralPass kernel callbacks expression address fields w data k st)
    (hRun : backendCpuElement (backendCpuLaunchFrames kernel) kernel callbacks expression address
      (backendCpuComponentLimit kernel (fields address)) k st = some (.ok (), st')) :
    GeneralPass kernel callbacks expression address fields w data (k + 1) st' := by
  obtain ⟨hSession, rows, data', hRows, rfl, hRewritten, hLanes⟩ := hPass
  have hAgree : AgreeFrom FieldData.lane address (rows.length * ((fields address).elementSize / 8))
      fields st.fields := hRewritten.agreeFrom fun i hI => hLanes.rest hWidth hI
  have hSim := rowSimulation_freshLaunchFrames kernel callbacks
  obtain ⟨r, t, w', tbls, hReal, ⟨hSession', -⟩, hFresh⟩ := hSim.components hExpression
    (backendCpuComponentLimit kernel (fields address)) 0
    (by rw [Nat.zero_add]; exact Nat.min_le_right _ _)
    (hSim.start fields (fields address) rows.length st.frames [fun _ => .clean] st.world
      ⟨hSession, _, rfl⟩)
  have hSame : backendCpuEvalComponents (fun component =>
      backendCpuEvaluate (backendCpuLaunchFrames kernel) kernel callbacks st.fields
        (st.fields address) rows.length (expression, component))
      (backendCpuComponentLimit kernel (fields address)) 0
      ((backendCpuLaunchFrames kernel).nextGeneration st.frames) st.world = some (r, t, w') := by
    rw [← hReal]
    refine evalComponents_congr
      (fun component (hComponent : component < backendCpuBuilderMaxComponents kernel) => ?_)
      (by rw [Nat.zero_add]; exact Nat.min_le_right _ _) _ _
    funext s v
    exact hPointwise.evaluate hKernel.built.wellFormed _ hAgree ⟨hExpression, hComponent⟩ s v
  unfold backendCpuElement at hRun
  dsimp only at hRun
  rw [hSame] at hRun
  cases r with
  | error e => cases hRun
  | ok row =>
      cases hRun
      have hRow := (hFresh.resolve_left fun h => by cases h).1
      have hLength : row.length ≤ (fields address).elementSize / 8 := by
        rw [evalComponents_length hReal]
        exact Nat.min_le_left _ _
      refine ⟨hSession', rows ++ [row], _, .snoc hRows hRow, by simp, ?_,
        hLanes.snoc hLength hWidth⟩
      have hSize : (st.fields address).elementSize = (fields address).elementSize :=
        hAgree.elementSize address
      dsimp only
      rw [hSize, storeRow_eq]
      exact hRewritten.update _

/-- An operand at a lane from which on the fields agree. -/
theorem AgreeFrom.operandValue {address idx : ℕ} {fields fields' : Fields D}
    (hAgree : AgreeFrom FieldData.lane address idx fields fields') (builder : SimIRBuilder D)
    (operand : BackendCPUOperand D) :
    backendCpuOperandValue builder fields' operand idx =
      backendCpuOperandValue builder fields operand idx := by
  have hLane : ∀ a, (fields' a).buffer.map (·.lane idx) = (fields a).buffer.map (·.lane idx) := by
    intro a
    by_cases hEq : a = address
    · subst hEq
      exact hAgree.buffer (Nat.le_refl _)
    · rw [hAgree.others a hEq]
  unfold backendCpuOperandValue
  cases operand.field with
  | none => rfl
  | some a =>
      dsimp only [Option.bind_some]
      have hHere := hLane a
      cases hBuffer : (fields a).buffer with
      | none =>
          rw [hBuffer] at hHere
          rw [Option.map_eq_none_iff.mp hHere]
      | some data =>
          cases hBuffer' : (fields' a).buffer with
          | none =>
              rw [hBuffer, hBuffer'] at hHere
              cases hHere
          | some data' =>
              rw [hBuffer, hBuffer'] at hHere
              dsimp only
              rw [show data'.lane idx = data.lane idx from Option.some.inj hHere]

/-- Integer loads of an element from which on the fields agree. -/
theorem AgreeFrom.fieldValueInteger {address elementIndex : ℕ} {fields fields' : Fields D}
    (hAgree : AgreeFrom FieldData.word address elementIndex fields fields') (fieldIndex : ℕ)
    (domain : SimScalarDomain) :
    backendCpuFieldValueInteger kernel fields' elementIndex fieldIndex domain =
      backendCpuFieldValueInteger kernel fields elementIndex fieldIndex domain := by
  unfold backendCpuFieldValueInteger
  cases hFind : backendCpuFindField kernel fieldIndex with
  | none => rfl
  | some a =>
      dsimp only
      by_cases hEq : a = address
      · subst hEq
        have hDomain : (fields' a).domain = (fields a).domain := by
          obtain ⟨-, data, hHere, -⟩ := hAgree
          rw [hHere]
          rfl
        have hWord := hAgree.buffer (Nat.le_refl elementIndex)
        rw [hDomain, hAgree.elementSize, hAgree.elementCount]
        cases hBuffer : (fields a).buffer with
        | none =>
            rw [hBuffer] at hWord
            rw [Option.map_eq_none_iff.mp hWord]
        | some data =>
            cases hBuffer' : (fields' a).buffer with
            | none =>
                rw [hBuffer, hBuffer'] at hWord
                cases hWord
            | some data' =>
                rw [hBuffer, hBuffer'] at hWord
                simp only [show data'.word elementIndex = data.word elementIndex from
                  Option.some.inj hWord]
      · rw [hAgree.others a hEq]

theorem AgreeFrom.evaluateInteger {address elementIndex : ℕ} {fields fields' : Fields D}
    (hAgree : AgreeFrom FieldData.word address elementIndex fields fields') (root : SimIRNodeId) :
    backendCpuEvaluateInteger kernel fields' elementIndex root =
      backendCpuEvaluateInteger kernel fields elementIndex root := by
  have hBody : backendCpuEvalIntegerNode kernel fields' elementIndex =
      backendCpuEvalIntegerNode kernel fields elementIndex := by
    funext node
    simp only [backendCpuEvalIntegerNode, backendCpuEvalInteger, hAgree.fieldValueInteger]
  rw [backendCpuEvaluateInteger, hBody]
  rfl

/-- A stored word. -/
theorem storeIntegerValue_ok {fields fields' : Fields D} {address elementIndex : ℕ}
    {domain : SimScalarDomain} {raw : Word}
    (hStore : backendCpuStoreIntegerValue fields address elementIndex domain raw = .ok fields') :
    (fields address).buffer.isSome = true ∧
      fields' = fields.setWord address elementIndex (backendCpuIntegerTruncate raw domain) := by
  unfold backendCpuStoreIntegerValue at hStore
  dsimp only at hStore
  split at hStore
  case isTrue => cases hStore
  case isFalse =>
    split at hStore
    case isFalse => cases hStore
    case isTrue =>
      split at hStore
      case isTrue => cases hStore
      case isFalse hSome =>
        cases hStore
        exact ⟨Option.isSome_iff_ne_none.mpr (by simpa using hSome), rfl⟩

/-- An integer element which succeeds. -/
theorem integerElement_ok {expression : SimIRNodeId} {domain : SimScalarDomain}
    {address elementIndex : ℕ} {st st' : LaunchState S σ D}
    (hRun : backendCpuIntegerElement kernel expression domain address elementIndex st =
      some (.ok (), st')) :
    ∃ raw, backendCpuEvaluateInteger kernel st.fields elementIndex expression = some (.ok raw) ∧
      (st.fields address).buffer.isSome = true ∧
      st' = { st with
        fields := st.fields.setWord address elementIndex (backendCpuIntegerTruncate raw domain) } := by
  unfold backendCpuIntegerElement at hRun
  split at hRun
  case h_1 => cases hRun
  case h_2 => cases hRun
  case h_3 raw hRaw =>
    split at hRun
    case h_1 => cases hRun
    case h_2 fields hStore =>
      cases hRun
      obtain ⟨hSome, rfl⟩ := storeIntegerValue_ok hStore
      exact ⟨raw, hRaw, hSome, rfl⟩

/-- The state of an integer pass after `k` elements. -/
def IntegerPass (kernel : Kernel D) (expression : SimIRNodeId) (domain : SimScalarDomain)
    (address : ℕ) (start : LaunchState S σ D) (data : FieldData D) (k : ℕ)
    (st : LaunchState S σ D) : Prop :=
  st.frames = start.frames ∧ st.world = start.world ∧
    ∃ data', Rewritten address start.fields st.fields data data' ∧
      (∀ i, i < k → ∃ raw,
        backendCpuEvaluateInteger kernel start.fields i expression = some (.ok raw) ∧
          data'.word i = backendCpuIntegerTruncate raw domain) ∧
      ∀ i, k ≤ i → data'.word i = data.word i

theorem IntegerPass.step {expression : SimIRNodeId} {domain : SimScalarDomain} {address k : ℕ}
    {start st st' : LaunchState S σ D} {data : FieldData D}
    (hPass : IntegerPass kernel expression domain address start data k st)
    (hRun : backendCpuIntegerElement kernel expression domain address k st = some (.ok (), st')) :
    IntegerPass kernel expression domain address start data (k + 1) st' := by
  obtain ⟨hFrames, hWorld, data', hRewritten, hDone, hRest⟩ := hPass
  obtain ⟨raw, hRaw, -, rfl⟩ := integerElement_ok hRun
  have hAgree : AgreeFrom FieldData.word address k start.fields st.fields :=
    hRewritten.agreeFrom hRest
  rw [hAgree.evaluateInteger] at hRaw
  refine ⟨hFrames, hWorld, _, hRewritten.update _, fun i hI => ?_, fun i hI => ?_⟩
  · by_cases hEq : i = k
    · subst hEq
      exact ⟨raw, hRaw, by rw [FieldData.word_setWord, if_pos rfl]⟩
    · rw [FieldData.word_setWord, if_neg hEq]
      exact hDone i (by omega)
  · rw [FieldData.word_setWord, if_neg (by omega)]
    exact hRest i (by omega)

/-- A pass leaves the fields alone which are not its destination. -/
theorem FromPassStart.others {output : SimKernelIROutput} {x y : Fields D × σ}
    (hPass : FromPassStart kernel callbacks output x y) {a : ℕ}
    (hOther : backendCpuFindField kernel output.fieldIndex ≠ some a) : y.1 a = x.1 a := by
  have hAfter : ∀ {address : ℕ} {fields fields' : Fields D} {data data' : FieldData D},
      backendCpuFindField kernel output.fieldIndex = some address →
      Rewritten address fields fields' data data' → fields' a = fields a := by
    intro address fields fields' data data' hFind hRewritten
    rw [hRewritten.after]
    exact Function.update_of_ne (fun hEq => hOther (by rw [hFind, hEq])) _ _
  cases hPass with
  | empty => rfl
  | integer hFind _ _ hRewritten => exact hAfter hFind hRewritten
  | simple hFind _ hRewritten => exact hAfter hFind hRewritten
  | general hFind _ _ hRewritten => exact hAfter hFind hRewritten

/-- Outputs keep the backend within its session. -/
theorem Session.output {output : SimKernelIROutput}
    {st st' : LaunchState (SimBackendCPUState D) σ D} {r : Except SimError Unit}
    (hKernel : Launchable kernel) (hSession : Session σ st.frames (.launched kernel))
    (hRun : backendCpuExecuteOutput (backendCpuLaunchFrames kernel) kernel callbacks output st =
      some (r, st')) : Session σ st'.frames (.launched kernel) := by
  have hStart : LaunchState.Similar (fun s s' _ => OneTable σ kernel s s') st
      ⟨[fun _ => .clean], st.world, st.fields⟩ := ⟨⟨hSession, _, rfl⟩, rfl, rfl⟩
  obtain ⟨r', t, t', hRun', ⟨⟨hSession', -⟩, -⟩, -⟩ :=
    (rowSimulation_freshLaunchFrames kernel callbacks).output hKernel.built output hStart
  cases hRun.symm.trans hRun'
  exact hSession'

end Passes

/-- Real fields of three elements, the squares of `0`, `2` and `4`. -/
def squares : Fields ℤ := fun _ =>
  { initialized := true, shape := [3], strides := [1], elementSize := 8
    data := some (.lanes fun i => 4 * (i : ℤ) ^ 2)
    complexMode := false, repr := ⟨.physical, .realScalar⟩, scalarDomain := simScalarDomainF64 }

end Oakfield.Cpu
