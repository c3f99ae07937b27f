import Oakfield.Cpu.Launch
import Mathlib.Data.List.GetD

/-! Elements of a field which are overwritten one after the other while later
ones are still computed from it. -/
namespace Oakfield.Cpu

open KernelIR CDouble Library.Memo

variable {D : Type} [CDouble D] {S σ X : Type}

/-- Fields which differ at most in the first units of one field, the units being
what `view` reads from a buffer. -/
structure AgreeFrom (view : FieldData D → ℕ → X) (address start : ℕ) (fields fields' : Fields D) :
    Prop where
  others : ∀ a, a ≠ address → fields' a = fields a
  here : ∃ data, fields' address = { fields address with data := data } ∧
    ∀ i, start ≤ i → data.map (view · i) = (fields address).data.map (view · i)

section AgreeFrom

omit [CDouble D] in
theorem AgreeFrom.refl (view : FieldData D → ℕ → X) (address start : ℕ) (fields : Fields D) :
    AgreeFrom view address start fields fields :=
  ⟨fun _ _ => rfl, _, rfl, fun _ _ => rfl⟩

omit [CDouble D] in
theorem AgreeFrom.mono {view : FieldData D → ℕ → X} {address start start' : ℕ}
    {fields fields' : Fields D} (hAgree : AgreeFrom view address start fields fields')
    (hLe : start ≤ start') : AgreeFrom view address start' fields fields' := by
  obtain ⟨hOthers, data, hHere, hData⟩ := hAgree
  exact ⟨hOthers, data, hHere, fun i hI => hData i (Nat.le_trans hLe hI)⟩

omit [CDouble D] in
/-- Writing one of the first units keeps the agreement. -/
theorem AgreeFrom.update {view : FieldData D → ℕ → X} {address start : ℕ}
    {fields fields' : Fields D} (hAgree : AgreeFrom view address start fields fields')
    {write : FieldData D → FieldData D}
    (hWrite : ∀ data i, start ≤ i → view (write data) i = view data i) :
    AgreeFrom view address start fields (Function.update fields' address
      { fields' address with data := (fields' address).data.map write }) := by
  obtain ⟨hOthers, data, hHere, hData⟩ := hAgree
  refine ⟨fun a hNe => by rw [Function.update_of_ne hNe, hOthers a hNe], data.map write, ?_,
    fun i hI => ?_⟩
  · rw [Function.update_self, hHere]
  · rw [← hData i hI]
    cases data with
    | none => rfl
    | some data => exact congrArg some (hWrite data i hI)

theorem AgreeFrom.setLane {address start : ℕ} {fields fields' : Fields D}
    (hAgree : AgreeFrom FieldData.lane address start fields fields') {k : ℕ} (hK : k < start)
    (value : D) : AgreeFrom FieldData.lane address start fields (fields'.setLane address k value) :=
  hAgree.update fun data i hI => by
    rw [FieldData.lane_setLane, if_neg (Nat.ne_of_gt (Nat.lt_of_lt_of_le hK hI))]

theorem AgreeFrom.setWord {address start : ℕ} {fields fields' : Fields D}
    (hAgree : AgreeFrom FieldData.word address start fields fields') {k : ℕ} (hK : k < start)
    (raw : Word) : AgreeFrom FieldData.word address start fields (fields'.setWord address k raw) :=
  hAgree.update fun data i hI => by
    rw [FieldData.word_setWord, if_neg (Nat.ne_of_gt (Nat.lt_of_lt_of_le hK hI))]

variable {view : FieldData D → ℕ → X} {address start : ℕ} {fields fields' : Fields D}

omit [CDouble D] in
theorem AgreeFrom.elementSize (hAgree : AgreeFrom view address start fields fields') (a : ℕ) :
    (fields' a).elementSize = (fields a).elementSize := by
  obtain ⟨hOthers, data, hHere, -⟩ := hAgree
  by_cases hEq : a = address
  · rw [hEq, hHere]
  · rw [hOthers a hEq]

omit [CDouble D] in
theorem AgreeFrom.elementCount (hAgree : AgreeFrom view address start fields fields') (a : ℕ) :
    backendCpuElementCount (fields' a) = backendCpuElementCount (fields a) := by
  obtain ⟨hOthers, data, hHere, -⟩ := hAgree
  by_cases hEq : a = address
  · rw [hEq, hHere]
    rfl
  · rw [hOthers a hEq]

omit [CDouble D] in
/-- The units from `start` on, through the buffer of the field. -/
theorem AgreeFrom.buffer (hAgree : AgreeFrom view address start fields fields') {i : ℕ}
    (hI : start ≤ i) :
    (fields' address).buffer.map (view · i) = (fields address).buffer.map (view · i) := by
  obtain ⟨-, data, hHere, hData⟩ := hAgree
  rw [hHere]
  unfold SimField.buffer
  dsimp only
  split
  · rfl
  · exact hData i hI

end AgreeFrom

/-! ### Expressions which read the destination in place -/

/-- Nodes which an expression also evaluates at neighbouring elements. -/
def Moved (builder : SimIRBuilder D) (expression id : SimIRNodeId) : Prop :=
  ∃ difference node operand, builder.Reaches expression difference ∧
    builder.node? difference = some node ∧ node.data.readsNeighbors = true ∧
    operand ∈ node.data.operands ∧ builder.Reaches operand id

/-- An expression over a destination at an address reads of it only the element
which is evaluated: no difference has the destination below it, and callbacks
look neither at earlier elements nor, below a difference, at the destination. -/
structure PointwiseIn (kernel : Kernel D) (callbacks : Callbacks D σ) (expression : SimIRNodeId)
    (address : ℕ) : Prop where
  fieldRef : ∀ id node field, Moved kernel.builder expression id →
    kernel.builder.node? id = some node → node.data = .fieldRef field →
    backendCpuFindField kernel field ≠ some address
  movedCallback : ∀ id node elementIndex component request start fields fields',
    Moved kernel.builder expression id → kernel.builder.node? id = some node →
    AsksCallback node elementIndex component request →
    AgreeFrom FieldData.lane address start fields fields' →
    callbacks kernel fields' request = callbacks kernel fields request
  callback : ∀ id node elementIndex component request fields fields',
    kernel.builder.Reaches expression id → kernel.builder.node? id = some node →
    AsksCallback node elementIndex component request →
    AgreeFrom FieldData.lane address (elementIndex * ((fields address).elementSize / 8)) fields
      fields' →
    callbacks kernel fields' request = callbacks kernel fields request

section Pointwise

variable {kernel : Kernel D} {callbacks : Callbacks D σ} {expression : SimIRNodeId}
  {address elementIndex start : ℕ} {fields fields' : Fields D}

/-- Loads of an element from which on the fields agree. -/
theorem AgreeFrom.fieldValue
    (hAgree : AgreeFrom FieldData.lane address (elementIndex * ((fields address).elementSize / 8))
      fields fields') (fieldIndex component : ℕ) :
    backendCpuFieldValueComponent kernel fields' elementIndex fieldIndex component =
      backendCpuFieldValueComponent kernel fields elementIndex fieldIndex component := by
  unfold backendCpuFieldValueComponent
  cases hFind : backendCpuFindField kernel fieldIndex with
  | none => rfl
  | some a =>
      dsimp only
      by_cases hEq : a = address
      · subst hEq
        have hLoad := fun component =>
          hAgree.buffer (Nat.le_add_right (elementIndex * ((fields a).elementSize / 8)) component)
        rw [hAgree.elementSize, hAgree.elementCount]
        cases hBuffer : (fields a).buffer with
        | none =>
            rw [hBuffer] at hLoad
            rw [Option.map_eq_none_iff.mp (hLoad 0)]
        | some data =>
            cases hBuffer' : (fields' a).buffer with
            | none =>
                rw [hBuffer, hBuffer'] at hLoad
                cases hLoad 0
            | some data' =>
                rw [hBuffer, hBuffer'] at hLoad
                have hLane : ∀ component,
                    data'.lane (elementIndex * ((fields a).elementSize / 8) + component) =
                      data.lane (elementIndex * ((fields a).elementSize / 8) + component) :=
                  fun component => Option.some.inj (hLoad component)
                split
                case isTrue hReal =>
                  have hFirst := hLane 0
                  rw [hReal, Nat.add_zero, Nat.mul_one] at hFirst
                  simp only [hFirst]
                case isFalse => simp only [hLane]
      · rw [hAgree.others a hEq]

omit [CDouble D] in
/-- Neighbours depend on the layout of a field only. -/
theorem AgreeFrom.neighbors {view : FieldData D → ℕ → X}
    (hAgree : AgreeFrom view address start fields fields') (elementIndex axis : ℕ)
    (boundary : SimIRBoundaryPolicy) :
    simNdAxisNeighbors (fields' address) elementIndex axis boundary =
      simNdAxisNeighbors (fields address) elementIndex axis boundary := by
  obtain ⟨-, data, hHere, -⟩ := hAgree
  rw [hHere]
  rfl

/-- The body of a node computes the same unless it loads an earlier element of
the destination. -/
theorem AgreeFrom.evalNode (hAgree : AgreeFrom FieldData.lane address start fields fields')
    {c : ℕ} {node : SimIRNode D}
    (hLoad : ∀ field, node.data = .fieldRef field →
      backendCpuFindField kernel field ≠ some address ∨
        start ≤ c * ((fields address).elementSize / 8)) (component : ℕ) :
    backendCpuEvalNode kernel fields' (fields' address) c node component =
      backendCpuEvalNode kernel fields (fields address) c node component := by
  unfold backendCpuEvalNode
  cases hData : node.data with
  | fieldRef field =>
      dsimp only
      rcases hLoad field hData with hElsewhere | hLater
      · unfold backendCpuFieldValueComponent
        cases hFind : backendCpuFindField kernel field with
        | none => rfl
        | some a =>
            have hNe : a ≠ address := fun hEq => hElsewhere (by rw [hFind, hEq])
            simp only [hAgree.others a hNe]
      · rw [(hAgree.mono hLater).fieldValue]
  | diff spec => simp only [hAgree.neighbors]
  | _ => rfl

/-- Lanes which an expression asks for at an element: its own nodes, those below
a difference also at other elements. -/
def Asked (kernel : Kernel D) (expression : SimIRNodeId) (elementIndex c : ℕ) (lane : NodeLane) :
    Prop :=
  InGrid kernel lane ∧ kernel.builder.Reaches expression lane.1 ∧
    (c = elementIndex ∨ Moved kernel.builder expression lane.1)

omit [CDouble D] in
theorem Asked.step {c c' : ℕ} {lane asked : NodeLane} {node : SimIRNode D}
    (hAsked : Asked kernel expression elementIndex c lane)
    (hNode : kernel.builder.node? lane.1 = some node) (hAsks : AsksLane kernel node c c' asked) :
    Asked kernel expression elementIndex c' asked := by
  obtain ⟨-, hReach, hWhere⟩ := hAsked
  obtain ⟨⟨hGrid, hOperand⟩, hContext⟩ := hAsks
  have hStep : kernel.builder.HasOperand lane.1 asked.1 := ⟨node, hNode, hOperand⟩
  refine ⟨hGrid, hReach.tail hStep, ?_⟩
  rcases hWhere with hHere | ⟨difference, moved, operand, hDiff, hMoved, hReads, hMem, hBelow⟩
  · rcases hContext with hSame | hReads
    · exact .inl (hSame.trans hHere)
    · exact .inr ⟨lane.1, node, asked.1, hReach, hNode, hReads, hOperand, .refl⟩
  · exact .inr ⟨difference, moved, operand, hDiff, hMoved, hReads, hMem, hBelow.tail hStep⟩

/-- At an element from which on the fields agree, a pointwise expression
evaluates alike over both. -/
theorem PointwiseIn.evaluate (hPointwise : PointwiseIn kernel callbacks expression address)
    (hBuilder : kernel.builder.WellFormed) (frames : LaunchFrames S D)
    (hAgree : AgreeFrom FieldData.lane address (elementIndex * ((fields address).elementSize / 8))
      fields fields') {component : ℕ} (hGrid : InGrid kernel (expression, component)) (s : S)
    (w : σ) :
    backendCpuEvaluate frames kernel callbacks fields' (fields' address) elementIndex
        (expression, component) s w =
      backendCpuEvaluate frames kernel callbacks fields (fields address) elementIndex
        (expression, component) s w := by
  unfold backendCpuEvaluate
  refine eval_congr (P := Asked kernel expression elementIndex)
    (A := fun request => ∃ c lane node, Asked kernel expression elementIndex c lane ∧
      kernel.builder.node? lane.1 = some node ∧ AsksCallback node c lane.2 request)
    frames.table ?_ ?_ ?_ (fun c lane hAsked => ?_) (fun c lane hAsked => ?_)
    (fun request hRequest => ?_) _ ⟨hGrid, .refl, .inl rfl⟩ s w
  · rfl
  · rfl
  · rfl
  · simp only [backendCpuRules]
    cases hNode : kernel.builder.node? lane.1 with
    | none => rfl
    | some node =>
        refine hAgree.evalNode (fun field hData => ?_) lane.2
        rcases hAsked.2.2 with rfl | hMoved
        · exact .inr (Nat.le_refl _)
        · exact .inl (hPointwise.fieldRef lane.1 node field hMoved hNode hData)
  · simp only [backendCpuRules]
    cases hNode : kernel.builder.node? lane.1 with
    | none => trivial
    | some node =>
        exact (withinAt_backendCpuEvalNode hBuilder hAsked.1 hNode c).mono
          (fun c' asked hAsks => hAsked.step hNode hAsks)
          fun request hAsks => ⟨c, lane, node, hAsked, hNode, hAsks⟩
  · obtain ⟨c, lane, node, ⟨-, hReach, hWhere⟩, hNode, hAsks⟩ := hRequest
    funext w
    rcases hWhere with rfl | hMoved
    · rw [hPointwise.callback lane.1 node c lane.2 request fields fields' hReach hNode hAsks hAgree]
    · rw [hPointwise.movedCallback lane.1 node c lane.2 request _ fields fields' hMoved hNode hAsks
        hAgree]

end Pointwise

/-! ### Rows which are stored -/

theorem storeRow_eq (fields : Fields D) (address k : ℕ) (row : List D) :
    fields.storeRow address k row = Function.update fields address
      { fields address with data := (fields address).data.map fun data => data.storeRow k row } := by
  induction row generalizing fields k with
  | nil => simp [Fields.storeRow, FieldData.storeRow, Option.map_id']
  | cons value row ih =>
      rw [Fields.storeRow, ih]
      simp [Fields.setLane, FieldData.storeRow, Function.comp_def]

theorem AgreeFrom.storeRow {address start k : ℕ} {fields fields' : Fields D} {row : List D}
    (hAgree : AgreeFrom FieldData.lane address start fields fields')
    (hRow : k + row.length ≤ start) :
    AgreeFrom FieldData.lane address start fields (fields'.storeRow address k row) := by
  rw [storeRow_eq]
  refine hAgree.update fun data i hI => ?_
  rw [FieldData.lane_storeRow, if_pos (by omega), List.getD_eq_default _ _ (by omega)]

/-- The lanes after rows of elements of a width were stored from the first on;
lanes which no row has are as before. -/
def Overwritten (width : ℕ) (rows : List (List D)) (data data' : FieldData D) : Prop :=
  ∀ i, data'.lane i = (rows.getD (i / width) []).getD (i % width) (data.lane i)

theorem Overwritten.nil (width : ℕ) (data : FieldData D) : Overwritten width [] data data :=
  fun _ => rfl

theorem Overwritten.snoc {width : ℕ} {rows : List (List D)} {data data' : FieldData D}
    (hRows : Overwritten width rows data data') {row : List D} (hRow : row.length ≤ width)
    (hWidth : 0 < width) :
    Overwritten width (rows ++ [row]) data (data'.storeRow (rows.length * width) row) := by
  intro i
  rw [FieldData.lane_storeRow, hRows i]
  have hSplit := Nat.div_add_mod i width
  rcases Nat.lt_trichotomy (i / width) rows.length with hLt | hEq | hGt
  · have hBefore : i < rows.length * width := (Nat.div_lt_iff_lt_mul hWidth).mp hLt
    rw [if_neg (Nat.not_le_of_lt hBefore), List.getD_append _ _ _ _ hLt]
  · have hOffset : i - rows.length * width = i % width := by
      rw [← hEq, Nat.mul_comm]
      omega
    have hFrom : rows.length * width ≤ i := by
      rw [← hEq, Nat.mul_comm]
      omega
    rw [if_pos hFrom, hOffset, List.getD_eq_default rows [] (Nat.le_of_eq hEq.symm),
      List.getD_append_right _ _ _ _ (Nat.le_of_eq hEq.symm), hEq, Nat.sub_self]
    rfl
  · have hAfter : rows.length * width + width ≤ i := by
      rw [← Nat.succ_mul]
      exact (Nat.le_div_iff_mul_le hWidth).mp hGt
    rw [if_pos (by omega), List.getD_eq_default rows [] (by omega),
      List.getD_eq_default row _ (by omega),
      List.getD_eq_default (rows ++ [row]) [] (by
        rw [List.length_append]
        exact hGt)]

theorem Overwritten.rest {width : ℕ} {rows : List (List D)} {data data' : FieldData D}
    (hRows : Overwritten width rows data data') (hWidth : 0 < width) {i : ℕ}
    (hI : rows.length * width ≤ i) : data'.lane i = data.lane i := by
  rw [hRows i, List.getD_eq_default rows [] ((Nat.le_div_iff_mul_le hWidth).mpr hI)]
  rfl

/-! ### Fields with one buffer rewritten -/

/-- Fields before and after the buffer at an address was rewritten. -/
structure Rewritten (address : ℕ) (fields fields' : Fields D) (data data' : FieldData D) : Prop where
  before : (fields address).buffer = some data
  after : fields' = Function.update fields address { fields address with data := some data' }

section Rewritten

variable {address : ℕ} {fields fields' : Fields D} {data data' : FieldData D}

omit [CDouble D] in
theorem Rewritten.contents (hRewritten : Rewritten address fields fields' data data') :
    (fields address).data = some data := by
  have hBefore := hRewritten.before
  unfold SimField.buffer at hBefore
  split at hBefore
  · cases hBefore
  · exact hBefore

omit [CDouble D] in
theorem Rewritten.refl (hBefore : (fields address).buffer = some data) :
    Rewritten address fields fields data data := by
  refine ⟨hBefore, ?_⟩
  unfold SimField.buffer at hBefore
  split at hBefore
  · cases hBefore
  · rw [← hBefore, Function.update_eq_self]

omit [CDouble D] in
theorem Rewritten.update (hRewritten : Rewritten address fields fields' data data')
    (write : FieldData D → FieldData D) :
    Rewritten address fields (Function.update fields' address
      { fields' address with data := (fields' address).data.map write }) data (write data') := by
  refine ⟨hRewritten.before, ?_⟩
  rw [hRewritten.after]
  simp

omit [CDouble D] in
/-- Rewritten units before `start` only. -/
theorem Rewritten.agreeFrom (hRewritten : Rewritten address fields fields' data data')
    {view : FieldData D → ℕ → X} {start : ℕ} (hRest : ∀ i, start ≤ i → view data' i = view data i) :
    AgreeFrom view address start fields fields' := by
  rw [hRewritten.after]
  refine ⟨fun a hNe => Function.update_of_ne hNe _ _, some data', Function.update_self _ _ _,
    fun i hI => ?_⟩
  rw [hRewritten.contents, Option.map_some, Option.map_some, hRest i hI]

end Rewritten

end Oakfield.Cpu
