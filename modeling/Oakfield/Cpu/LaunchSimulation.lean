import Oakfield.Cpu.FrameInvariant
import Oakfield.Cpu.Launch

/-! Launches over two kinds of frames, step by step: what the rows of elements
have in common, whole launches have in common. -/
namespace Oakfield.Cpu

open KernelIR CDouble Library.Memo Library.Loop

variable {D : Type} [CDouble D] {S S' σ : Type}

/-- Two kinds of frames which correspond within a launch of a kernel: `R` holds
between elements and `Row` while the lanes of an element are evaluated. Lanes of
the grid evaluate alike, unless a nested frame cannot be acquired. -/
structure RowSimulation (frames : LaunchFrames S D) (frames' : LaunchFrames S' D)
    (kernel : Kernel D) (callbacks : Callbacks D σ) (R : S → S' → σ → Prop)
    (Row : Fields D → SimField D → ℕ → S → S' → σ → Prop) : Prop where
  start : ∀ fields reference elementIndex s s' w, R s s' w →
    Row fields reference elementIndex (frames.nextGeneration s) (frames'.nextGeneration s') w
  stop : ∀ fields reference elementIndex s s' w, Row fields reference elementIndex s s' w → R s s' w
  lane : ∀ fields reference elementIndex s s' w lane, InGrid kernel lane →
    Row fields reference elementIndex s s' w → ∃ r t w' t',
      backendCpuEvaluate frames kernel callbacks fields reference elementIndex lane s w =
        some (r, t, w') ∧ R t t' w' ∧
      (r = .error .outOfMemory ∨
        backendCpuEvaluate frames' kernel callbacks fields reference elementIndex lane s' w =
            some (r, t', w') ∧
          Row fields reference elementIndex t t' w')
  integerCache : ∀ s s' w, R s s' w →
    R (frames.integerCache s).1 s' w ∧ frames'.integerCache s' = (s', true)

section Simulation

variable {frames : LaunchFrames S D} {frames' : LaunchFrames S' D} {kernel : Kernel D}
  {callbacks : Callbacks D σ} {R : S → S' → σ → Prop}
  {Row : Fields D → SimField D → ℕ → S → S' → σ → Prop}

/-- Rows of lanes evaluate alike. -/
theorem RowSimulation.components
    (hSim : RowSimulation frames frames' kernel callbacks R Row) {fields : Fields D}
    {reference : SimField D} {elementIndex : ℕ} {expression : SimIRNodeId}
    (hExpression : expression < kernel.builder.count) (limit component : ℕ)
    (hLimit : component + limit ≤ backendCpuBuilderMaxComponents kernel) {s : S} {s' : S'} {w : σ}
    (hRow : Row fields reference elementIndex s s' w) :
    ∃ r t w' t',
      backendCpuEvalComponents (fun component => backendCpuEvaluate frames kernel callbacks fields
        reference elementIndex (expression, component)) limit component s w = some (r, t, w') ∧
      R t t' w' ∧
      (r = .error .outOfMemory ∨
        backendCpuEvalComponents (fun component => backendCpuEvaluate frames' kernel callbacks
          fields reference elementIndex (expression, component)) limit component s' w =
            some (r, t', w') ∧
          Row fields reference elementIndex t t' w') := by
  induction limit generalizing component s s' w with
  | zero => exact ⟨.ok [], s, w, s', rfl, hSim.stop _ _ _ _ _ _ hRow, .inr ⟨rfl, hRow⟩⟩
  | succ limit ih =>
      obtain ⟨r, t, w', t', hLeft, hR, hRight⟩ := hSim.lane fields reference elementIndex s s' w
        (expression, component) ⟨hExpression, by dsimp only; omega⟩ hRow
      cases r with
      | error e =>
          refine ⟨.error e, t, w', t', by simp only [backendCpuEvalComponents, hLeft], hR, ?_⟩
          rcases hRight with hStop | ⟨hRight, hRow'⟩
          · cases hStop
            exact .inl rfl
          · exact .inr ⟨by simp only [backendCpuEvalComponents, hRight], hRow'⟩
      | ok value =>
          rcases hRight with hStop | ⟨hRight, hRow'⟩
          · cases hStop
          · obtain ⟨r, u, w'', u', hRest, hR', hLast⟩ := ih (component + 1) (by omega) hRow'
            cases r with
            | error e =>
                refine ⟨.error e, u, w'', u', by
                  simp only [backendCpuEvalComponents, hLeft, hRest], hR', ?_⟩
                rcases hLast with hStop | ⟨hLast, hRow''⟩
                · cases hStop
                  exact .inl rfl
                · exact .inr ⟨by simp only [backendCpuEvalComponents, hRight, hLast], hRow''⟩
            | ok row =>
                rcases hLast with hStop | ⟨hLast, hRow''⟩
                · cases hStop
                · exact ⟨.ok (value :: row), u, w'', u', by
                    simp only [backendCpuEvalComponents, hLeft, hRest], hR', .inr ⟨by
                    simp only [backendCpuEvalComponents, hRight, hLast], hRow''⟩⟩

/-- States of two launches which differ in their frames only. -/
def LaunchState.Similar (R : S → S' → σ → Prop) (st : LaunchState S σ D) (st' : LaunchState S' σ D) :
    Prop :=
  R st.frames st'.frames st.world ∧ st.world = st'.world ∧ st.fields = st'.fields

/-- A step of one launch, and the same step of the other unless memory runs out. -/
def StepsAlike (R : S → S' → σ → Prop) (out : Outcome S σ D) (out' : Outcome S' σ D) : Prop :=
  ∃ r st st', out = some (r, st) ∧ LaunchState.Similar R st st' ∧
    (r = .error .outOfMemory ∨ out' = some (r, st'))

omit [CDouble D] in
theorem StepsAlike.of_eq {R : S → S' → σ → Prop} {st : LaunchState S σ D} {st' : LaunchState S' σ D}
    (hSimilar : LaunchState.Similar R st st') (r : Except SimError Unit) :
    StepsAlike R (some (r, st)) (some (r, st')) :=
  ⟨r, st, st', rfl, hSimilar, .inr rfl⟩

theorem RowSimulation.element (hSim : RowSimulation frames frames' kernel callbacks R Row)
    {expression : SimIRNodeId} (hExpression : expression < kernel.builder.count)
    (address elementIndex : ℕ) {limit : ℕ} (hLimit : limit ≤ backendCpuBuilderMaxComponents kernel)
    {st : LaunchState S σ D} {st' : LaunchState S' σ D}
    (hSimilar : LaunchState.Similar R st st') :
    StepsAlike R
      (backendCpuElement frames kernel callbacks expression address limit elementIndex st)
      (backendCpuElement frames' kernel callbacks expression address limit elementIndex st') := by
  obtain ⟨s, w, fields⟩ := st
  obtain ⟨s', w', fields'⟩ := st'
  obtain ⟨hR, hWorld, hFields⟩ := hSimilar
  dsimp only at hR hWorld hFields
  subst hWorld hFields
  obtain ⟨r, t, v, t', hLeft, hR', hRight⟩ := hSim.components hExpression limit 0
    (by omega) (hSim.start fields (fields address) elementIndex s s' w hR)
  unfold backendCpuElement
  dsimp only
  rw [hLeft]
  cases r with
  | error e =>
      refine ⟨.error e, _, ⟨t', v, fields⟩, rfl, ⟨hR', rfl, rfl⟩, ?_⟩
      rcases hRight with hStop | ⟨hRight, -⟩
      · cases hStop
        exact .inl rfl
      · rw [hRight]
        exact .inr rfl
  | ok row =>
      rcases hRight with hStop | ⟨hRight, -⟩
      · cases hStop
      · rw [hRight]
        exact ⟨_, _, ⟨t', v, _⟩, rfl, ⟨hR', rfl, rfl⟩, .inr rfl⟩

omit [CDouble D] in
/-- Loops of alike steps are alike. -/
theorem StepsAlike.forEach {α : Type} {body : α → LaunchState S σ D → Outcome S σ D}
    {body' : α → LaunchState S' σ D → Outcome S' σ D}
    (hStep : ∀ a st st', LaunchState.Similar R st st' → StepsAlike R (body a st) (body' a st'))
    (items : List α) {st : LaunchState S σ D} {st' : LaunchState S' σ D}
    (hSimilar : LaunchState.Similar R st st') :
    StepsAlike R (Library.Loop.forEach body items st) (Library.Loop.forEach body' items st') :=
  forEach_simulated hStep items hSimilar

/-- Integer outputs do not use the frames. -/
theorem integerElement_alike (hBuilt : Built kernel.builder) {expression : SimIRNodeId}
    {root : SimIRNode D} (hRoot : kernel.builder.node? expression = some root)
    (hInteger : root.valueType.domain.isInteger = true) (domain : SimScalarDomain)
    (address elementIndex : ℕ) {st : LaunchState S σ D} {st' : LaunchState S' σ D}
    (hSimilar : LaunchState.Similar R st st') :
    StepsAlike R (backendCpuIntegerElement kernel expression domain address elementIndex st)
      (backendCpuIntegerElement kernel expression domain address elementIndex st') := by
  obtain ⟨hR, hWorld, hFields⟩ := hSimilar
  obtain ⟨result, hResult⟩ :=
    backendCpuEvaluateInteger_isSome hBuilt hRoot hInteger st.fields elementIndex
  unfold backendCpuIntegerElement
  rw [← hFields, hResult]
  cases result with
  | error e => exact .of_eq ⟨hR, hWorld, hFields⟩ _
  | ok raw =>
      dsimp only
      cases backendCpuStoreIntegerValue st.fields address elementIndex domain raw with
      | error e => exact .of_eq ⟨hR, hWorld, hFields⟩ _
      | ok fields =>
          exact ⟨_, _, ⟨st'.frames, st'.world, fields⟩, rfl, ⟨hR, hWorld, rfl⟩, .inr rfl⟩

theorem RowSimulation.integerOutput (hSim : RowSimulation frames frames' kernel callbacks R Row)
    (hBuilt : Built kernel.builder) {expression : SimIRNodeId} {root : SimIRNode D}
    (hRoot : kernel.builder.node? expression = some root) (address : ℕ)
    {st : LaunchState S σ D} {st' : LaunchState S' σ D} (hSimilar : LaunchState.Similar R st st') :
    StepsAlike R (backendCpuExecuteIntegerOutput frames kernel expression root address st)
      (backendCpuExecuteIntegerOutput frames' kernel expression root address st') := by
  obtain ⟨hR, hWorld, hFields⟩ := hSimilar
  obtain ⟨hCache, hCache'⟩ := hSim.integerCache _ _ _ hR
  unfold backendCpuExecuteIntegerOutput
  rw [← hFields, hCache']
  dsimp only
  split
  · exact .of_eq ⟨hR, hWorld, hFields⟩ _
  case isFalse hTyped =>
    split
    · exact .of_eq ⟨hR, hWorld, hFields⟩ _
    · have hInteger : root.valueType.domain.isInteger = true := by
        simp only [Bool.or_eq_true, not_or, Bool.not_eq_true', Bool.not_eq_false] at hTyped
        exact hTyped.1.1
      cases hRun : frames.integerCache st.frames with
      | mk cache allocated =>
          rw [hRun] at hCache
          cases allocated with
          | false => exact ⟨_, _, st', rfl, ⟨hCache, hWorld, hFields⟩, .inl rfl⟩
          | true =>
              exact StepsAlike.forEach (fun elementIndex t t' hSimilar =>
                integerElement_alike hBuilt hRoot hInteger _ address elementIndex hSimilar) _
                ⟨hCache, hWorld, rfl⟩

theorem RowSimulation.output (hSim : RowSimulation frames frames' kernel callbacks R Row)
    (hBuilt : Built kernel.builder) (output : SimKernelIROutput) {st : LaunchState S σ D}
    {st' : LaunchState S' σ D} (hSimilar : LaunchState.Similar R st st') :
    StepsAlike R (backendCpuExecuteOutput frames kernel callbacks output st)
      (backendCpuExecuteOutput frames' kernel callbacks output st') := by
  have hFields := hSimilar.2.2
  unfold backendCpuExecuteOutput
  rw [← hFields]
  cases backendCpuFindField kernel output.fieldIndex with
  | none => exact .of_eq hSimilar _
  | some address =>
      cases hRoot : kernel.builder.node? output.expression with
      | none => exact .of_eq hSimilar _
      | some root =>
          dsimp only
          split
          · exact hSim.integerOutput hBuilt hRoot address hSimilar
          split
          · exact .of_eq hSimilar _
          split
          · exact .of_eq hSimilar _
          split
          · exact .of_eq hSimilar _
          split
          case h_1 fields hFast =>
            exact ⟨_, _, ⟨st'.frames, st'.world, fields⟩, rfl, ⟨hSimilar.1, hSimilar.2.1, rfl⟩,
              .inr rfl⟩
          case h_2 =>
            unfold backendCpuGeneralPath
            rw [← hFields]
            exact StepsAlike.forEach (fun elementIndex t t' hSimilar =>
              hSim.element (SimIRBuilder.lt_count_of_node? hRoot) address elementIndex
                (Nat.min_le_right _ _) hSimilar) _ hSimilar

/-- The outputs of a kernel execute alike. -/
theorem RowSimulation.outputs (hSim : RowSimulation frames frames' kernel callbacks R Row)
    (hBuilt : Built kernel.builder) (outputs : List SimKernelIROutput) {st : LaunchState S σ D}
    {st' : LaunchState S' σ D} (hSimilar : LaunchState.Similar R st st') :
    StepsAlike R (Library.Loop.forEach (backendCpuExecuteOutput frames kernel callbacks) outputs st)
      (Library.Loop.forEach (backendCpuExecuteOutput frames' kernel callbacks) outputs st') :=
  StepsAlike.forEach (fun output _ _ => hSim.output hBuilt output) outputs hSimilar

/-- Launches from base frames which were acquired alike. -/
theorem RowSimulation.launch (hSim : RowSimulation frames frames' kernel callbacks R Row)
    (hBuilt : Built kernel.builder) {s t : S} {s' t' : S'} (hBegin : frames.begin s = (t, true))
    (hBegin' : frames'.begin s' = (t', true)) {w : σ} (hR : R t t' w) (fields : Fields D) :
    ∃ r u u' v fields', R u u' v ∧
      backendCpuLaunchWith frames kernel callbacks ⟨s, w, fields⟩ =
        some (r, ⟨frames.finish u, v, fields'⟩) ∧
      (r = .error .outOfMemory ∨ backendCpuLaunchWith frames' kernel callbacks ⟨s', w, fields⟩ =
        some (r, ⟨frames'.finish u', v, fields'⟩)) := by
  have hStart : LaunchState.Similar R ⟨t, w, fields⟩ ⟨t', w, fields⟩ := ⟨hR, rfl, rfl⟩
  obtain ⟨r, ⟨u, v, fields₁⟩, ⟨u', v', fields₂⟩, hLeft, ⟨hR', hWorld, hFields⟩, hRight⟩ :=
    hSim.outputs hBuilt kernel.outputs hStart
  dsimp only at hR' hWorld hFields
  subst hWorld hFields
  refine ⟨r, u, u', v, fields₁, hR', ?_, hRight.imp_right fun hRight => ?_⟩
  · simp only [backendCpuLaunchWith, hBegin, hLeft, Option.map_some]
  · simp only [backendCpuLaunchWith, hBegin', hRight, Option.map_some]

end Simulation

end Oakfield.Cpu
