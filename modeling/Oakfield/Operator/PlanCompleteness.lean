import Oakfield.Operator.PlanSoundness

/-! Which registries have a plan: those whose dependencies exist and whose graph
of dependencies and hazards has no cycle. -/
namespace Oakfield.Operator

open Library Relation

variable {registry : SimOperatorRegistry} {slots : SizeT}

/-! ### The plan record -/

/-- `SimOperatorPlan`; without an array the order is missing. -/
structure SimOperatorPlan where
  order : Option (List ℕ)
  count : ℕ
deriving DecidableEq, Repr

/-- `sim_operator_plan_reset`, which `sim_operator_plan_destroy` calls. -/
def SimOperatorPlan.reset (_ : SimOperatorPlan) : SimOperatorPlan := ⟨none, 0⟩

/-- `sim_operator_plan_allocate`, with the memory granted. -/
def SimOperatorPlan.allocate (count : ℕ) (plan : SimOperatorPlan) : SimOperatorPlan :=
  if count = 0 then plan.reset else ⟨some (List.replicate count 0), count⟩

/-- `sim_operator_resolve_plan_with_logger`, on the plan it fills. -/
def simOperatorResolvePlanWithLogger (registry : SimOperatorRegistry) (plan : SimOperatorPlan) :
    SimOperatorPlan × Except SimError Unit :=
  let plan := plan.reset.allocate registry.count
  match simOperatorResolvePlan registry with
  | .error failure => (plan.reset, .error failure)
  | .ok order =>
      if registry.count = 0 then (plan, .ok ())
      else ({ plan with order := some order }, .ok ())

/-! ### The graph -/

/-- Some explicit dependency names no operator. -/
def MissingDependency (registry : SimOperatorRegistry) : Prop :=
  ∃ i < registry.count, ∃ dep ∈ registry.deps i, registry.count ≤ dep

/-- The second operator depends on the first. -/
def DependencyEdge (registry : SimOperatorRegistry) (i j : ℕ) : Prop :=
  j < registry.count ∧ i ∈ registry.deps j

/-- The second operator depends on the first, or is registered behind it and
accesses a field in conflict with it. -/
def GraphEdge (registry : SimOperatorRegistry) (i j : ℕ) : Prop :=
  j < registry.count ∧ (i ∈ registry.deps j ∨
    i < j ∧ ∃ field, Conflict (registry.record i) (registry.record j) field)

def DependencyCycle (registry : SimOperatorRegistry) : Prop :=
  ∃ i, TransGen (DependencyEdge registry) i i

def GraphCycle (registry : SimOperatorRegistry) : Prop :=
  ∃ i, TransGen (GraphEdge registry) i i

/-- Every explicit dependency points to an earlier operator. -/
def DependsOnEarlier (registry : SimOperatorRegistry) : Prop :=
  ∀ i < registry.count, ∀ dep ∈ registry.deps i, dep < i

theorem DependencyCycle.graphCycle (hCycle : DependencyCycle registry) : GraphCycle registry := by
  obtain ⟨i, hPath⟩ := hCycle
  exact ⟨i, TransGen.mono (fun _ _ hEdge => ⟨hEdge.1, .inl hEdge.2⟩) _ _ hPath⟩

/-- Paths of the graph go up if the dependencies do. -/
theorem DependsOnEarlier.acyclic (hEarlier : DependsOnEarlier registry) : ¬GraphCycle registry := by
  rintro ⟨i, hPath⟩
  have hUp : ∀ u v, TransGen (GraphEdge registry) u v → u < v := by
    intro u v hPath
    have hEdge : ∀ u v, GraphEdge registry u v → u < v := by
      rintro u v ⟨hV, hDep | ⟨hLt, -⟩⟩
      · exact hEarlier v hV u hDep
      · exact hLt
    induction hPath with
    | single hLast => exact hEdge _ _ hLast
    | tail _ hLast ih => exact Nat.lt_trans ih (hEdge _ _ hLast)
  exact Nat.lt_irrefl i (hUp i i hPath)

theorem DependsOnEarlier.present (hEarlier : DependsOnEarlier registry) :
    ¬MissingDependency registry := by
  rintro ⟨i, hI, dep, hDep, hMissing⟩
  exact Nat.lt_irrefl dep (Nat.lt_of_lt_of_le ((hEarlier i hI dep hDep).trans hI) hMissing)

/-! ### Recorded hazards are real -/

/-- Recorded hazards join conflicting operators in registration order, and the
field tables name operators up to `i` which access the field. -/
structure Genuine (registry : SimOperatorRegistry) (i : ℕ) (s : ResolveState) : Prop where
  hazards : ∀ e ∈ s.hazardEdges,
    e.1 < e.2 ∧ ∃ field, Conflict (registry.record e.1) (registry.record e.2) field
  readers : ∀ field, ∀ j ∈ s.readers field, j ≤ i ∧ (registry.record j).Reads field
  lastWriter : ∀ field w, s.lastWriter field = some w → w ≤ i ∧ (registry.record w).Writes field

variable {i : ℕ} {s : ResolveState}

theorem Genuine.addHazards (hGenuine : Genuine registry i s) {sources : List ℕ} {field : SizeT}
    (hSources : ∀ j ∈ sources, j ≤ i ∧ Conflict (registry.record j) (registry.record i) field) :
    Genuine registry i (addHazards registry sources i s) := by
  induction sources generalizing s with
  | nil => exact hGenuine
  | cons j sources ih =>
      apply ih _ fun k hMem => hSources k (List.mem_cons_of_mem _ hMem)
      obtain ⟨hLe, hConflict⟩ := hSources j List.mem_cons_self
      show Genuine registry i (simResolveAddHazard registry j i s)
      by_cases hSelf : j = i
      · rwa [simResolveAddHazard, if_pos hSelf]
      rcases simResolveAddHazard_cases registry j i s with ⟨hEq, -⟩ | hEq
      · rwa [hEq]
      rw [hEq]
      constructor
      case readers => exact hGenuine.readers
      case lastWriter => exact hGenuine.lastWriter
      case hazards =>
        intro e hMem
        rcases List.mem_append.mp hMem with hMem | hMem
        · exact hGenuine.hazards e hMem
        · rw [List.mem_singleton] at hMem
          rw [hMem]
          exact ⟨Nat.lt_of_le_of_ne hLe hSelf, field, hConflict⟩

theorem Genuine.addWriterHazard (hGenuine : Genuine registry i s) {field : SizeT}
    (hAccess : (registry.record i).Reads field ∨ (registry.record i).Writes field) :
    Genuine registry i (addWriterHazard registry i field s) := by
  rw [addWriterHazard_eq]
  apply hGenuine.addHazards
  intro j hMem
  rw [Option.mem_toList] at hMem
  obtain ⟨hLe, hWrites⟩ := hGenuine.lastWriter field j hMem
  exact ⟨hLe, .inl ⟨hWrites, hAccess⟩⟩

theorem Genuine.noteRead (hGenuine : Genuine registry i s) {field : SizeT}
    (hReads : (registry.record i).Reads field) :
    Genuine registry i (noteRead registry i field s) := by
  have hWriter := hGenuine.addWriterHazard (.inl hReads)
  constructor
  case hazards => exact hWriter.hazards
  case lastWriter => exact hWriter.lastWriter
  case readers =>
    intro other j hMem
    simp only [Operator.noteRead] at hMem
    by_cases hEq : other = field
    · subst hEq
      rw [Function.update_self, List.mem_append, List.mem_singleton] at hMem
      rcases hMem with hMem | rfl
      · exact hWriter.readers other j hMem
      · exact ⟨Nat.le_refl _, hReads⟩
    · rw [Function.update_of_ne hEq] at hMem
      exact hWriter.readers other j hMem

theorem Genuine.noteWrite (hGenuine : Genuine registry i s) {field : SizeT}
    (hWrites : (registry.record i).Writes field) :
    Genuine registry i (noteWrite registry i field s) := by
  have hWriter := hGenuine.addWriterHazard (.inr hWrites)
  have hReaders := @Genuine.addHazards registry i _ hWriter
    ((Operator.addWriterHazard registry i field s).readers field) field
    fun j hMem => ⟨(hWriter.readers field j hMem).1, .inr ⟨(hWriter.readers field j hMem).2, hWrites⟩⟩
  constructor
  case hazards => exact hReaders.hazards
  case readers =>
    intro other j hMem
    simp only [Operator.noteWrite] at hMem
    by_cases hEq : other = field
    · subst hEq
      rw [Function.update_self] at hMem
      exact absurd hMem List.not_mem_nil
    · rw [Function.update_of_ne hEq] at hMem
      exact hReaders.readers other j hMem
  case lastWriter =>
    intro other w hLast
    simp only [Operator.noteWrite] at hLast
    by_cases hEq : other = field
    · subst hEq
      rw [Function.update_self, Option.some.injEq] at hLast
      subst hLast
      exact ⟨Nat.le_refl _, hWrites⟩
    · rw [Function.update_of_ne hEq] at hLast
      exact hReaders.lastWriter other w hLast

/-- A field scan keeps what registering one of its fields keeps. -/
theorem scanFields_induct_mem {motive : ResolveState → Prop} {note : SizeT → ResolveState → ResolveState}
    {fields : List SizeT} (hNote : ∀ field ∈ fields, ∀ s, motive s → motive (note field s))
    (seen : List SizeT) (hStart : motive s) : motive (scanFields slots note fields seen s) := by
  induction fields generalizing seen s with
  | nil => exact hStart
  | cons field fields ih =>
      have hRest := fun f hMem => hNote f (List.mem_cons_of_mem _ hMem)
      rw [scanFields]
      split
      · exact ih hRest _ (hNote field List.mem_cons_self s hStart)
      · exact ih hRest _ hStart

theorem Genuine.scanOperator {t : ResolveState} (hGenuine : Genuine registry i s)
    (hCount : Counted registry.count (registry.explicitEdges i) s) (hI : i < registry.count)
    (hRun : scanOperator registry slots i s = .ok t) : Genuine registry i t := by
  unfold Operator.scanOperator at hRun
  cases hDeps : countDependencies registry.count i (registry.deps i) s with
  | error e => simp [hDeps, bind, Except.bind] at hRun
  | ok u =>
      simp only [hDeps, bind, Except.bind, pure, Except.pure, Except.ok.injEq] at hRun
      subst hRun
      obtain ⟨-, hEdges, hReaders, hWriter⟩ := countDependencies_ok hI hCount hDeps
      have hStart : Genuine registry i u := by
        constructor
        · rw [hEdges]
          exact hGenuine.hazards
        · rw [hReaders]
          exact hGenuine.readers
        · rw [hWriter]
          exact hGenuine.lastWriter
      have hReads := @scanFields_induct_mem slots u (Genuine registry i) (Operator.noteRead registry i)
        (registry.record i).readFields
        (fun field hMem _ h => h.noteRead (SimOperator.mem_readFields.mp hMem)) [] hStart
      exact scanFields_induct_mem
        (fun field hMem _ h => h.noteWrite (SimOperator.mem_writeFields.mp hMem)) [] hReads

theorem genuine_scanOperators (hI : i ≤ registry.count)
    (hRun : scanOperators registry slots i = .ok s) : Genuine registry i s := by
  induction i generalizing s with
  | zero =>
      cases hRun
      constructor <;> simp [ResolveState.init]
  | succ i ih =>
      cases hPrior : scanOperators registry slots i with
      | error e => simp [scanOperators, hPrior, bind, Except.bind] at hRun
      | ok u =>
          simp only [scanOperators, hPrior, bind, Except.bind] at hRun
          have hHere := (ih (by omega) hPrior).scanOperator
            (scanOperators_ok (by omega) hPrior).counts (by omega) hRun
          constructor
          case hazards => exact hHere.hazards
          case readers => exact fun field j hMem =>
            ⟨Nat.le_succ_of_le (hHere.readers field j hMem).1, (hHere.readers field j hMem).2⟩
          case lastWriter => exact fun field w hLast =>
            ⟨Nat.le_succ_of_le (hHere.lastWriter field w hLast).1, (hHere.lastWriter field w hLast).2⟩

/-! ### Cycles of the scanned graph -/

theorem transGen_of_edges {r p : ℕ → ℕ → Prop} (hEdge : ∀ a b, r a b → TransGen p a b) {a b : ℕ}
    (hPath : TransGen r a b) : TransGen p a b := by
  induction hPath with
  | single hLast => exact hEdge _ _ hLast
  | tail _ hLast ih => exact ih.trans (hEdge _ _ hLast)

/-- With a slot for every field, the scanned graph has the cycles of the graph. -/
theorem cycle_planEdges (hIndices : IndicesBelowMax registry)
    (hRun : scanOperators registry registry.fieldSlots registry.count = .ok s) :
    (∃ v, TransGen (fun a b => (a, b) ∈ registry.planEdges s) v v) ↔ GraphCycle registry := by
  have hScan := scanOperators_ok (Nat.le_refl _) hRun
  have hGenuine := genuine_scanOperators (Nat.le_refl _) hRun
  have hPlan : ∀ a b, (a, b) ∈ registry.planEdges s → GraphEdge registry a b := by
    intro a b hMem
    rw [hScan.counts.planEdges_eq, List.mem_append] at hMem
    rcases hMem with hMem | hMem
    · obtain ⟨hB, hDep⟩ := mem_explicitEdges.mp hMem
      exact ⟨hB, .inl hDep⟩
    · exact ⟨(hScan.counts.hazardEdges (a, b) hMem).2, .inr (hGenuine.hazards (a, b) hMem)⟩
  have hGraph : ∀ a b, GraphEdge registry a b →
      TransGen (fun u v => (u, v) ∈ registry.planEdges s) a b := by
    rintro a b ⟨hB, hDep | ⟨hLt, field, hConflict⟩⟩
    · exact hScan.sorted_path hB (TransGen.single (.inl hDep))
    · exact hScan.sorted_path hB (hScan.conflict_path hIndices hLt hB hConflict)
  constructor
  · rintro ⟨v, hPath⟩
    exact ⟨v, TransGen.mono hPlan _ _ hPath⟩
  · rintro ⟨v, hPath⟩
    exact ⟨v, transGen_of_edges hGraph hPath⟩

/-- Without slots the scanned graph is that of the dependencies. -/
theorem cycle_planEdges_zero (hIndices : ¬IndicesBelowMax registry)
    (hRun : scanOperators registry registry.fieldSlots registry.count = .ok s) :
    (∃ v, TransGen (fun a b => (a, b) ∈ registry.planEdges s) v v) ↔ DependencyCycle registry := by
  have hScan := scanOperators_ok (Nat.le_refl _) hRun
  rw [fieldSlots_eq_zero hIndices] at hRun
  have hEdges := scanOperators_zero_hazardEdges (Nat.le_refl _) hRun
  have hSame : (fun a b => (a, b) ∈ registry.planEdges s) = DependencyEdge registry := by
    funext a b
    rw [hScan.counts.planEdges_eq, hEdges, List.append_nil, mem_explicitEdges]
    rfl
  rw [hSame]
  rfl

/-! ### The result code -/

theorem countDependencies_missing {n : ℕ} (i : ℕ) {deps : List ℕ} (hDeps : ∃ dep ∈ deps, n ≤ dep)
    (s : ResolveState) : countDependencies n i deps s = .error .invalidArgument := by
  induction deps generalizing s with
  | nil =>
      obtain ⟨dep, hMem, -⟩ := hDeps
      exact absurd hMem List.not_mem_nil
  | cons dep deps ih =>
      rw [countDependencies]
      split
      case isTrue => rfl
      case isFalse hPresent =>
        apply ih
        obtain ⟨missing, hMem, hMissing⟩ := hDeps
        rcases List.mem_cons.mp hMem with rfl | hMem
        · exact absurd hMissing hPresent
        · exact ⟨missing, hMem, hMissing⟩

/-- The scan stops at a missing dependency, and only there. -/
theorem scanOperators_cases (registry : SimOperatorRegistry) (slots : SizeT) (i : ℕ) :
    ((∃ j < i, ∃ dep ∈ registry.deps j, registry.count ≤ dep) ∧
      scanOperators registry slots i = .error .invalidArgument) ∨
    ((∀ j < i, ∀ dep ∈ registry.deps j, dep < registry.count) ∧
      ∃ s, scanOperators registry slots i = .ok s) := by
  induction i with
  | zero => exact .inr ⟨fun j hJ => absurd hJ (Nat.not_lt_zero j), _, rfl⟩
  | succ i ih =>
      rw [scanOperators]
      rcases ih with ⟨⟨j, hJ, hMissing⟩, hRun⟩ | ⟨hPresent, s, hRun⟩
      · rw [hRun]
        exact .inl ⟨⟨j, Nat.lt_succ_of_lt hJ, hMissing⟩, rfl⟩
      · rw [hRun]
        show _ ∧ scanOperator registry slots i s = _ ∨ _ ∧ ∃ t, scanOperator registry slots i s = .ok t
        rw [scanOperator]
        by_cases hHere : ∃ dep ∈ registry.deps i, registry.count ≤ dep
        · rw [countDependencies_missing i hHere]
          exact .inl ⟨⟨i, Nat.lt_succ_self i, hHere⟩, rfl⟩
        · simp only [not_exists, not_and, Nat.not_le] at hHere
          obtain ⟨t, hStep⟩ := countDependencies_total i hHere s
          rw [hStep]
          right
          apply And.intro _ ⟨_, rfl⟩
          intro j hJ
          rcases Nat.lt_succ_iff_lt_or_eq.mp hJ with hLt | rfl
          · exact hPresent j hLt
          · exact hHere

/-- The graph which is sorted has a cycle: that of the dependencies alone, where the
hazard tables have no slots. -/
def SortedCycle (registry : SimOperatorRegistry) : Prop :=
  (IndicesBelowMax registry ∧ GraphCycle registry) ∨
    (¬IndicesBelowMax registry ∧ DependencyCycle registry)

/-- The order holds all operators exactly if the sorted graph has no cycle. -/
theorem planOrder_length (hCount : Counted registry.count (registry.explicitEdges registry.count) s) :
    (planOrder registry s).length = registry.count ↔
      ¬∃ v, TransGen (fun a b => (a, b) ∈ registry.planEdges s) v v := by
  have hFinal := hCount.start.loop hCount.succsOf hCount.planEdges_nodes registry.count
  have hQueue := Kahn.loop_queue_eq_nil hCount.succsOf hCount.planEdges_nodes registry.count
    hCount.start (by simp)
  have hLength := hFinal.length_eq_iff hQueue List.nodup_range hCount.planEdges_nodes
  rw [List.length_range] at hLength
  rw [not_exists]
  exact hLength

/-- The result code, with the memory granted. -/
theorem resolvePlan_cases (hAllocated : callocFits registry.fieldSlots 24 = true) :
    (MissingDependency registry ∧ simOperatorResolvePlan registry = .error .invalidArgument) ∨
    (¬MissingDependency registry ∧ SortedCycle registry ∧
      simOperatorResolvePlan registry = .error .dependencyError) ∨
    (¬MissingDependency registry ∧ ¬SortedCycle registry ∧
      ∃ order, simOperatorResolvePlan registry = .ok order) := by
  by_cases hEmpty : registry.count = 0
  · have hNone : ∀ i, ¬i < registry.count := fun i hI => Nat.not_lt_zero i (hEmpty ▸ hI)
    have hAcyclic : ¬GraphCycle registry := by
      rintro ⟨v, hPath⟩
      obtain ⟨u, -, hLast⟩ := TransGen.tail'_iff.mp hPath
      exact hNone v hLast.1
    right
    right
    refine ⟨fun ⟨i, hI, _⟩ => hNone i hI, ?_, [], ?_⟩
    · rintro (⟨-, hCycle⟩ | ⟨-, hCycle⟩)
      · exact hAcyclic hCycle
      · exact hAcyclic hCycle.graphCycle
    · rw [simOperatorResolvePlan, if_pos hEmpty]
  rw [simOperatorResolvePlan, if_neg hEmpty, hAllocated]
  simp only [Bool.not_true, Bool.false_eq_true, if_false]
  rcases scanOperators_cases registry registry.fieldSlots registry.count with
    ⟨hMissing, hRun⟩ | ⟨hPresent, s, hRun⟩
  · rw [hRun]
    exact .inl ⟨hMissing, rfl⟩
  · right
    have hThere : ¬MissingDependency registry := by
      rintro ⟨i, hI, dep, hDep, hMissing⟩
      exact Nat.not_lt_of_le hMissing (hPresent i hI dep hDep)
    have hCycle : (∃ v, TransGen (fun a b => (a, b) ∈ registry.planEdges s) v v) ↔
        SortedCycle registry := by
      rw [SortedCycle]
      by_cases hIndices : IndicesBelowMax registry
      · rw [cycle_planEdges hIndices hRun]
        simp [hIndices]
      · rw [cycle_planEdges_zero hIndices hRun]
        simp [hIndices]
    have hLength := planOrder_length (scanOperators_ok (Nat.le_refl _) hRun).counts
    rw [hRun, ← hCycle]
    dsimp only [bind, Except.bind]
    by_cases hAll : (planOrder registry s).length = registry.count
    · right
      rw [if_neg (not_not.mpr hAll)]
      exact ⟨hThere, hLength.mp hAll, _, rfl⟩
    · left
      rw [if_pos hAll]
      exact ⟨hThere, not_not.mp (hAll ∘ hLength.mpr), rfl⟩

/-! ### Writes -/

/-- Positions of the queue which plan resolution writes: the operators without
incoming edges, then those the loop makes ready. -/
def queueWrites (registry : SimOperatorRegistry) (s : ResolveState) : List ℕ :=
  let ready := (List.range registry.count).filter (s.indegree · = 0)
  List.range ready.length ++
    Kahn.loopWrites (Csr.row s.outDegree (Csr.fill s.outDegree (registry.planEdges s)))
      registry.count ⟨s.indegree, ready, []⟩

/-- Positions of the adjacency array which plan resolution writes. -/
def adjacencyWrites (registry : SimOperatorRegistry) (s : ResolveState) : List ℕ :=
  Csr.writes s.outDegree (registry.planEdges s) ⟨fun _ => 0, fun _ => 0⟩

/-- The arrays have room for all writes. -/
def WritesInside (registry : SimOperatorRegistry) : Prop :=
  ∀ s, scanOperators registry registry.fieldSlots registry.count = .ok s →
    (∀ position ∈ adjacencyWrites registry s, position < s.totalEdges) ∧
      ∀ position ∈ queueWrites registry s, position < registry.count

theorem writesInside (registry : SimOperatorRegistry) : WritesInside registry := by
  intro s hRun
  have hCount := (scanOperators_ok (Nat.le_refl _) hRun).counts
  constructor
  · have hSources : ∀ edge ∈ registry.planEdges s, edge.1 < registry.count := fun edge hMem =>
      List.mem_range.mp (hCount.planEdges_nodes edge hMem).1
    have hTotal : s.totalEdges = Csr.offsets s.outDegree registry.count := by
      rw [Csr.offsets_eq_length hCount.outDegree_planEdges hSources, hCount.totalEdges,
        hCount.planEdges_eq, List.length_append]
    have hEmpty : Csr.Filled s.outDegree [] ⟨fun _ => 0, fun _ => 0⟩ :=
      ⟨fun _ => rfl, fun _ _ hk => absurd hk (by simp)⟩
    rw [hTotal]
    exact hEmpty.writes hSources fun u => Nat.le_of_eq (hCount.outDegree_planEdges u).symm
  · intro position hMem
    rcases List.mem_append.mp hMem with hMem | hMem
    · have hReady := List.length_filter_le (fun v => decide (s.indegree v = 0))
        (List.range registry.count)
      rw [List.length_range] at hReady
      exact Nat.lt_of_lt_of_le (List.mem_range.mp hMem) hReady
    · have hInside := hCount.start.loopWrites hCount.succsOf hCount.planEdges_nodes registry.count
        position hMem
      rwa [List.length_range] at hInside

/-! ### Completeness -/

/-- What plan resolution promises for a registry. -/
structure ResolveComplete (registry : SimOperatorRegistry) : Prop where
  invalidArgument : ∀ plan, (simOperatorResolvePlanWithLogger registry plan).2 =
    .error .invalidArgument ↔ MissingDependency registry
  dependencyError : ∀ plan, (simOperatorResolvePlanWithLogger registry plan).2 =
    .error .dependencyError ↔ ¬MissingDependency registry ∧ GraphCycle registry
  ok : ∀ plan, (simOperatorResolvePlanWithLogger registry plan).2 = .ok () ↔
    ¬MissingDependency registry ∧ ¬GraphCycle registry
  earlier : DependsOnEarlier registry → ∀ plan,
    (simOperatorResolvePlanWithLogger registry plan).2 = .ok ()
  writes : WritesInside registry
  emptied : ∀ plan failure, (simOperatorResolvePlanWithLogger registry plan).2 = .error failure →
    (simOperatorResolvePlanWithLogger registry plan).1 = ⟨none, 0⟩

theorem resolvePlanWithLogger_error {failure : SimError}
    (hRun : simOperatorResolvePlan registry = .error failure) (plan : SimOperatorPlan) :
    simOperatorResolvePlanWithLogger registry plan = (⟨none, 0⟩, .error failure) := by
  rw [simOperatorResolvePlanWithLogger, hRun]
  rfl

theorem resolvePlanWithLogger_ok {order : List ℕ} (hRun : simOperatorResolvePlan registry = .ok order)
    (plan : SimOperatorPlan) : (simOperatorResolvePlanWithLogger registry plan).2 = .ok () := by
  rw [simOperatorResolvePlanWithLogger, hRun]
  dsimp only
  split <;> rfl

/-- The result code says whether dependencies are missing, and whether the sorted
graph has a cycle. -/
theorem resolvePlanWithLogger_iff (hAllocated : callocFits registry.fieldSlots 24 = true)
    (plan : SimOperatorPlan) :
    ((simOperatorResolvePlanWithLogger registry plan).2 = .error .invalidArgument ↔
      MissingDependency registry) ∧
    ((simOperatorResolvePlanWithLogger registry plan).2 = .error .dependencyError ↔
      ¬MissingDependency registry ∧ SortedCycle registry) ∧
    ((simOperatorResolvePlanWithLogger registry plan).2 = .ok () ↔
      ¬MissingDependency registry ∧ ¬SortedCycle registry) := by
  rcases resolvePlan_cases hAllocated with
    ⟨hMissing, hRun⟩ | ⟨hPresent, hCycle, hRun⟩ | ⟨hPresent, hAcyclic, order, hRun⟩
  · rw [resolvePlanWithLogger_error hRun]
    simp [hMissing]
  · rw [resolvePlanWithLogger_error hRun]
    simp [hPresent, hCycle]
  · rw [resolvePlanWithLogger_ok hRun]
    simp [hPresent, hAcyclic]

/-- With the memory granted, plan resolution is complete exactly where the hazard
tables have a slot for every field, or are not needed to tell a cycle. -/
theorem resolveComplete_iff (registry : SimOperatorRegistry)
    (hAllocated : callocFits registry.fieldSlots 24 = true) :
    ResolveComplete registry ↔ IndicesBelowMax registry ∨ MissingDependency registry ∨
      (GraphCycle registry → DependencyCycle registry) := by
  have hResult := @resolvePlanWithLogger_iff registry hAllocated
  constructor
  · intro hComplete
    by_cases hIndices : IndicesBelowMax registry
    · exact .inl hIndices
    by_cases hMissing : MissingDependency registry
    · exact .inr (.inl hMissing)
    right
    right
    intro hCycle
    have hRun := (hComplete.dependencyError ⟨none, 0⟩).mpr ⟨hMissing, hCycle⟩
    rcases ((hResult ⟨none, 0⟩).2.1.mp hRun).2 with ⟨hBelow, -⟩ | ⟨-, hDependencies⟩
    · exact absurd hBelow hIndices
    · exact hDependencies
  · intro hCondition
    have hSame : ¬MissingDependency registry → (SortedCycle registry ↔ GraphCycle registry) := by
      intro hPresent
      constructor
      · rintro (⟨-, hCycle⟩ | ⟨-, hCycle⟩)
        · exact hCycle
        · exact hCycle.graphCycle
      · intro hCycle
        by_cases hIndices : IndicesBelowMax registry
        · exact .inl ⟨hIndices, hCycle⟩
        · rcases hCondition with hBelow | hMissing | hDependencies
          · exact absurd hBelow hIndices
          · exact absurd hMissing hPresent
          · exact .inr ⟨hIndices, hDependencies hCycle⟩
    constructor
    case invalidArgument => exact fun plan => (hResult plan).1
    case dependencyError =>
      intro plan
      rw [(hResult plan).2.1]
      exact and_congr_right hSame
    case ok =>
      intro plan
      rw [(hResult plan).2.2]
      exact and_congr_right fun hPresent => not_congr (hSame hPresent)
    case earlier =>
      intro hEarlier plan
      apply (hResult plan).2.2.mpr
      exact ⟨hEarlier.present, fun hCycle => hEarlier.acyclic ((hSame hEarlier.present).mp hCycle)⟩
    case writes => exact writesInside registry
    case emptied =>
      intro plan failure hRun
      cases hResolve : simOperatorResolvePlan registry with
      | error other => rw [resolvePlanWithLogger_error hResolve]
      | ok order =>
          rw [resolvePlanWithLogger_ok hResolve] at hRun
          cases hRun

/-- Operator 0 depends on operator 1 and writes field 5, which operator 1 reads;
the list of operator 2 holds the largest index. -/
def wrappedCycleRegistry : SimOperatorRegistry :=
  ⟨[⟨[1], 0, 0, [], [5]⟩, ⟨[], 0, 0, [5], []⟩, ⟨[], 0, 0, [sizeMax], []⟩]⟩

/-- The dependency and the hazard are a cycle, and there is a plan. -/
theorem wrappedCycleRegistry_incomplete :
    GraphCycle wrappedCycleRegistry ∧
      simOperatorResolvePlanWithLogger wrappedCycleRegistry ⟨none, 0⟩ =
        (⟨some [1, 2, 0], 3⟩, .ok ()) ∧
      ¬ResolveComplete wrappedCycleRegistry := by
  have hCycle : GraphCycle wrappedCycleRegistry := by
    refine ⟨0, TransGen.tail (TransGen.single (b := 1) ⟨by decide, .inr ⟨by decide, 5, ?_⟩⟩)
      ⟨by decide, .inl (by decide)⟩⟩
    exact .inl ⟨.inr (by decide), .inl (.inr (by decide))⟩
  have hRun : simOperatorResolvePlanWithLogger wrappedCycleRegistry ⟨none, 0⟩ =
      (⟨some [1, 2, 0], 3⟩, .ok ()) := by decide
  refine ⟨hCycle, hRun, fun hComplete => ?_⟩
  have hOk := (hComplete.ok ⟨none, 0⟩).mp (by rw [hRun])
  exact hOk.2 hCycle

/-- A dependency on an earlier operator. -/
theorem resolveComplete_pair :
    ResolveComplete ⟨[⟨[], 1, 1, [], []⟩, ⟨[0], 1, 0, [], [7]⟩]⟩ := by
  apply (resolveComplete_iff _ (by decide)).mpr
  left
  unfold IndicesBelowMax
  decide

end Oakfield.Operator
