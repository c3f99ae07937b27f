import Oakfield.Operator.PlanHazards

/-! A returned plan is a permutation of the operators which keeps explicit
dependencies and the registration order of conflicting field accesses. -/
namespace Oakfield.Operator

open Library Relation

variable {registry : SimOperatorRegistry}

/-- What a plan promises to the scheduler. -/
structure PlanSound (registry : SimOperatorRegistry) (order : List ℕ) : Prop where
  perm : order.Perm (List.range registry.count)
  dependencies : ∀ i < registry.count, ∀ dep ∈ registry.deps i, Kahn.Before order dep i
  hazards : ∀ field i j, i < j → j < registry.count →
    Conflict (registry.record i) (registry.record j) field → Kahn.Before order i j

/-- Every plan returned for the registry keeps its promises. -/
def ResolveSound (registry : SimOperatorRegistry) : Prop :=
  ∀ order, simOperatorResolvePlan registry = .ok order → PlanSound registry order

/-! ### Degree tables -/

/-- The degree tables count the explicit edges met so far and the recorded
hazards, and every operator index in the tables exists. -/
structure Counted (n : ℕ) (explicit : List (ℕ × ℕ)) (s : ResolveState) : Prop where
  indegree : ∀ v, s.indegree v =
    explicit.countP (fun e => e.2 = v) + s.hazardEdges.countP (fun e => e.2 = v)
  outDegree : ∀ u, s.outDegree u =
    (Csr.bucket explicit u).length + (Csr.bucket s.hazardEdges u).length
  explicitEdges : ∀ e ∈ explicit, e.1 < n ∧ e.2 < n
  hazardEdges : ∀ e ∈ s.hazardEdges, e.1 < n ∧ e.2 < n
  readers : ∀ field, ∀ j ∈ s.readers field, j < n
  lastWriter : ∀ field w, s.lastWriter field = some w → w < n
  totalEdges : s.totalEdges = explicit.length + s.hazardEdges.length

theorem Counted.init (n : ℕ) : Counted n [] .init := by
  constructor <;> simp [ResolveState.init]

theorem countP_target_append (edges : List (ℕ × ℕ)) (u v w : ℕ) :
    (edges ++ [(u, v)]).countP (fun e => e.2 = w) =
      bump (fun w => edges.countP fun e => e.2 = w) v w := by
  by_cases hEq : w = v
  · subst hEq
    simp [bump]
  · simp [bump, Function.update_of_ne hEq, Ne.symm hEq]

theorem length_bucket_append (edges : List (ℕ × ℕ)) (u v w : ℕ) :
    (Csr.bucket (edges ++ [(u, v)]) w).length =
      bump (fun w => (Csr.bucket edges w).length) u w := by
  by_cases hEq : w = u
  · subst hEq
    simp [bump, Csr.bucket_append]
  · simp [bump, Function.update_of_ne hEq, Csr.bucket_append,
      Csr.bucket_singleton_of_ne v (Ne.symm hEq)]

theorem bump_add_left {f g : ℕ → ℕ} (c : ℕ → ℕ) (hEq : ∀ w, f w = c w + g w) (i w : ℕ) :
    bump f i w = c w + bump g i w := by
  by_cases hW : w = i
  · subst hW
    simp [bump, hEq, Nat.add_assoc]
  · simp [bump, Function.update_of_ne hW, hEq]

theorem bump_add_right {f g : ℕ → ℕ} (c : ℕ → ℕ) (hEq : ∀ w, f w = g w + c w) (i w : ℕ) :
    bump f i w = bump g i w + c w := by
  rw [bump_add_left c (fun w => by rw [hEq w, Nat.add_comm]) i w, Nat.add_comm]

theorem Counted.addHazard {n : ℕ} {explicit : List (ℕ × ℕ)} {s : ResolveState}
    (hCount : Counted n explicit s) {u v : ℕ} (hU : u < n) (hV : v < n) :
    Counted n explicit (simResolveAddHazard registry u v s) := by
  rcases simResolveAddHazard_cases registry u v s with ⟨hEq, _⟩ | hEq
  · rwa [hEq]
  rw [hEq]
  refine ⟨fun w => ?_, fun w => ?_, hCount.explicitEdges, ?_, hCount.readers, hCount.lastWriter, ?_⟩
  · dsimp only
    rw [countP_target_append, bump_add_left _ hCount.indegree]
  · dsimp only
    rw [length_bucket_append, bump_add_left _ hCount.outDegree]
  · intro e hMem
    rcases List.mem_append.mp hMem with hMem | hMem
    · exact hCount.hazardEdges e hMem
    · rw [List.mem_singleton] at hMem
      subst hMem
      exact ⟨hU, hV⟩
  · dsimp only
    rw [hCount.totalEdges, List.length_append, List.length_singleton]
    omega

theorem Counted.addHazards {n : ℕ} {explicit : List (ℕ × ℕ)} {s : ResolveState}
    (hCount : Counted n explicit s) {sources : List ℕ} (hSources : ∀ u ∈ sources, u < n) {v : ℕ}
    (hV : v < n) : Counted n explicit (addHazards registry sources v s) := by
  induction sources generalizing s with
  | nil => exact hCount
  | cons u sources ih =>
      exact ih (hCount.addHazard (hSources u (by simp)) hV) fun w h => hSources w (by simp [h])

theorem Counted.addWriterHazard {n : ℕ} {explicit : List (ℕ × ℕ)} {s : ResolveState}
    (hCount : Counted n explicit s) {i : ℕ} (hI : i < n) (field : SizeT) :
    Counted n explicit (addWriterHazard registry i field s) := by
  rw [addWriterHazard_eq]
  exact hCount.addHazards (fun w h => hCount.lastWriter field w (by simpa using h)) hI

theorem Counted.noteRead {n : ℕ} {explicit : List (ℕ × ℕ)} {s : ResolveState}
    (hCount : Counted n explicit s) {i : ℕ} (hI : i < n) (field : SizeT) :
    Counted n explicit (noteRead registry i field s) := by
  have hWriter : Counted n explicit (Operator.addWriterHazard registry i field s) :=
    hCount.addWriterHazard hI field
  refine ⟨hWriter.indegree, hWriter.outDegree, hWriter.explicitEdges, hWriter.hazardEdges,
    fun g j hMem => ?_, hWriter.lastWriter, hWriter.totalEdges⟩
  simp only [Operator.noteRead] at hMem
  by_cases hEq : g = field
  · subst hEq
    rw [Function.update_self, List.mem_append, List.mem_singleton] at hMem
    rcases hMem with hMem | rfl
    · exact hWriter.readers g j hMem
    · exact hI
  · rw [Function.update_of_ne hEq] at hMem
    exact hWriter.readers g j hMem

theorem Counted.noteWrite {n : ℕ} {explicit : List (ℕ × ℕ)} {s : ResolveState}
    (hCount : Counted n explicit s) {i : ℕ} (hI : i < n) (field : SizeT) :
    Counted n explicit (noteWrite registry i field s) := by
  have hWriter : Counted n explicit (Operator.addWriterHazard registry i field s) :=
    hCount.addWriterHazard hI field
  have hReaders : Counted n explicit (Operator.addHazards registry
      ((Operator.addWriterHazard registry i field s).readers field) i
      (Operator.addWriterHazard registry i field s)) :=
    hWriter.addHazards (hWriter.readers field) hI
  refine ⟨hReaders.indegree, hReaders.outDegree, hReaders.explicitEdges, hReaders.hazardEdges,
    fun g j hMem => ?_, fun g w hLast => ?_, hReaders.totalEdges⟩
  · simp only [Operator.noteWrite] at hMem
    by_cases hEq : g = field
    · subst hEq
      simp at hMem
    · rw [Function.update_of_ne hEq] at hMem
      exact hReaders.readers g j hMem
  · simp only [Operator.noteWrite] at hLast
    by_cases hEq : g = field
    · subst hEq
      rw [Function.update_self, Option.some.injEq] at hLast
      exact hLast ▸ hI
    · rw [Function.update_of_ne hEq] at hLast
      exact hReaders.lastWriter g w hLast

/-- A field scan keeps whatever registering one field keeps. -/
theorem scanFields_induct {motive : ResolveState → Prop} {slots : SizeT}
    {note : SizeT → ResolveState → ResolveState}
    (hNote : ∀ field s, motive s → motive (note field s)) (fields seen : List SizeT)
    {s : ResolveState} (hStart : motive s) : motive (scanFields slots note fields seen s) := by
  induction fields generalizing seen s with
  | nil => exact hStart
  | cons field fields ih =>
      rw [scanFields]
      split
      · exact ih _ (hNote field s hStart)
      · exact ih _ hStart

/-- Counting the dependencies of `i` adds exactly its explicit edges. -/
theorem countDependencies_ok {n i : ℕ} (hI : i < n) {deps : List ℕ} {explicit : List (ℕ × ℕ)}
    {s t : ResolveState} (hCount : Counted n explicit s)
    (hRun : countDependencies n i deps s = .ok t) :
    Counted n (explicit ++ deps.map (·, i)) t ∧ t.hazardEdges = s.hazardEdges ∧
      t.readers = s.readers ∧ t.lastWriter = s.lastWriter := by
  induction deps generalizing explicit s with
  | nil =>
      cases hRun
      simpa using hCount
  | cons dep deps ih =>
      rw [countDependencies] at hRun
      split at hRun
      case isTrue => cases hRun
      case isFalse hDep =>
        have hStep : Counted n (explicit ++ [(dep, i)])
            { s with
              indegree := bump s.indegree i
              outDegree := bump s.outDegree dep
              totalEdges := s.totalEdges + 1 } := by
          refine ⟨fun w => ?_, fun w => ?_, ?_, hCount.hazardEdges, hCount.readers,
            hCount.lastWriter, ?_⟩
          · dsimp only
            rw [countP_target_append, bump_add_right _ hCount.indegree]
          · dsimp only
            rw [length_bucket_append, bump_add_right _ hCount.outDegree]
          · intro e hMem
            rcases List.mem_append.mp hMem with hMem | hMem
            · exact hCount.explicitEdges e hMem
            · rw [List.mem_singleton] at hMem
              subst hMem
              exact ⟨by omega, hI⟩
          · dsimp only
            rw [hCount.totalEdges, List.length_append, List.length_singleton]
            omega
        simpa using ih hStep hRun

/-! ### The whole scan -/

theorem Scanned.mono {R W R' W' : ℕ → SizeT → Prop} {s : ResolveState}
    (hScan : Scanned registry R' W' s) (hR : ∀ j g, R j g → R' j g) (hW : ∀ j g, W j g → W' j g) :
    Scanned registry R W s :=
  ⟨fun j g h => hScan.reads j g (hR j g h), fun j g h => hScan.writes j g (hW j g h),
    fun j k g hLt hJ hK => hScan.readWrite j k g hLt (hR j g hJ) (hW k g hK),
    fun j k g hLt hJ hK => hScan.writeRead j k g hLt (hW j g hJ) (hR k g hK),
    fun j k g hLt hJ hK => hScan.writeWrite j k g hLt (hW j g hJ) (hW k g hK)⟩

/-- The degree tables play no part in the field tables. -/
theorem Scanned.congr {R W : ℕ → SizeT → Prop} {s t : ResolveState}
    (hScan : Scanned registry R W s) (hEdges : t.hazardEdges = s.hazardEdges)
    (hReaders : t.readers = s.readers) (hWriter : t.lastWriter = s.lastWriter) :
    Scanned registry R W t := by
  have hEq : PlanEdge registry t = PlanEdge registry s := by
    funext u v
    simp [PlanEdge, hEdges]
  constructor
  · rw [hEq, hReaders, hWriter]
    exact hScan.reads
  · rw [hEq, hWriter]
    exact hScan.writes
  · rw [hEq]
    exact hScan.readWrite
  · rw [hEq]
    exact hScan.writeRead
  · rw [hEq]
    exact hScan.writeWrite

/-- The read loops of operator `i` register each of its read fields. -/
theorem Scanned.scanReads {R W : ℕ → SizeT → Prop} {s : ResolveState} {i : ℕ}
    (hScan : Scanned registry R W s) (slots : SizeT) (hBound : ∀ j g, W j g → j ≤ i) (fields seen : List SizeT)
    (hSeen : ∀ g ∈ seen, R i g) :
    Scanned registry (fun j g => R j g ∨ (j = i ∧ g ∈ fields ∧ g < slots)) W
      (scanFields slots (Operator.noteRead registry i) fields seen s) := by
  induction fields generalizing R seen s with
  | nil => simpa [scanFields] using hScan
  | cons field fields ih =>
      rw [scanFields]
      split
      case isTrue hVisit =>
        refine (ih (hScan.noteRead hBound field) (field :: seen) ?_).mono ?_ fun _ _ h => h
        · intro g hMem
          rcases List.mem_cons.mp hMem with rfl | hMem
          · exact Or.inr ⟨rfl, rfl⟩
          · exact Or.inl (hSeen g hMem)
        · rintro j g (hR | ⟨rfl, hMem, hSlot⟩)
          · exact Or.inl (Or.inl hR)
          · rcases List.mem_cons.mp hMem with rfl | hMem
            · exact Or.inl (Or.inr ⟨rfl, rfl⟩)
            · exact Or.inr ⟨rfl, hMem, hSlot⟩
      case isFalse hSkip =>
        refine (ih hScan seen hSeen).mono ?_ fun _ _ h => h
        rintro j g (hR | ⟨rfl, hMem, hSlot⟩)
        · exact Or.inl hR
        · rcases List.mem_cons.mp hMem with rfl | hMem
          · by_cases hOld : g ∈ seen
            · exact Or.inl (hSeen g hOld)
            · exact absurd ⟨hSlot, hOld⟩ hSkip
          · exact Or.inr ⟨rfl, hMem, hSlot⟩

/-- The write loops of operator `i` register each of its written fields. -/
theorem Scanned.scanWrites {R W : ℕ → SizeT → Prop} {s : ResolveState} {i : ℕ}
    (hScan : Scanned registry R W s) (slots : SizeT) (hBound : ∀ j g, R j g ∨ W j g → j ≤ i)
    (fields seen : List SizeT) (hSeen : ∀ g ∈ seen, W i g) :
    Scanned registry R (fun j g => W j g ∨ (j = i ∧ g ∈ fields ∧ g < slots))
      (scanFields slots (Operator.noteWrite registry i) fields seen s) := by
  induction fields generalizing W seen s with
  | nil => simpa [scanFields] using hScan
  | cons field fields ih =>
      rw [scanFields]
      split
      case isTrue hVisit =>
        refine (ih (hScan.noteWrite hBound field) ?_ (field :: seen) ?_).mono (fun _ _ h => h) ?_
        · rintro j g (hR | hW | ⟨rfl, _⟩)
          · exact hBound j g (Or.inl hR)
          · exact hBound j g (Or.inr hW)
          · exact Nat.le_refl _
        · intro g hMem
          rcases List.mem_cons.mp hMem with rfl | hMem
          · exact Or.inr ⟨rfl, rfl⟩
          · exact Or.inl (hSeen g hMem)
        · rintro j g (hW | ⟨rfl, hMem, hSlot⟩)
          · exact Or.inl (Or.inl hW)
          · rcases List.mem_cons.mp hMem with rfl | hMem
            · exact Or.inl (Or.inr ⟨rfl, rfl⟩)
            · exact Or.inr ⟨rfl, hMem, hSlot⟩
      case isFalse hSkip =>
        refine (ih hScan hBound seen hSeen).mono (fun _ _ h => h) ?_
        rintro j g (hW | ⟨rfl, hMem, hSlot⟩)
        · exact Or.inl hW
        · rcases List.mem_cons.mp hMem with rfl | hMem
          · by_cases hOld : g ∈ seen
            · exact Or.inl (hSeen g hOld)
            · exact absurd ⟨hSlot, hOld⟩ hSkip
          · exact Or.inr ⟨rfl, hMem, hSlot⟩

/-- Accesses of the first `i` operators to fields which have a slot. -/
def AccessesBefore (registry : SimOperatorRegistry) (slots : SizeT)
    (fields : SimOperator → List SizeT) (i j : ℕ) (field : SizeT) : Prop :=
  j < i ∧ field ∈ fields (registry.record j) ∧ field < slots

theorem AccessesBefore.succ {slots : SizeT} {fields : SimOperator → List SizeT} {i j : ℕ}
    {field : SizeT} (h : AccessesBefore registry slots fields (i + 1) j field) :
    AccessesBefore registry slots fields i j field ∨
      (j = i ∧ field ∈ fields (registry.record i) ∧ field < slots) := by
  obtain ⟨hLt, hMem, hSlot⟩ := h
  rcases Nat.lt_or_ge j i with hOld | hNew
  · exact Or.inl ⟨hOld, hMem, hSlot⟩
  · obtain rfl : j = i := by omega
    exact Or.inr ⟨rfl, hMem, hSlot⟩

theorem explicitEdges_succ (i : ℕ) :
    registry.explicitEdges (i + 1) = registry.explicitEdges i ++ (registry.deps i).map (·, i) := by
  simp [SimOperatorRegistry.explicitEdges, List.range_succ]

/-- The state after the first `i` iterations of the scan. -/
structure ScannedUpTo (registry : SimOperatorRegistry) (slots : SizeT) (i : ℕ) (s : ResolveState) :
    Prop where
  tables : Scanned registry (AccessesBefore registry slots SimOperator.readFields i)
    (AccessesBefore registry slots SimOperator.writeFields i) s
  counts : Counted registry.count (registry.explicitEdges i) s

theorem scanOperator_ok {slots : SizeT} {i : ℕ} (hI : i < registry.count) {s t : ResolveState}
    (hScan : ScannedUpTo registry slots i s) (hRun : scanOperator registry slots i s = .ok t) :
    ScannedUpTo registry slots (i + 1) t := by
  unfold scanOperator at hRun
  cases hDeps : countDependencies registry.count i (registry.deps i) s with
  | error e => simp [hDeps, bind, Except.bind] at hRun
  | ok u =>
      simp only [hDeps, bind, Except.bind, pure, Except.pure, Except.ok.injEq] at hRun
      obtain ⟨hCount, hEdges, hReaders, hWriter⟩ := countDependencies_ok hI hScan.counts hDeps
      subst hRun
      constructor
      · have hStart := hScan.tables.congr hEdges hReaders hWriter
        have hReads := hStart.scanReads slots
          (fun j g h => Nat.le_of_lt h.1) (registry.record i).readFields [] (by simp)
        have hWrites := hReads.scanWrites slots (by
          rintro j g ((hR | ⟨rfl, _⟩) | hW)
          · exact Nat.le_of_lt hR.1
          · exact Nat.le_refl _
          · exact Nat.le_of_lt hW.1) (registry.record i).writeFields [] (by simp)
        exact hWrites.mono (fun _ _ h => h.succ) (fun _ _ h => h.succ)
      · rw [explicitEdges_succ]
        exact scanFields_induct (fun field _ h => h.noteWrite hI field) _ _
          (scanFields_induct (fun field _ h => h.noteRead hI field) _ _ hCount)

theorem scanOperators_ok {slots : SizeT} {i : ℕ} (hI : i ≤ registry.count) {s : ResolveState}
    (hRun : scanOperators registry slots i = .ok s) : ScannedUpTo registry slots i s := by
  induction i generalizing s with
  | zero =>
      cases hRun
      refine ⟨?_, by simpa [SimOperatorRegistry.explicitEdges] using Counted.init _⟩
      constructor <;> simp [AccessesBefore]
  | succ i ih =>
      cases hPrior : scanOperators registry slots i with
      | error e => simp [scanOperators, hPrior, bind, Except.bind] at hRun
      | ok u =>
          simp only [scanOperators, hPrior, bind, Except.bind] at hRun
          exact scanOperator_ok (by omega) (ih (by omega) hPrior) hRun

/-! ### Sorting -/

/-- Hazards recorded by the scan name existing operators, so the adjacency
table receives all of them. -/
theorem Counted.planEdges_eq {explicit : List (ℕ × ℕ)} {s : ResolveState}
    (hCount : Counted registry.count explicit s) :
    registry.planEdges s = registry.explicitEdges registry.count ++ s.hazardEdges := by
  rw [SimOperatorRegistry.planEdges, List.filter_eq_self.mpr]
  intro e hMem
  simpa using hCount.hazardEdges e hMem

theorem mem_explicitEdges {u v : ℕ} :
    (u, v) ∈ registry.explicitEdges registry.count ↔ v < registry.count ∧ u ∈ registry.deps v := by
  simp [SimOperatorRegistry.explicitEdges]

/-- The sorted graph lies within the operators. -/
theorem Counted.planEdges_nodes {s : ResolveState}
    (hCount : Counted registry.count (registry.explicitEdges registry.count) s) :
    ∀ e ∈ registry.planEdges s,
      e.1 ∈ List.range registry.count ∧ e.2 ∈ List.range registry.count := by
  intro e hMem
  rw [hCount.planEdges_eq] at hMem
  simp only [List.mem_range]
  exact (List.mem_append.mp hMem).elim (hCount.explicitEdges e) (hCount.hazardEdges e)

/-- The degrees of the scan are those of the edges pushed to the adjacency table. -/
theorem Counted.outDegree_planEdges {s : ResolveState}
    (hCount : Counted registry.count (registry.explicitEdges registry.count) s) (u : ℕ) :
    s.outDegree u = (Csr.bucket (registry.planEdges s) u).length := by
  rw [hCount.planEdges_eq, Csr.bucket_append, List.length_append, hCount.outDegree u]

theorem Counted.succsOf {s : ResolveState}
    (hCount : Counted registry.count (registry.explicitEdges registry.count) s) :
    Kahn.SuccsOf (registry.planEdges s)
      (Csr.row s.outDegree (Csr.fill s.outDegree (registry.planEdges s))) := by
  intro u v
  rw [Csr.row_fill hCount.outDegree_planEdges u, Csr.count_bucket]

theorem Counted.start {s : ResolveState}
    (hCount : Counted registry.count (registry.explicitEdges registry.count) s) :
    Kahn.Inv (registry.planEdges s) (List.range registry.count) []
      ⟨s.indegree, (List.range registry.count).filter (s.indegree · = 0), []⟩ := by
  apply Kahn.Inv.init List.nodup_range
  intro v
  rw [hCount.planEdges_eq, List.countP_append, hCount.indegree v]

/-- The sorting loop ends in a state satisfying the invariant of the library. -/
theorem planOrder_inv {s : ResolveState}
    (hCount : Counted registry.count (registry.explicitEdges registry.count) s) :
    ∃ final : Kahn.State ℕ, planOrder registry s = final.order ∧
      Kahn.Inv (registry.planEdges s) (List.range registry.count) [] final :=
  ⟨_, rfl, hCount.start.loop hCount.succsOf hCount.planEdges_nodes registry.count⟩

theorem record_mem {i : ℕ} (hI : i < registry.count) : registry.record i ∈ registry.records := by
  have hGet : registry.records[i]? = some registry.records[i] := List.getElem?_eq_getElem hI
  rw [SimOperatorRegistry.record, List.getD_eq_getElem?_getD, hGet]
  exact List.getElem_mem hI

/-- Conflicting operators are connected in registration order. -/
theorem ScannedUpTo.conflict_path (hIndices : IndicesBelowMax registry) {s : ResolveState}
    (hScan : ScannedUpTo registry registry.fieldSlots registry.count s) {field : SizeT} {i j : ℕ}
    (hLt : i < j) (hJ : j < registry.count)
    (hConflict : Conflict (registry.record i) (registry.record j) field) :
    TransGen (PlanEdge registry s) i j := by
  have hI : i < registry.count := by omega
  have hRead : ∀ k < registry.count, (registry.record k).Reads field →
      AccessesBefore registry registry.fieldSlots SimOperator.readFields registry.count k field :=
    fun k hK h => ⟨hK, SimOperator.mem_readFields.mpr h,
      lt_fieldSlots hIndices (record_mem hK) (Or.inl h)⟩
  have hWrite : ∀ k < registry.count, (registry.record k).Writes field →
      AccessesBefore registry registry.fieldSlots SimOperator.writeFields registry.count k field :=
    fun k hK h => ⟨hK, SimOperator.mem_writeFields.mpr h,
      lt_fieldSlots hIndices (record_mem hK) (Or.inr h)⟩
  rcases hConflict with ⟨hW, hR | hW'⟩ | ⟨hR, hW⟩
  · exact hScan.tables.writeRead i j field hLt (hWrite i hI hW) (hRead j hJ hR)
  · exact hScan.tables.writeWrite i j field hLt (hWrite i hI hW) (hWrite j hJ hW')
  · exact hScan.tables.readWrite i j field hLt (hRead i hI hR) (hWrite j hJ hW)

/-- Paths of plan edges into an existing operator are paths of the sorted graph. -/
theorem ScannedUpTo.sorted_path {slots : SizeT} {s : ResolveState}
    (hScan : ScannedUpTo registry slots registry.count s) {i j : ℕ} (hJ : j < registry.count)
    (hPath : TransGen (PlanEdge registry s) i j) :
    TransGen (fun u v => (u, v) ∈ registry.planEdges s) i j := by
  have hEdge : ∀ u v, v < registry.count → PlanEdge registry s u v →
      u < registry.count ∧ (u, v) ∈ registry.planEdges s := by
    intro u v hV hEdge
    have hMem : (u, v) ∈ registry.explicitEdges registry.count ++ s.hazardEdges :=
      List.mem_append.mpr (hEdge.imp_left fun h => mem_explicitEdges.mpr ⟨hV, h⟩)
    refine ⟨?_, hScan.counts.planEdges_eq ▸ hMem⟩
    exact ((List.mem_append.mp hMem).elim (hScan.counts.explicitEdges _)
      (hScan.counts.hazardEdges _)).1
  induction hPath with
  | single hLast => exact TransGen.single (hEdge _ _ hJ hLast).2
  | tail _ hLast ih =>
      obtain ⟨hMiddle, hMem⟩ := hEdge _ _ hJ hLast
      exact TransGen.tail (ih hMiddle) hMem

/-- An order of the scanned graph with all operators in it is a permutation
respecting the explicit dependencies and every path of plan edges. -/
theorem ScannedUpTo.planOrder_complete {slots : SizeT} {s : ResolveState}
    (hScan : ScannedUpTo registry slots registry.count s)
    (hLength : (planOrder registry s).length = registry.count) :
    (planOrder registry s).Perm (List.range registry.count) ∧
      ∀ i j, j < registry.count → TransGen (PlanEdge registry s) i j →
        Kahn.Before (planOrder registry s) i j := by
  obtain ⟨final, hOrder, hInv⟩ := planOrder_inv hScan.counts
  rw [hOrder] at hLength ⊢
  have hPerm := hInv.order_perm (by simpa using hLength)
  refine ⟨hPerm, fun i j hJ hPath => ?_⟩
  exact hInv.before_of_transGen hPerm hScan.counts.planEdges_nodes (hScan.sorted_path hJ hPath)

/-- A successful call has scanned all operators and returns their order. -/
theorem simOperatorResolvePlan_ok {order : List ℕ}
    (hRun : simOperatorResolvePlan registry = .ok order) (hCount : registry.count ≠ 0) :
    ∃ s, scanOperators registry registry.fieldSlots registry.count = .ok s ∧
      order = planOrder registry s ∧ order.length = registry.count := by
  unfold simOperatorResolvePlan at hRun
  rw [if_neg hCount] at hRun
  split at hRun
  case isTrue => cases hRun
  cases hScan : scanOperators registry registry.fieldSlots registry.count with
  | error e => simp [hScan, bind, Except.bind] at hRun
  | ok s =>
      simp only [hScan, bind, Except.bind] at hRun
      split at hRun
      case isTrue => cases hRun
      case isFalse hLength =>
        cases hRun
        exact ⟨s, rfl, rfl, by simpa using hLength⟩

/-- Permutation and explicit dependencies need no condition on the indices. -/
theorem planSound_of_hazards {order : List ℕ} (hRun : simOperatorResolvePlan registry = .ok order)
    (hHazards : ∀ field i j, i < j → j < registry.count →
      Conflict (registry.record i) (registry.record j) field → Kahn.Before order i j) :
    PlanSound registry order := by
  by_cases hCount : registry.count = 0
  · simp only [simOperatorResolvePlan, hCount, if_true, Except.ok.injEq] at hRun
    subst hRun
    exact ⟨by simp [hCount], fun i hI => by omega, hHazards⟩
  · obtain ⟨s, hScan, hOrder, hLength⟩ := simOperatorResolvePlan_ok hRun hCount
    obtain ⟨hPerm, hBefore⟩ :=
      (scanOperators_ok (Nat.le_refl _) hScan).planOrder_complete (hOrder ▸ hLength)
    rw [← hOrder] at hPerm hBefore
    exact ⟨hPerm, fun i hI dep hDep => hBefore dep i hI (TransGen.single (Or.inl hDep)), hHazards⟩

/-- Without the largest index every returned plan is sound. -/
theorem resolveSound_of_indicesBelowMax (hIndices : IndicesBelowMax registry) :
    ResolveSound registry := by
  intro order hRun
  refine planSound_of_hazards hRun fun field i j hLt hJ hConflict => ?_
  obtain ⟨s, hScan, hOrder, hLength⟩ := simOperatorResolvePlan_ok hRun (by omega)
  have hUpTo := scanOperators_ok (Nat.le_refl _) hScan
  rw [hOrder]
  exact (hUpTo.planOrder_complete (hOrder ▸ hLength)).2 i j hJ
    (hUpTo.conflict_path hIndices hLt hJ hConflict)

/-! ### The largest index

`max_field + 1` wraps to zero when some list holds `SIZE_MAX`; no field then
has a slot and the plan follows the explicit dependencies alone. -/

/-- First-in first-out topological order of the explicit dependencies. -/
def explicitOrder (registry : SimOperatorRegistry) : List ℕ :=
  let edges := registry.explicitEdges registry.count
  let indegree := fun v => edges.countP fun e => e.2 = v
  (Kahn.loop (Csr.bucket edges) registry.count
    ⟨indegree, (List.range registry.count).filter (indegree · = 0), []⟩).order

/-- The explicit dependencies, where they can be resolved at all, already put
all conflicting operators in registration order. -/
def HazardsFollowDependencies (registry : SimOperatorRegistry) : Prop :=
  (∀ i < registry.count, ∀ dep ∈ registry.deps i, dep < registry.count) →
    (explicitOrder registry).length = registry.count →
    ∀ field i j, i < j → j < registry.count →
      Conflict (registry.record i) (registry.record j) field →
      Kahn.Before (explicitOrder registry) i j

theorem fieldSlots_eq_zero (hIndices : ¬IndicesBelowMax registry) : registry.fieldSlots = 0 := by
  simp only [IndicesBelowMax, not_forall, not_and_or, not_not] at hIndices
  obtain ⟨op, hMem, hMax⟩ := hIndices
  obtain ⟨highest, hEq, hLe⟩ := @belowMax_maxField registry op hMem sizeMax
    (hMax.imp (fun h => Or.inr h) fun h => Or.inr h)
  rw [SimOperatorRegistry.fieldSlots, hEq]
  unfold sizeMax at hLe
  bv_omega

theorem scanFields_zero (note : SizeT → ResolveState → ResolveState) (fields seen : List SizeT)
    (s : ResolveState) : scanFields 0 note fields seen s = s := by
  induction fields with
  | nil => rfl
  | cons field fields ih =>
      have hNo : ¬field < (0 : SizeT) := by bv_omega
      simpa [scanFields, hNo] using ih

theorem countDependencies_total {n : ℕ} (i : ℕ) {deps : List ℕ} (hDeps : ∀ dep ∈ deps, dep < n)
    (s : ResolveState) : ∃ t, countDependencies n i deps s = .ok t := by
  induction deps generalizing s with
  | nil => exact ⟨s, rfl⟩
  | cons dep deps ih =>
      have hDep := hDeps dep (by simp)
      rw [countDependencies, if_neg (by omega)]
      exact ih (fun d h => hDeps d (by simp [h])) _

/-- Without slots the scan only counts dependencies: it succeeds when they all
exist, and records no hazard. -/
theorem scanOperators_zero_total
    (hDeps : ∀ i < registry.count, ∀ dep ∈ registry.deps i, dep < registry.count) {i : ℕ}
    (hI : i ≤ registry.count) : ∃ s, scanOperators registry 0 i = .ok s := by
  induction i with
  | zero => exact ⟨_, rfl⟩
  | succ i ih =>
      obtain ⟨s, hPrior⟩ := ih (by omega)
      obtain ⟨t, hStep⟩ := countDependencies_total i (hDeps i (by omega)) s
      exact ⟨t, by simp only [scanOperators, hPrior, scanOperator, hStep, scanFields_zero, bind,
        Except.bind, pure, Except.pure]⟩

theorem scanOperators_zero_hazardEdges {i : ℕ} (hI : i ≤ registry.count) {s : ResolveState}
    (hRun : scanOperators registry 0 i = .ok s) : s.hazardEdges = [] := by
  induction i generalizing s with
  | zero =>
      cases hRun
      rfl
  | succ i ih =>
      cases hPrior : scanOperators registry 0 i with
      | error e => simp only [scanOperators, hPrior, bind, Except.bind, reduceCtorEq] at hRun
      | ok u =>
          simp only [scanOperators, hPrior, scanOperator, scanFields_zero, bind, Except.bind, pure,
            Except.pure] at hRun
          cases hDeps : countDependencies registry.count i (registry.deps i) u with
          | error e => simp [hDeps] at hRun
          | ok t =>
              simp only [hDeps, Except.ok.injEq] at hRun
              subst hRun
              have hCount := (scanOperators_ok (by omega) hPrior).counts
              rw [(countDependencies_ok (by omega) hCount hDeps).2.1, ih (by omega) hPrior]

/-- Without recorded hazards the plan is the order of the dependencies. -/
theorem planOrder_eq_explicitOrder {s : ResolveState}
    (hCount : Counted registry.count (registry.explicitEdges registry.count) s)
    (hEdges : s.hazardEdges = []) : planOrder registry s = explicitOrder registry := by
  have hPlan : registry.planEdges s = registry.explicitEdges registry.count := by
    rw [hCount.planEdges_eq, hEdges, List.append_nil]
  have hIndegree : s.indegree =
      fun v => (registry.explicitEdges registry.count).countP fun e => e.2 = v := by
    funext v
    simp [hCount.indegree v, hEdges]
  have hRows : Csr.row s.outDegree (Csr.fill s.outDegree (registry.planEdges s)) =
      Csr.bucket (registry.explicitEdges registry.count) := by
    funext u
    rw [hPlan]
    exact Csr.row_fill (fun v => by simp [hCount.outDegree v, hEdges]) u
  unfold planOrder explicitOrder
  dsimp only
  rw [hRows, hIndegree]

/-- With the largest index in some list, success means that the dependencies
can be resolved, and the plan is their order. -/
theorem simOperatorResolvePlan_of_sizeMax (hIndices : ¬IndicesBelowMax registry)
    (hCount : registry.count ≠ 0) (order : List ℕ) :
    simOperatorResolvePlan registry = .ok order ↔
      (∀ i < registry.count, ∀ dep ∈ registry.deps i, dep < registry.count) ∧
        order = explicitOrder registry ∧ order.length = registry.count := by
  have hSlots := fieldSlots_eq_zero hIndices
  constructor
  · intro hRun
    obtain ⟨s, hScan, hOrder, hLength⟩ := simOperatorResolvePlan_ok hRun hCount
    rw [hSlots] at hScan
    have hUpTo := scanOperators_ok (Nat.le_refl _) hScan
    refine ⟨fun i hI dep hDep => ?_, ?_, hLength⟩
    · exact (hUpTo.counts.explicitEdges (dep, i) (mem_explicitEdges.mpr ⟨hI, hDep⟩)).1
    · rw [hOrder, planOrder_eq_explicitOrder hUpTo.counts
        (scanOperators_zero_hazardEdges (Nat.le_refl _) hScan)]
  · rintro ⟨hDeps, rfl, hLength⟩
    obtain ⟨s, hScan⟩ := scanOperators_zero_total hDeps (Nat.le_refl _)
    have hUpTo := scanOperators_ok (Nat.le_refl _) hScan
    have hOrder := planOrder_eq_explicitOrder hUpTo.counts
      (scanOperators_zero_hazardEdges (Nat.le_refl _) hScan)
    unfold simOperatorResolvePlan
    have hFits : callocFits 0 24 = true := by decide
    simp only [hCount, hSlots, hFits, hScan, hOrder, hLength, bind, Except.bind, if_false, ne_eq,
      not_true_eq_false, Bool.not_true, Bool.false_eq_true]

/-- Where the plan must follow the dependencies alone, it follows the hazards
only if the dependencies do. -/
theorem follows_of_resolveSound (hSound : ResolveSound registry)
    (hIndices : ¬IndicesBelowMax registry) : HazardsFollowDependencies registry := by
  intro hDeps hLength field i j hLt hJ hConflict
  have hRun := (simOperatorResolvePlan_of_sizeMax hIndices (by omega) _).mpr
    ⟨hDeps, rfl, hLength⟩
  exact (hSound _ hRun).hazards field i j hLt hJ hConflict

theorem resolveSound_of_follows (hFollow : HazardsFollowDependencies registry) :
    ResolveSound registry := by
  by_cases hIndices : IndicesBelowMax registry
  · exact resolveSound_of_indicesBelowMax hIndices
  · intro order hRun
    apply planSound_of_hazards hRun
    intro field i j hLt hJ hConflict
    obtain ⟨hDeps, rfl, hLength⟩ :=
      (simOperatorResolvePlan_of_sizeMax hIndices (by omega) order).mp hRun
    exact hFollow hDeps hLength field i j hLt hJ hConflict

/-- Exactly when plan resolution keeps its promises: the hazard tables have a
slot for every field, or they are not needed. -/
theorem resolveSound_iff (registry : SimOperatorRegistry) :
    ResolveSound registry ↔ IndicesBelowMax registry ∨ HazardsFollowDependencies registry := by
  constructor
  · intro hSound
    by_cases hIndices : IndicesBelowMax registry
    · exact .inl hIndices
    · exact .inr (follows_of_resolveSound hSound hIndices)
  · rintro (hIndices | hFollow)
    · exact resolveSound_of_indicesBelowMax hIndices
    · exact resolveSound_of_follows hFollow

/-- Operator 0 depends on operator 2 and writes field 5, which operator 1
reads; the list of operator 2 holds the largest index. -/
def wrappedSlotsRegistry : SimOperatorRegistry :=
  ⟨[⟨[2], 0, 0, [], [5]⟩, ⟨[], 0, 0, [5], []⟩, ⟨[], 0, 0, [sizeMax], []⟩]⟩

/-- The reader of field 5 is planned before its writer, although the order
2, 0, 1 would keep both the dependency and the hazard. -/
theorem wrappedSlotsRegistry_unsound : ¬ResolveSound wrappedSlotsRegistry := by
  intro hSound
  have hRun : simOperatorResolvePlan wrappedSlotsRegistry = .ok [1, 2, 0] := by decide
  have hBefore := (hSound _ hRun).hazards 5 0 1 (by decide) (by decide)
    (Or.inl ⟨Or.inr (by decide), Or.inl (Or.inr (by decide))⟩)
  exact absurd hBefore (by decide)

end Oakfield.Operator
