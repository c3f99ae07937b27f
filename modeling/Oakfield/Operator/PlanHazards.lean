import Oakfield.Operator.Plan
import Mathlib.Data.List.Range

/-! Field accesses and hazard tables of plan resolution. Only edges from the
last writer and from the readers since are recorded; all other conflicting
accesses are connected along paths of the plan graph. -/
namespace Oakfield.Operator

open Library Relation

variable {registry : SimOperatorRegistry}

/-- Field `field` is read, by mask bit or by listed index. -/
def SimOperator.Reads (op : SimOperator) (field : SizeT) : Prop :=
  op.readMask.getLsbD field.toNat = true ∨ field ∈ op.readIndices

/-- Field `field` is written, by mask bit or by listed index. -/
def SimOperator.Writes (op : SimOperator) (field : SizeT) : Prop :=
  op.writeMask.getLsbD field.toNat = true ∨ field ∈ op.writeIndices

/-- Both operators access the field and at least one of them writes it. -/
def Conflict (a b : SimOperator) (field : SizeT) : Prop :=
  (a.Writes field ∧ (b.Reads field ∨ b.Writes field)) ∨ (a.Reads field ∧ b.Writes field)

/-- No extended access list holds the largest `size_t`. -/
def IndicesBelowMax (registry : SimOperatorRegistry) : Prop :=
  ∀ op ∈ registry.records, sizeMax ∉ op.readIndices ∧ sizeMax ∉ op.writeIndices

/-! ### Accessed fields -/

theorem mem_maskFields {mask : BitVec 64} {field : SizeT} :
    field ∈ maskFields mask ↔ mask.getLsbD field.toNat = true := by
  simp only [maskFields, List.mem_map, List.mem_filter, List.mem_range]
  constructor
  · rintro ⟨bit, ⟨hBit, hSet⟩, rfl⟩
    rwa [BitVec.toNat_ofNat, Nat.mod_eq_of_lt (by omega)]
  · intro hSet
    exact ⟨field.toNat, ⟨BitVec.lt_of_getLsbD hSet, hSet⟩, by simp⟩

theorem SimOperator.mem_readFields {op : SimOperator} {field : SizeT} :
    field ∈ op.readFields ↔ op.Reads field := by
  simp [readFields, Reads, mem_maskFields]

theorem SimOperator.mem_writeFields {op : SimOperator} {field : SizeT} :
    field ∈ op.writeFields ↔ op.Writes field := by
  simp [writeFields, Writes, mem_maskFields]

/-- `field` is at most the highest field noted so far. -/
def BelowMax (field : SizeT) (maxField : Option SizeT) : Prop :=
  ∃ highest, maxField = some highest ∧ field ≤ highest

theorem BelowMax.raise {field : SizeT} {maxField : Option SizeT} (hBelow : BelowMax field maxField)
    (other : SizeT) : BelowMax field (raiseMaxField maxField other) := by
  obtain ⟨highest, rfl, hLe⟩ := hBelow
  by_cases hLt : highest < other
  · exact ⟨other, by simp [raiseMaxField, hLt], by bv_omega⟩
  · exact ⟨highest, by simp [raiseMaxField, hLt], hLe⟩

theorem BelowMax.self (maxField : Option SizeT) (field : SizeT) :
    BelowMax field (raiseMaxField maxField field) := by
  cases maxField with
  | none => exact ⟨field, rfl, BitVec.le_refl _⟩
  | some highest =>
      by_cases hLt : highest < field
      · exact ⟨field, by simp [raiseMaxField, hLt], BitVec.le_refl _⟩
      · exact ⟨highest, by simp [raiseMaxField, hLt], by bv_omega⟩

theorem BelowMax.foldl {field : SizeT} {maxField : Option SizeT} (hBelow : BelowMax field maxField)
    (fields : List SizeT) : BelowMax field (fields.foldl raiseMaxField maxField) := by
  induction fields generalizing maxField with
  | nil => exact hBelow
  | cons other fields ih => exact ih (hBelow.raise other)

theorem BelowMax.foldl_of_mem {field : SizeT} (maxField : Option SizeT) {fields : List SizeT}
    (hMem : field ∈ fields) : BelowMax field (fields.foldl raiseMaxField maxField) := by
  induction fields generalizing maxField with
  | nil => simp at hMem
  | cons other fields ih =>
      rcases List.mem_cons.mp hMem with rfl | hMem
      · exact (BelowMax.self maxField field).foldl fields
      · exact ih _ hMem

/-- A set bit of a mask is at most its highest bit. -/
theorem le_highestBit {mask : BitVec 64} {field : SizeT}
    (hSet : mask.getLsbD field.toNat = true) : field ≤ highestBit mask := by
  have hBit : mask.toNat.testBit field.toNat = true := by simpa [BitVec.getLsbD] using hSet
  have hPow : 2 ^ field.toNat ≤ mask.toNat := Nat.ge_two_pow_of_testBit hBit
  have hNonzero : mask.toNat ≠ 0 := by
    have := Nat.two_pow_pos field.toNat
    omega
  have hLog : field.toNat ≤ Nat.log2 mask.toNat := (Nat.le_log2 hNonzero).mpr hPow
  have hSmall : Nat.log2 mask.toNat < 64 := (Nat.log2_lt hNonzero).mpr mask.isLt
  rw [BitVec.le_def, highestBit, BitVec.toNat_ofNat, Nat.mod_eq_of_lt (by omega)]
  exact hLog

theorem BelowMax.raiseOperator {field : SizeT} {maxField : Option SizeT}
    (hBelow : BelowMax field maxField) (op : SimOperator) :
    BelowMax field (op.raiseMaxField maxField) := by
  unfold SimOperator.raiseMaxField
  dsimp only
  split
  · exact ((hBelow.raise _).foldl _).foldl _
  · exact (hBelow.foldl _).foldl _

/-- Every field the operator accesses is noted. -/
theorem BelowMax.of_access (maxField : Option SizeT) {op : SimOperator} {field : SizeT}
    (hAccess : op.Reads field ∨ op.Writes field) : BelowMax field (op.raiseMaxField maxField) := by
  have hMask : (op.readMask ||| op.writeMask).getLsbD field.toNat = true →
      BelowMax field (op.raiseMaxField maxField) := by
    intro hSet
    have hNonzero : op.readMask ||| op.writeMask ≠ 0 := by
      intro hZero
      simp [hZero] at hSet
    obtain ⟨highest, hEq, hLe⟩ := BelowMax.self maxField (highestBit (op.readMask ||| op.writeMask))
    have hRaised : BelowMax field
        (Operator.raiseMaxField maxField (highestBit (op.readMask ||| op.writeMask))) :=
      ⟨highest, hEq, BitVec.le_trans (le_highestBit hSet) hLe⟩
    unfold SimOperator.raiseMaxField
    dsimp only
    rw [if_pos hNonzero]
    exact (hRaised.foldl _).foldl _
  rcases hAccess with (hBit | hList) | (hBit | hList)
  · exact hMask (by simp [hBit])
  · exact (BelowMax.foldl_of_mem _ hList).foldl _
  · exact hMask (by simp [hBit])
  · exact BelowMax.foldl_of_mem _ hList

theorem BelowMax.foldl_operators {field : SizeT} {maxField : Option SizeT}
    (hBelow : BelowMax field maxField) (ops : List SimOperator) :
    BelowMax field (ops.foldl SimOperator.raiseMaxField maxField) := by
  induction ops generalizing maxField with
  | nil => exact hBelow
  | cons op ops ih => exact ih (hBelow.raiseOperator op)

theorem belowMax_maxField {op : SimOperator} (hMem : op ∈ registry.records) {field : SizeT}
    (hAccess : op.Reads field ∨ op.Writes field) : BelowMax field registry.maxField := by
  obtain ⟨before, after, hSplit⟩ := List.append_of_mem hMem
  rw [SimOperatorRegistry.maxField, hSplit, List.foldl_append, List.foldl_cons]
  exact (BelowMax.of_access _ hAccess).foldl_operators after

/-- The field noted as highest differs from `SIZE_MAX`. -/
def NotMax (maxField : Option SizeT) : Prop := ∀ highest, maxField = some highest → highest ≠ sizeMax

theorem NotMax.raise {maxField : Option SizeT} (hMax : NotMax maxField) {field : SizeT}
    (hField : field ≠ sizeMax) : NotMax (raiseMaxField maxField field) := by
  intro highest hEq
  cases maxField with
  | none =>
      cases hEq
      exact hField
  | some old =>
      by_cases hLt : old < field
      · simp only [raiseMaxField, hLt, if_true, Option.some.injEq] at hEq
        exact hEq ▸ hField
      · simp only [raiseMaxField, hLt, if_false] at hEq
        exact hMax highest hEq

theorem NotMax.foldl {maxField : Option SizeT} (hMax : NotMax maxField) {fields : List SizeT}
    (hFields : sizeMax ∉ fields) : NotMax (fields.foldl raiseMaxField maxField) := by
  induction fields generalizing maxField with
  | nil => exact hMax
  | cons field fields ih =>
      rw [List.mem_cons, not_or] at hFields
      exact ih (hMax.raise (Ne.symm hFields.1)) hFields.2

theorem highestBit_ne_sizeMax (mask : BitVec 64) : highestBit mask ≠ sizeMax := by
  have hSmall : Nat.log2 mask.toNat < 64 := by
    by_cases hZero : mask.toNat = 0
    · simp [hZero]
    · exact (Nat.log2_lt hZero).mpr mask.isLt
  intro hEq
  have := congrArg BitVec.toNat hEq
  simp only [highestBit, sizeMax, BitVec.toNat_ofNat] at this
  omega

theorem NotMax.raiseOperator {maxField : Option SizeT} (hMax : NotMax maxField) {op : SimOperator}
    (hReads : sizeMax ∉ op.readIndices) (hWrites : sizeMax ∉ op.writeIndices) :
    NotMax (op.raiseMaxField maxField) := by
  unfold SimOperator.raiseMaxField
  dsimp only
  split
  · exact ((hMax.raise (highestBit_ne_sizeMax _)).foldl hReads).foldl hWrites
  · exact (hMax.foldl hReads).foldl hWrites

theorem notMax_maxField (hIndices : IndicesBelowMax registry) : NotMax registry.maxField := by
  have hFold : ∀ (ops : List SimOperator) (maxField : Option SizeT),
      (∀ op ∈ ops, sizeMax ∉ op.readIndices ∧ sizeMax ∉ op.writeIndices) → NotMax maxField →
      NotMax (ops.foldl SimOperator.raiseMaxField maxField) := by
    intro ops
    induction ops with
    | nil => exact fun _ _ h => h
    | cons op ops ih =>
        intro maxField hOps hMax
        have hOp := hOps op (by simp)
        exact ih _ (fun o h => hOps o (by simp [h])) (hMax.raiseOperator hOp.1 hOp.2)
  exact hFold registry.records none hIndices (by simp [NotMax])

/-- Without the largest index the hazard tables have a slot for every field
accessed by any operator. -/
theorem lt_fieldSlots (hIndices : IndicesBelowMax registry) {op : SimOperator}
    (hMem : op ∈ registry.records) {field : SizeT} (hAccess : op.Reads field ∨ op.Writes field) :
    field < registry.fieldSlots := by
  obtain ⟨highest, hEq, hLe⟩ := belowMax_maxField hMem hAccess
  rw [SimOperatorRegistry.fieldSlots, hEq]
  exact lt_add_one_of_le hLe (notMax_maxField hIndices highest hEq)

/-! ### Hazard edges -/

/-- Plan edge from `u` to `v`: an explicit dependency or a recorded hazard. -/
def PlanEdge (registry : SimOperatorRegistry) (s : ResolveState) (u v : ℕ) : Prop :=
  u ∈ registry.deps v ∨ (u, v) ∈ s.hazardEdges

/-- A scan step only adds hazards. -/
def Extends (s t : ResolveState) : Prop := s.hazardEdges ⊆ t.hazardEdges

theorem Extends.refl (s : ResolveState) : Extends s s := List.Subset.refl _

theorem Extends.trans {s t r : ResolveState} (hST : Extends s t) (hTR : Extends t r) :
    Extends s r := List.Subset.trans hST hTR

theorem Extends.planEdge {s t : ResolveState} (hExt : Extends s t) {u v : ℕ}
    (hEdge : PlanEdge registry s u v) : PlanEdge registry t u v :=
  hEdge.imp_right fun h => hExt h

theorem Extends.path {s t : ResolveState} (hExt : Extends s t) {u v : ℕ}
    (hPath : ReflTransGen (PlanEdge registry s) u v) : ReflTransGen (PlanEdge registry t) u v :=
  ReflTransGen.mono (fun _ _ => hExt.planEdge) _ _ hPath

theorem Extends.transGen {s t : ResolveState} (hExt : Extends s t) {u v : ℕ}
    (hPath : TransGen (PlanEdge registry s) u v) : TransGen (PlanEdge registry t) u v :=
  TransGen.mono (fun _ _ => hExt.planEdge) _ _ hPath

/-- What adding a hazard does: it may append its edge and bump two counters,
and leaves the field tables as they are. -/
theorem simResolveAddHazard_cases (registry : SimOperatorRegistry) (u v : ℕ) (s : ResolveState) :
    (simResolveAddHazard registry u v s = s ∧ (u = v ∨ PlanEdge registry s u v)) ∨
    (simResolveAddHazard registry u v s =
      { s with
        hazardEdges := s.hazardEdges ++ [(u, v)]
        indegree := bump s.indegree v
        outDegree := bump s.outDegree u
        totalEdges := s.totalEdges + 1 }) := by
  unfold simResolveAddHazard
  split
  case isTrue hSelf => exact Or.inl ⟨rfl, Or.inl hSelf⟩
  split
  case isTrue hDep => exact Or.inl ⟨rfl, Or.inr (Or.inl hDep)⟩
  split
  case isTrue hOld => exact Or.inl ⟨rfl, Or.inr (Or.inr hOld)⟩
  exact Or.inr rfl

@[simp]
theorem simResolveAddHazard_readers (u v : ℕ) (s : ResolveState) :
    (simResolveAddHazard registry u v s).readers = s.readers := by
  rcases simResolveAddHazard_cases registry u v s with ⟨hEq, _⟩ | hEq <;> rw [hEq]

@[simp]
theorem simResolveAddHazard_lastWriter (u v : ℕ) (s : ResolveState) :
    (simResolveAddHazard registry u v s).lastWriter = s.lastWriter := by
  rcases simResolveAddHazard_cases registry u v s with ⟨hEq, _⟩ | hEq <;> rw [hEq]

@[simp]
theorem addHazards_readers (sources : List ℕ) (v : ℕ) (s : ResolveState) :
    (addHazards registry sources v s).readers = s.readers := by
  induction sources generalizing s with
  | nil => rfl
  | cons u sources ih =>
      exact (ih (simResolveAddHazard registry u v s)).trans (simResolveAddHazard_readers u v s)

@[simp]
theorem addHazards_lastWriter (sources : List ℕ) (v : ℕ) (s : ResolveState) :
    (addHazards registry sources v s).lastWriter = s.lastWriter := by
  induction sources generalizing s with
  | nil => rfl
  | cons u sources ih =>
      exact (ih (simResolveAddHazard registry u v s)).trans (simResolveAddHazard_lastWriter u v s)

/-- The hazard from the last writer is one more call of `addHazards`. -/
theorem addWriterHazard_eq (i : ℕ) (field : SizeT) (s : ResolveState) :
    addWriterHazard registry i field s = addHazards registry (s.lastWriter field).toList i s := by
  unfold addWriterHazard
  cases s.lastWriter field <;> rfl

theorem extends_simResolveAddHazard (u v : ℕ) (s : ResolveState) :
    Extends s (simResolveAddHazard registry u v s) := by
  rcases simResolveAddHazard_cases registry u v s with ⟨hEq, _⟩ | hEq
  · rw [hEq]
    exact Extends.refl s
  · rw [hEq]
    exact List.subset_append_left _ _

theorem extends_addHazards (sources : List ℕ) (v : ℕ) (s : ResolveState) :
    Extends s (addHazards registry sources v s) := by
  induction sources generalizing s with
  | nil => exact Extends.refl s
  | cons u sources ih => exact (extends_simResolveAddHazard u v s).trans (ih _)

/-- After adding a hazard its two ends are equal or joined by an edge. -/
theorem planEdge_simResolveAddHazard (u v : ℕ) (s : ResolveState) :
    u = v ∨ PlanEdge registry (simResolveAddHazard registry u v s) u v := by
  rcases simResolveAddHazard_cases registry u v s with ⟨hEq, hEdge⟩ | hEq
  · rwa [hEq]
  · rw [hEq]
    exact Or.inr (Or.inr (by simp))

theorem path_addHazards {sources : List ℕ} {u : ℕ} (hMem : u ∈ sources) (v : ℕ)
    (s : ResolveState) : ReflTransGen (PlanEdge registry (addHazards registry sources v s)) u v := by
  induction sources generalizing s with
  | nil => simp at hMem
  | cons head sources ih =>
      rcases List.mem_cons.mp hMem with rfl | hMem
      · refine Extends.path (extends_addHazards sources v _) ?_
        rcases planEdge_simResolveAddHazard u v s with rfl | hEdge
        · exact ReflTransGen.refl
        · exact ReflTransGen.single hEdge
      · exact ih hMem _

/-! ### Field tables -/

/-- The tables after the reads `R` and the writes `W`: each access reaches the
current reader list or the last writer, and conflicting pairs are connected
in registration order. -/
structure Scanned (registry : SimOperatorRegistry) (R W : ℕ → SizeT → Prop) (s : ResolveState) :
    Prop where
  reads : ∀ j field, R j field → j ∈ s.readers field ∨
    ∃ w, s.lastWriter field = some w ∧ ReflTransGen (PlanEdge registry s) j w
  writes : ∀ j field, W j field →
    ∃ w, s.lastWriter field = some w ∧ ReflTransGen (PlanEdge registry s) j w
  readWrite : ∀ j k field, j < k → R j field → W k field → TransGen (PlanEdge registry s) j k
  writeRead : ∀ j k field, j < k → W j field → R k field → TransGen (PlanEdge registry s) j k
  writeWrite : ∀ j k field, j < k → W j field → W k field → TransGen (PlanEdge registry s) j k

theorem transGen_of_path {r : ℕ → ℕ → Prop} {u v : ℕ} (hPath : ReflTransGen r u v) (hLt : u < v) :
    TransGen r u v :=
  (reflTransGen_iff_eq_or_transGen.mp hPath).resolve_left (by omega)

/-- Registering one read. The reads and writes registered before it belong to
operators up to `i`. -/
theorem Scanned.noteRead {R W : ℕ → SizeT → Prop} {s : ResolveState} {i : ℕ}
    (hScan : Scanned registry R W s) (hBound : ∀ j field, W j field → j ≤ i) (field : SizeT) :
    Scanned registry (fun j g => R j g ∨ (j = i ∧ g = field)) W (noteRead registry i field s) := by
  have hExt : Extends s (Operator.noteRead registry i field s) := by
    unfold Operator.noteRead
    rw [addWriterHazard_eq]
    exact extends_addHazards _ i s
  have hWriter : (Operator.noteRead registry i field s).lastWriter = s.lastWriter := by
    simp [Operator.noteRead, addWriterHazard_eq]
  have hReaders : (Operator.noteRead registry i field s).readers =
      Function.update s.readers field (s.readers field ++ [i]) := by
    simp [Operator.noteRead, addWriterHazard_eq]
  -- An earlier writer reaches the last writer, which now has an edge to `i`.
  have hNew : ∀ j, W j field →
      ReflTransGen (PlanEdge registry (Operator.noteRead registry i field s)) j i := by
    intro j hW
    obtain ⟨w, hLast, hPath⟩ := hScan.writes j field hW
    refine (hExt.path hPath).trans ?_
    unfold Operator.noteRead
    rw [addWriterHazard_eq]
    exact path_addHazards (by simp [hLast]) i s
  refine ⟨?_, ?_, ?_, ?_, ?_⟩
  · rintro j g (hR | ⟨rfl, rfl⟩)
    · rw [hReaders, hWriter]
      refine (hScan.reads j g hR).imp ?_ fun ⟨w, hLast, hPath⟩ => ⟨w, hLast, hExt.path hPath⟩
      intro hMem
      by_cases hEq : g = field
      · subst hEq
        simp [hMem]
      · rwa [Function.update_of_ne hEq]
    · exact Or.inl (by simp [hReaders])
  · intro j g hW
    rw [hWriter]
    obtain ⟨w, hLast, hPath⟩ := hScan.writes j g hW
    exact ⟨w, hLast, hExt.path hPath⟩
  · rintro j k g hLt (hR | ⟨rfl, rfl⟩) hW
    · exact hExt.transGen (hScan.readWrite j k g hLt hR hW)
    · have := hBound k g hW
      omega
  · rintro j k g hLt hW (hR | ⟨rfl, rfl⟩)
    · exact hExt.transGen (hScan.writeRead j k g hLt hW hR)
    · exact transGen_of_path (hNew j hW) hLt
  · intro j k g hLt hJ hK
    exact hExt.transGen (hScan.writeWrite j k g hLt hJ hK)

/-- Registering one write. The reader list is emptied because its members now
reach the new last writer. -/
theorem Scanned.noteWrite {R W : ℕ → SizeT → Prop} {s : ResolveState} {i : ℕ}
    (hScan : Scanned registry R W s) (hBound : ∀ j field, R j field ∨ W j field → j ≤ i)
    (field : SizeT) :
    Scanned registry R (fun j g => W j g ∨ (j = i ∧ g = field)) (noteWrite registry i field s) := by
  let t := addWriterHazard registry i field s
  have hST : Extends s t := by
    change Extends s (addWriterHazard registry i field s)
    rw [addWriterHazard_eq]
    exact extends_addHazards _ i s
  have hTE : Extends t (Operator.noteWrite registry i field s) := extends_addHazards _ i t
  have hExt := hST.trans hTE
  have hWriter : (Operator.noteWrite registry i field s).lastWriter =
      Function.update s.lastWriter field (some i) := by
    simp [Operator.noteWrite, addWriterHazard_eq]
  have hReaders : (Operator.noteWrite registry i field s).readers =
      Function.update s.readers field [] := by
    simp [Operator.noteWrite, addWriterHazard_eq]
  have hLastPath : ∀ w, s.lastWriter field = some w →
      ReflTransGen (PlanEdge registry (Operator.noteWrite registry i field s)) w i := by
    intro w hLast
    refine hTE.path ?_
    change ReflTransGen (PlanEdge registry (addWriterHazard registry i field s)) w i
    rw [addWriterHazard_eq]
    exact path_addHazards (by simp [hLast]) i s
  have hNew : ∀ j, R j field ∨ W j field →
      ReflTransGen (PlanEdge registry (Operator.noteWrite registry i field s)) j i := by
    intro j hAccess
    have hCases : j ∈ s.readers field ∨
        ∃ w, s.lastWriter field = some w ∧ ReflTransGen (PlanEdge registry s) j w :=
      hAccess.elim (hScan.reads j field) fun hW => Or.inr (hScan.writes j field hW)
    rcases hCases with hMem | ⟨w, hLast, hPath⟩
    · have hReadersT : t.readers = s.readers := by simp [t, addWriterHazard_eq]
      exact path_addHazards (hReadersT ▸ hMem) i t
    · exact (hExt.path hPath).trans (hLastPath w hLast)
  refine ⟨?_, ?_, ?_, ?_, ?_⟩
  · intro j g hR
    rw [hReaders, hWriter]
    by_cases hEq : g = field
    · subst hEq
      exact Or.inr ⟨i, by simp, hNew j (Or.inl hR)⟩
    · rw [Function.update_of_ne hEq, Function.update_of_ne hEq]
      exact (hScan.reads j g hR).imp_right fun ⟨w, hLast, hPath⟩ => ⟨w, hLast, hExt.path hPath⟩
  · rintro j g (hW | ⟨rfl, rfl⟩)
    · rw [hWriter]
      by_cases hEq : g = field
      · subst hEq
        exact ⟨i, by simp, hNew j (Or.inr hW)⟩
      · rw [Function.update_of_ne hEq]
        obtain ⟨w, hLast, hPath⟩ := hScan.writes j g hW
        exact ⟨w, hLast, hExt.path hPath⟩
    · exact ⟨j, by simp [hWriter], ReflTransGen.refl⟩
  · rintro j k g hLt hR (hW | ⟨rfl, rfl⟩)
    · exact hExt.transGen (hScan.readWrite j k g hLt hR hW)
    · exact transGen_of_path (hNew j (Or.inl hR)) hLt
  · rintro j k g hLt (hW | ⟨rfl, rfl⟩) hR
    · exact hExt.transGen (hScan.writeRead j k g hLt hW hR)
    · have := hBound k g (Or.inl hR)
      omega
  · rintro j k g hLt (hJ | ⟨rfl, rfl⟩) hK
    · rcases hK with hK | ⟨rfl, rfl⟩
      · exact hExt.transGen (hScan.writeWrite j k g hLt hJ hK)
      · exact transGen_of_path (hNew j (Or.inr hJ)) hLt
    · rcases hK with hK | ⟨rfl, _⟩
      · have := hBound k g (Or.inr hK)
        omega
      · omega

end Oakfield.Operator
