import Oakfield.Context.SplitLifetime

/-! What a successful registration of a split operator leaves in the context. -/
namespace Oakfield

open SimContext

variable {D μ : Type} [CDouble D] {context later : SimContext D μ}
  {desc : SimSplitDescriptor D μ} {address : ℕ}

/-- The operator of substep `index`. -/
structure SubstepOperator (desc : SimSplitDescriptor D μ) (address index : ℕ)
    (dependencies : List SizeT) (substep : SimSplitSubstep D μ) (op : SimOperatorRecord D μ) :
    Prop where
  dependencies : op.dependencies = dependencies
  reads : ∀ g, op.Reads g ↔ substep.Declares desc.ports SimAccessMode.reads g
  writes : ∀ g, op.Writes g ↔ substep.Declares desc.ports SimAccessMode.writes g
  userdata : op.userdata = some ⟨address, index⟩

/-- Mask bits and listed fields together are the declared fields. -/
theorem substepOperator_of_sets {index : ℕ} {dependencies : List SizeT}
    {substep : SimSplitSubstep D μ} {sets : SplitAccessSets}
    (hSets : substepAccessSets desc.ports substep = .ok sets) (config : SimOperatorConfig D) :
    SubstepOperator desc address index dependencies substep
      { substepDescriptor desc dependencies address index substep sets with config := config } := by
  have hTracks := substepAccessSets_tracks hSets
  constructor
  case dependencies => rfl
  case userdata => rfl
  case reads =>
    intro g
    rw [Operator.SimOperator.Reads]
    show sets.readMask.getLsbD g.toNat = true ∨ g ∈ sets.readFields ↔ _
    rw [hTracks.reads.listed, hTracks.reads.mask]
    exact ⟨fun h => h.elim And.left id, .inr⟩
  case writes =>
    intro g
    rw [Operator.SimOperator.Writes]
    show sets.writeMask.getLsbD g.toNat = true ∨ g ∈ sets.writeFields ↔ _
    rw [hTracks.writes.listed, hTracks.writes.mask]
    exact ⟨fun h => h.elim And.left id, .inr⟩

/-- The dependencies which substep `k` is registered with: those of the caller
for the first one, the operator before it for the others. -/
def substepDependencies (base : ℕ) (dependencies : List SizeT) (k : ℕ) : List SizeT :=
  if k = 0 then dependencies else [BitVec.ofNat 64 (base + (k - 1))]

/-- The loop appends the operators of the substeps. -/
theorem registerSubsteps_ok {allocations : ℕ → SubstepAllocations}
    {substeps : List (SimSplitSubstep D μ)} {index : ℕ} {dependencies : List SizeT}
    {previous last : SizeT}
    (hRun : registerSubsteps allocations desc address substeps index dependencies previous context =
      (later, .ok last)) :
    ∃ ops : List (SimOperatorRecord D μ), later.operators = context.operators ++ ops ∧ later.splits = context.splits ∧
      later.bytesScratchInUse = context.bytesScratchInUse ∧
      ops.length = substeps.length ∧
      (∀ k substep, substeps[k]? = some substep → ∃ op, ops[k]? = some op ∧
        SubstepOperator desc address (index + k)
          (substepDependencies context.operators.length dependencies k) substep op) ∧
      last = if substeps = [] then previous
        else BitVec.ofNat 64 (context.operators.length + (substeps.length - 1)) := by
  induction substeps generalizing index dependencies previous context with
  | nil =>
      cases hRun
      exact ⟨[], by simp, rfl, rfl, by simp, by simp, rfl⟩
  | cons substep substeps ih =>
      rw [registerSubsteps] at hRun
      split at hRun
      case isTrue => cases hRun
      case isFalse =>
        cases hSets : substepAccessSets desc.ports substep with
        | error failure =>
            rw [hSets] at hRun
            cases hRun
        | ok sets =>
            rw [hSets] at hRun
            dsimp only at hRun
            split at hRun
            case isTrue => cases hRun
            case isFalse =>
              split at hRun
              case h_1 => cases hRun
              case h_2 registered position hRegister =>
                obtain ⟨rfl, config, rfl⟩ := registerOperator_ok hRegister
                obtain ⟨ops, hOps, hSplits, hScratch, hLength, hEach, hLast⟩ := ih hRun
                have hFirst :=
                  @substepOperator_of_sets D μ _ desc address index dependencies _ _ hSets config
                refine ⟨{ substepDescriptor desc dependencies address index substep sets with
                  config := config } :: ops, ?_, hSplits, hScratch, ?_, ?_, ?_⟩
                · rw [hOps, List.append_assoc, List.singleton_append]
                · rw [List.length_cons, List.length_cons, hLength]
                · intro k other hOther
                  cases k with
                  | zero =>
                      cases hOther
                      exact ⟨_, rfl, hFirst⟩
                  | succ k =>
                      obtain ⟨op, hOp, hHere⟩ := hEach k other hOther
                      have hDeps : substepDependencies (context.operators.length + 1)
                          [BitVec.ofNat 64 context.operators.length] k =
                          substepDependencies context.operators.length dependencies (k + 1) := by
                        cases k with
                        | zero => rfl
                        | succ k => simp [substepDependencies, Nat.add_assoc, Nat.add_comm 1 k]
                      rw [show index + 1 + k = index + (k + 1) by omega, List.length_append,
                        List.length_singleton, hDeps] at hHere
                      exact ⟨op, hOp, hHere⟩
                · rw [hLast]
                  cases substeps with
                  | nil => rfl
                  | cons substep substeps => simp [Nat.add_assoc, Nat.add_comm 1]

/-- What a registered split operator promises: the operators from `first` on
are its substeps in a chain, and however these are destroyed, the caller's state
and the scratch budget are given up once, with the last of them. -/
structure SplitSound (desc : SimSplitDescriptor D μ) (dependencies : List SizeT)
    (context registered : SimContext D μ) (first last : SizeT) (address : ℕ) : Prop where
  first : first = BitVec.ofNat 64 context.operators.length
  last : last = BitVec.ofNat 64 (context.operators.length + (desc.substeps.length - 1))
  kept : ∀ i < context.operators.length, registered.operators[i]? = context.operators[i]?
  count : registered.operators.length = context.operators.length + desc.substeps.length
  substep : ∀ k substep, desc.substeps[k]? = some substep →
    ∃ op, registered.operators[context.operators.length + k]? = some op ∧
      SubstepOperator desc address k
        (substepDependencies context.operators.length dependencies k) substep op
  reserved : registered.bytesScratchInUse =
    context.bytesScratchInUse + desc.scratchBytesPerWorker
  destroyed : ∀ destroyed : List ℕ, (∀ k ∈ destroyed, k < desc.substeps.length) →
    let final := destroyed.foldl
      (fun context' k => context'.operatorReset (context.operators.length + k)) registered
    let all := ∀ k < desc.substeps.length, k ∈ destroyed
    ∃ shared, final.splits[address]? = some shared ∧ (shared.live = true ↔ ¬all) ∧
      shared.destroyCalls = (if all ∧ desc.hasDestroy then 1 else 0) ∧
      shared.scratchReleases = (if all ∧ 0 < desc.scratchBytesPerWorker then 1 else 0) ∧
      final.bytesScratchInUse =
        if all then context.bytesScratchInUse else registered.bytesScratchInUse

omit [CDouble D] in
/-- The operators of a fresh shared record, each referring to it. -/
theorem remaining_registered {shared : SimSplitShared} {base n bytes : ℕ} (hN : 0 < n) (hCount : shared.refcount = n)
    (hShared : context.splits[address]? = some shared) (hBytes : context.bytesScratchInUse = bytes)
    (hOps : ∀ k < n, ∃ op, context.operators[base + k]? = some op ∧
      op.userdata = some ⟨address, k⟩) :
    Remaining address base n shared bytes (Finset.range n) context := by
  have hSome : Finset.range n ≠ ∅ := by
    rw [Ne, Finset.range_eq_empty_iff]
    omega
  constructor
  case subset => exact fun k hK => Finset.mem_range.mp hK
  case payload =>
    intro k hK
    obtain ⟨op, hOp, hUserdata⟩ := hOps k hK
    exact ⟨op, hOp, by rw [hUserdata, if_pos (Finset.mem_range.mpr hK)]⟩
  case record => rw [if_neg hSome, Finset.card_range, hShared, ← hCount]
  case scratch => rw [if_neg hSome, hBytes]

/-- Destructions close a fresh record with the last of its operators. -/
theorem destroyed_sound {base n bytes : ℕ}
    (hRemaining : Remaining address base n (allocatedShared desc)
      (bytes + desc.scratchBytesPerWorker) (Finset.range n) context)
    {destroyed : List ℕ} (hDestroyed : ∀ k ∈ destroyed, k < n) :
    let final := destroyed.foldl
      (fun context' k => context'.operatorReset (base + k)) context
    let all := ∀ k < n, k ∈ destroyed
    ∃ after, final.splits[address]? = some after ∧ (after.live = true ↔ ¬all) ∧
      after.destroyCalls = (if all ∧ desc.hasDestroy then 1 else 0) ∧
      after.scratchReleases = (if all ∧ 0 < desc.scratchBytesPerWorker then 1 else 0) ∧
      final.bytesScratchInUse = if all then bytes else bytes + desc.scratchBytesPerWorker := by
  intro final all
  have hFinal := hRemaining.run rfl hDestroyed
  have hAll : Finset.range n \ destroyed.toFinset = ∅ ↔ all := by
    rw [Finset.sdiff_eq_empty_iff_subset]
    simp [all, Finset.subset_iff]
  have hBudget : budget (allocatedShared desc) = desc.scratchBytesPerWorker := by
    rw [budget, allocatedShared]
    by_cases hSize : 0 < desc.scratchBytesPerWorker
    · simp [hSize]
    · simp [show desc.scratchBytesPerWorker = 0 by omega]
  by_cases hDone : all
  · have hEmpty := hAll.mpr hDone
    refine ⟨closed (allocatedShared desc), ?_, ?_, ?_, ?_, ?_⟩
    · rw [hFinal.record, if_pos hEmpty]
    · simp [closed, hDone]
    · cases hDestroy : desc.hasDestroy <;> simp [closed, hDone, allocatedShared, hDestroy]
    · by_cases hSize : 0 < desc.scratchBytesPerWorker <;>
        simp [closed, closeBudget, hDone, allocatedShared, hSize]
    · rw [hFinal.scratch, if_pos hEmpty, if_pos hDone, hBudget, Nat.add_sub_cancel]
  · have hMore := hAll.not.mpr hDone
    refine ⟨{ allocatedShared desc with
      refcount := (Finset.range n \ destroyed.toFinset).card }, ?_, ?_, ?_, ?_, ?_⟩
    · rw [hFinal.record, if_neg hMore]
    · simp [hDone, allocatedShared]
    · simp [hDone, allocatedShared]
    · simp [hDone, allocatedShared]
    · rw [hFinal.scratch, if_neg hMore, if_neg hDone]

/-- Every successful registration is sound. -/
theorem SimContext.splitRegister_sound {allocations : SplitAllocations}
    {dependencies : List SizeT} {first last : SizeT}
    (hRun : context.splitRegister allocations desc dependencies = (later, .ok (first, last))) :
    ∃ address, SplitSound desc dependencies context later first last address := by
  rw [splitRegister] at hRun
  dsimp only at hRun
  split at hRun
  case isTrue => cases hRun
  case isFalse hSome =>
    have hLength : 0 < desc.substeps.length := List.length_pos_iff.mpr hSome
    split at hRun
    case isTrue => cases hRun
    case isFalse =>
      split at hRun
      case isTrue => cases hRun
      case isFalse =>
        split at hRun
        case h_1 => cases hRun
        case h_2 reserved result hReserve =>
          obtain ⟨total, rfl⟩ := reserveScratch_ok hReserve
          split at hRun
          case isTrue => cases hRun
          case isFalse =>
            split at hRun
            case h_1 => cases hRun
            case h_2 =>
              split at hRun
              case h_1 => cases hRun
              case h_2 registered position hRegister =>
                obtain ⟨ops, hOps, hSplits, hScratch, hCount, hEach, hLast⟩ :=
                  registerSubsteps_ok hRegister
                cases hRun
                have hSubstep : ∀ k substep, desc.substeps[k]? = some substep →
                    ∃ op, later.operators[context.operators.length + k]? = some op ∧
                      SubstepOperator desc context.splits.length k
                        (substepDependencies context.operators.length dependencies k)
                        substep op := by
                  intro k substep hK
                  obtain ⟨op, hOp, hSubstep⟩ := hEach k substep hK
                  rw [Nat.zero_add] at hSubstep
                  exact ⟨op, by rw [hOps, List.getElem?_append_right (by simp)]; simpa using hOp,
                    hSubstep⟩
                have hRemaining := @remaining_registered D μ _ context.splits.length _
                  context.operators.length _ _ hLength rfl
                  (by rw [hSplits, List.getElem?_concat_length]) hScratch fun k hK => by
                    obtain ⟨op, hOp, hSubstep⟩ := hSubstep k _ (List.getElem?_eq_getElem hK)
                    exact ⟨op, hOp, hSubstep.userdata⟩
                refine ⟨context.splits.length, ?_⟩
                constructor
                case first => rfl
                case last => rw [hLast, if_neg hSome]
                case kept =>
                  intro i hI
                  rw [hOps, List.getElem?_append_left hI]
                case count => rw [hOps, List.length_append, hCount]
                case substep => exact hSubstep
                case reserved => exact hScratch
                case destroyed =>
                  intro destroyed hDestroyed
                  rw [hScratch]
                  exact destroyed_sound hRemaining hDestroyed

/-- Every allocation is granted. -/
def SplitAllocations.granted : SplitAllocations :=
  ⟨true, true, true, fun _ => ⟨true, true, ⟨true, true, true, .ok (), true⟩⟩⟩

/-- Two substeps over one port bound to field 0, with 64 bytes of scratch. -/
def readThenWrite : SimSplitDescriptor ℤ Unit where
  ports := [⟨0, false⟩]
  substeps :=
    [⟨fun _ _ _ _ => ⟨fun _ => none, (), .ok ()⟩, [⟨0, .read⟩], 1, false⟩,
      ⟨fun _ _ _ _ => ⟨fun _ => none, (), .ok ()⟩, [⟨0, .write⟩], 1, true⟩]
  saveState := none
  restoreState := none
  hasDestroy := true
  representation := ⟨false, false, .realScalar⟩
  config := simOperatorConfigDefaults
  warpLevel := .none
  scratchBytesPerWorker := 64

/-- A context with one real field of two elements. -/
def oneField : SimContext ℤ Unit :=
  { SimContext.init ⟨0, 0, 0, 0, 0⟩ () with
    fields := [.ofElementSize ⟨[2], [1], true⟩ 8 (.words fun _ => 0)]
    bytesFieldsInUse := 16
    bytesTotalInUse := 16 }

theorem SimContext.splitRegister_sound_readThenWrite :
    ∃ address, SplitSound readThenWrite [] oneField
      (oneField.splitRegister .granted readThenWrite []).1 0 1 address :=
  SimContext.splitRegister_sound (show oneField.splitRegister .granted readThenWrite [] =
    ((oneField.splitRegister .granted readThenWrite []).1, .ok (0, 1)) from rfl)

end Oakfield
