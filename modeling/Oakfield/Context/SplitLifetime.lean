import Oakfield.Context.SplitAccesses
import Mathlib.Data.Finset.Card

/-! A split operator registers one operator for each substep, and gives up its
shared record with the last of them. -/
namespace Oakfield

variable {D μ : Type} {context : SimContext D μ}

namespace SimContext

/-! ### The shared record of a payload -/

@[simp]
theorem releaseScratch_bytesScratchInUse (bytes : ℕ) :
    (context.releaseScratch bytes).bytesScratchInUse = context.bytesScratchInUse - bytes := by
  rw [releaseScratch]
  split
  case isTrue hZero => rw [hZero, Nat.sub_zero]
  case isFalse =>
    dsimp only
    split <;> omega

@[simp]
theorem releaseScratch_splits (bytes : ℕ) :
    (context.releaseScratch bytes).splits = context.splits := by
  rw [releaseScratch]
  split <;> rfl

@[simp]
theorem releaseScratch_operators (bytes : ℕ) :
    (context.releaseScratch bytes).operators = context.operators := by
  rw [releaseScratch]
  split <;> rfl

/-- A shared record whose budget has been released. -/
def closeBudget (shared : SimSplitShared) : SimSplitShared :=
  if shared.scratchAccounted then
    { shared with
      scratchAccounted := false
      scratchReleases := shared.scratchReleases + if 0 < shared.scratchSize then 1 else 0 }
  else shared

/-- The amount which releasing the budget returns. -/
def budget (shared : SimSplitShared) : ℕ :=
  if shared.scratchAccounted then shared.scratchSize else 0

/-- The record as the last of its operators leaves it. -/
def closed (shared : SimSplitShared) : SimSplitShared :=
  { closeBudget shared with
    refcount := 0
    destroyCalls := shared.destroyCalls + if shared.hasDestroy then 1 else 0
    live := false }

theorem closed_refcount (shared : SimSplitShared) (count : ℕ) :
    closed { shared with refcount := count } = closed shared := by
  cases hAccounted : shared.scratchAccounted <;> simp [closed, closeBudget, hAccounted]

variable {address : ℕ} {shared : SimSplitShared}

theorem splitReleaseScratchBudget_spec (hShared : context.splits[address]? = some shared) :
    (context.splitReleaseScratchBudget address).splits[address]? = some (closeBudget shared) ∧
      (context.splitReleaseScratchBudget address).bytesScratchInUse =
        context.bytesScratchInUse - budget shared ∧
      (context.splitReleaseScratchBudget address).operators = context.operators := by
  rw [splitReleaseScratchBudget, hShared]
  cases hAccounted : shared.scratchAccounted with
  | false => simp [hAccounted, closeBudget, budget, hShared]
  | true =>
      by_cases hSize : 0 < shared.scratchSize
      · simp [hAccounted, hSize, closeBudget, budget, modifySplit, hShared]
      · have hZero : shared.scratchSize = 0 := by omega
        simp [hAccounted, hZero, closeBudget, budget, modifySplit, hShared]

/-- A reference which is not the last one is only counted. -/
theorem splitDestroy_counted (ref : SimSplitOperatorRef)
    (hShared : context.splits[ref.shared]? = some shared) (hLive : shared.live = true)
    (hCount : 1 < shared.refcount) :
    (context.splitDestroy ref).splits[ref.shared]? =
        some { shared with refcount := shared.refcount - 1 } ∧
      (context.splitDestroy ref).bytesScratchInUse = context.bytesScratchInUse ∧
      (context.splitDestroy ref).operators = context.operators := by
  rw [splitDestroy, hShared]
  simp [hLive, show 0 < shared.refcount - 1 by omega, modifySplit, hShared]

/-- The last reference closes the record. -/
theorem splitDestroy_last (ref : SimSplitOperatorRef)
    (hShared : context.splits[ref.shared]? = some shared) (hLive : shared.live = true)
    (hCount : shared.refcount = 1) :
    (context.splitDestroy ref).splits[ref.shared]? = some (closed shared) ∧
      (context.splitDestroy ref).bytesScratchInUse =
        context.bytesScratchInUse - budget shared ∧
      (context.splitDestroy ref).operators = context.operators := by
  let counted : SimSplitShared :=
    { shared with
      refcount := 0
      destroyCalls := shared.destroyCalls + if shared.hasDestroy then 1 else 0 }
  let destroyed := (context.modifySplit ref.shared fun shared =>
    { shared with refcount := shared.refcount - 1 }).modifySplit ref.shared fun shared =>
      if shared.hasDestroy then { shared with destroyCalls := shared.destroyCalls + 1 } else shared
  have hCounted : destroyed.splits[ref.shared]? = some counted := by
    cases hDestroy : shared.hasDestroy <;>
      simp [destroyed, counted, modifySplit, hShared, hCount, hDestroy]
  obtain ⟨hSplits, hBytes, hOperators⟩ := splitReleaseScratchBudget_spec hCounted
  have hEq : context.splitDestroy ref =
      (destroyed.splitReleaseScratchBudget ref.shared).modifySplit ref.shared fun shared =>
        { shared with live := false } := by
    rw [splitDestroy, hShared]
    simp [hLive, hCount, destroyed]
  rw [hEq]
  refine ⟨?_, ?_, hOperators⟩
  · rw [modifySplit, List.getElem?_modify_eq, hSplits]
    cases hAccounted : shared.scratchAccounted <;>
      simp [counted, closed, closeBudget, hAccounted]
  · exact hBytes

/-! ### Destruction in any order -/

variable [CDouble D] {base n : ℕ}

/-- The operators `base + k` of the remaining substeps `k` refer to the shared
record, and no other substep does. The record counts them. -/
structure Remaining (address base n : ℕ) (shared : SimSplitShared) (bytes : ℕ)
    (remaining : Finset ℕ) (context : SimContext D μ) : Prop where
  subset : ∀ k ∈ remaining, k < n
  payload : ∀ k < n, ∃ op, context.operators[base + k]? = some op ∧
    op.userdata = if k ∈ remaining then some ⟨address, k⟩ else none
  record : context.splits[address]? =
    some (if remaining = ∅ then closed shared else { shared with refcount := remaining.card })
  scratch : context.bytesScratchInUse = if remaining = ∅ then bytes - budget shared else bytes

omit [CDouble D] in
theorem Remaining.refcount {remaining : Finset ℕ} {bytes : ℕ}
    (hRemaining : Remaining address base n shared bytes remaining context)
    (hSome : remaining ≠ ∅) :
    context.splits[address]? = some { shared with refcount := remaining.card } := by
  rw [hRemaining.record, if_neg hSome]

/-- Resetting the operator of a substep removes it from the remaining ones. -/
theorem Remaining.reset {remaining : Finset ℕ} {bytes k : ℕ} (hLive : shared.live = true)
    (hRemaining : Remaining address base n shared bytes remaining context) (hK : k < n) :
    Remaining address base n shared bytes (remaining.erase k)
      (context.operatorReset (base + k)) := by
  obtain ⟨op, hOp, hUserdata⟩ := hRemaining.payload k hK
  by_cases hMem : k ∈ remaining
  · rw [if_pos hMem] at hUserdata
    have hSome : remaining ≠ ∅ := Finset.ne_empty_of_mem hMem
    have hRecord := hRemaining.refcount hSome
    have hScratch : context.bytesScratchInUse = bytes := by
      rw [hRemaining.scratch, if_neg hSome]
    have hCard := Finset.card_erase_of_mem hMem
    have hPositive : 0 < remaining.card := Finset.card_pos.mpr ⟨k, hMem⟩
    have hDestroyed : (context.splitDestroy ⟨address, k⟩).splits[address]? =
          some (if remaining.erase k = ∅ then closed shared
            else { shared with refcount := (remaining.erase k).card }) ∧
        (context.splitDestroy ⟨address, k⟩).bytesScratchInUse =
          (if remaining.erase k = ∅ then bytes - budget shared else bytes) ∧
        (context.splitDestroy ⟨address, k⟩).operators = context.operators := by
      by_cases hLast : remaining.card = 1
      · have hEmpty : remaining.erase k = ∅ := Finset.card_eq_zero.mp (by omega)
        obtain ⟨hSplits, hBytes, hOperators⟩ :=
          splitDestroy_last ⟨address, k⟩ hRecord hLive hLast
        rw [closed_refcount] at hSplits
        rw [if_pos hEmpty, if_pos hEmpty, ← hScratch]
        exact ⟨hSplits, hBytes, hOperators⟩
      · have hMore : remaining.erase k ≠ ∅ := by
          intro hEmpty
          rw [hEmpty, Finset.card_empty] at hCard
          omega
        obtain ⟨hSplits, hBytes, hOperators⟩ :=
          splitDestroy_counted ⟨address, k⟩ hRecord hLive
            (show 1 < remaining.card by omega)
        rw [if_neg hMore, if_neg hMore, ← hScratch, hCard]
        exact ⟨hSplits, hBytes, hOperators⟩
    rw [operatorReset, hOp]
    simp only [destroyPayload, hUserdata]
    constructor
    case subset => exact fun j hJ => hRemaining.subset j (Finset.mem_of_mem_erase hJ)
    case record => exact hDestroyed.1
    case scratch => exact hDestroyed.2.1
    case payload =>
      intro j hJ
      obtain ⟨other, hOther, hPayload⟩ := hRemaining.payload j hJ
      rw [hDestroyed.2.2, List.getElem?_modify, hOther]
      by_cases hEq : j = k
      · subst hEq
        exact ⟨_, rfl, by simp⟩
      · exact ⟨_, rfl, by simpa [hEq, Ne.symm hEq] using hPayload⟩
  · rw [if_neg hMem] at hUserdata
    rw [Finset.erase_eq_of_notMem hMem, operatorReset, hOp]
    simp only [destroyPayload, hUserdata]
    refine ⟨hRemaining.subset, fun j hJ => ?_, hRemaining.record, hRemaining.scratch⟩
    obtain ⟨other, hOther, hPayload⟩ := hRemaining.payload j hJ
    rw [List.getElem?_modify, hOther]
    by_cases hEq : j = k
    · subst hEq
      exact ⟨_, rfl, by simp [hMem]⟩
    · exact ⟨_, rfl, by simpa [Ne.symm hEq] using hPayload⟩

/-- After any sequence of destructions the substeps not destroyed remain. -/
theorem Remaining.run {remaining : Finset ℕ} {bytes : ℕ} (hLive : shared.live = true)
    (hRemaining : Remaining address base n shared bytes remaining context) {destroyed : List ℕ}
    (hDestroyed : ∀ k ∈ destroyed, k < n) :
    Remaining address base n shared bytes (remaining \ destroyed.toFinset)
      (destroyed.foldl (fun context k => context.operatorReset (base + k)) context) := by
  induction destroyed generalizing remaining context with
  | nil => simpa using hRemaining
  | cons k destroyed ih =>
      have hHere := hRemaining.reset hLive (hDestroyed k List.mem_cons_self)
      have hRest := ih hHere fun j hJ => hDestroyed j (List.mem_cons_of_mem k hJ)
      have hEq : remaining \ (k :: destroyed).toFinset =
          remaining.erase k \ destroyed.toFinset := by
        ext j
        simp only [Finset.mem_sdiff, List.toFinset_cons, Finset.mem_insert, Finset.mem_erase]
        tauto
      rw [hEq]
      exact hRest

end SimContext

end Oakfield
