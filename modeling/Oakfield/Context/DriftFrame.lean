import Oakfield.Context.Execute

/-! What the execution of a plan in drift leaves alone. -/
namespace Oakfield

variable {D μ ν : Type} {context later : SimContext D μ}

namespace SimContext

/-! ### Fields and memory -/

/-- `later` differs from `context` at most in what callbacks may write. -/
def Wrote (context later : SimContext D μ) : Prop :=
  ∃ writes memory, later = { context with
    fields := writeFields writes context.fields
    memory := memory }

theorem writeFields_none (fields : List (SimField D)) :
    writeFields (fun _ => none) fields = fields := by
  apply List.ext_getElem?
  intro i
  simp [writeFields]

/-- Later contents and descriptions replace earlier ones. -/
theorem writeFields_writeFields (first second : ℕ → Option (FieldWrite D))
    (fields : List (SimField D)) :
    writeFields second (writeFields first fields) =
      writeFields (fun i => (second i).or (first i)) fields := by
  apply List.ext_getElem?
  intro i
  simp only [writeFields, List.getElem?_mapIdx, Option.map_map]
  congr 1
  funext field
  cases second i with
  | none => rfl
  | some later =>
      cases first i with
      | none => rfl
      | some earlier => simp [SimField.write, Function.comp_def]

theorem Wrote.refl (context : SimContext D μ) : Wrote context context :=
  ⟨fun _ => none, context.memory, by rw [writeFields_none]⟩

theorem Wrote.trans {middle : SimContext D μ} (hFirst : Wrote context middle)
    (hSecond : Wrote middle later) : Wrote context later := by
  obtain ⟨first, memory, rfl⟩ := hFirst
  obtain ⟨second, memory', rfl⟩ := hSecond
  exact ⟨_, memory', by rw [writeFields_writeFields]⟩

theorem Wrote.runtime (hWrote : Wrote context later) : later.runtime = context.runtime := by
  obtain ⟨writes, memory, rfl⟩ := hWrote
  rfl

theorem Wrote.operators (hWrote : Wrote context later) : later.operators = context.operators := by
  obtain ⟨writes, memory, rfl⟩ := hWrote
  rfl

theorem Wrote.inDrift (hWrote : Wrote context later) : later.inDrift = context.inDrift := by
  rw [SimContext.inDrift, hWrote.runtime, SimContext.inDrift]

theorem wrote_call (callback : Callback D μ) (context : SimContext D μ) :
    Wrote context (context.call callback).1 := ⟨_, _, rfl⟩

theorem wrote_runOperator (op : SimOperatorRecord D μ) (context : SimContext D μ) :
    Wrote context (context.runOperator op).1 := by
  rw [runOperator]
  split
  · exact wrote_call _ _
  · exact wrote_call _ _
  · exact .refl context

/-! ### One operator in drift -/

variable [CDouble D] {op : SimOperatorRecord D μ}

theorem commitOperator_drift {ran : ContextCall D μ} (hDrift : ran.1.inDrift = true) :
    commitOperator op ran = ran := by
  obtain ⟨after, result⟩ := ran
  rw [commitOperator]
  cases result with
  | error failure => rfl
  | ok code => exact if_pos hDrift

/-- The ways in which an operator can end in drift: its state could not be
saved; it ran without saving; it ran after saving, without a way to restore; it
ran between saving and restoring. -/
inductive DriftApplied (op : SimOperatorRecord D μ) (context : SimContext D μ) :
    SimContext D μ → Prop where
  | notSaved {save : Callback D μ} (hSave : op.saveState = some save) :
      DriftApplied op context (context.call save).1
  | ran (hSave : op.saveState = none) : DriftApplied op context (context.runOperator op).1
  | kept {save : Callback D μ} (hSave : op.saveState = some save)
      (hRestore : op.restoreState = none) (hOk : (context.call save).2 = .ok ()) :
      DriftApplied op context ((context.call save).1.runOperator op).1
  | restored {save restore : Callback D μ} (hSave : op.saveState = some save)
      (hRestore : op.restoreState = some restore) (hOk : (context.call save).2 = .ok ()) :
      DriftApplied op context ((((context.call save).1.runOperator op).1.call restore).1)

theorem applyOperator_drift (hDrift : context.inDrift = true) (op : SimOperatorRecord D μ) :
    DriftApplied op context (context.applyOperator op).1 := by
  rw [applyOperator, saveOperator]
  cases hSave : op.saveState with
  | none =>
      have hRun : (context.runOperator op).1.inDrift = true :=
        (wrote_runOperator op context).inDrift.trans hDrift
      have hRestored : restoreOperator op false (context.runOperator op) =
          context.runOperator op := by
        rw [restoreOperator]
        cases op.restoreState <;> simp
      dsimp only
      rw [hRestored, commitOperator_drift hRun]
      exact .ran hSave
  | some save =>
      have hRun : ((context.call save).1.runOperator op).1.inDrift = true :=
        ((wrote_runOperator op _).inDrift.trans (wrote_call save context).inDrift).trans hDrift
      rw [hDrift]
      dsimp only
      cases hOk : (context.call save).2 with
      | error failure =>
          simp only [if_true, hOk]
          exact .notSaved hSave
      | ok code =>
          simp only [if_true, hOk]
          cases hRestore : op.restoreState with
          | none =>
              rw [restoreOperator, hRestore]
              dsimp only
              rw [commitOperator_drift hRun]
              exact .kept hSave hRestore hOk
          | some restore =>
              rw [restoreOperator, hRestore]
              dsimp only
              rw [hRun, commitOperator_drift]
              · exact .restored hSave hRestore hOk
              · exact ((wrote_call restore _).inDrift).trans hRun

omit [CDouble D] in
theorem DriftApplied.wrote (hApplied : DriftApplied op context later) : Wrote context later := by
  cases hApplied with
  | notSaved hSave => exact wrote_call _ context
  | ran hSave => exact wrote_runOperator op context
  | kept hSave hRestore hOk => exact (wrote_call _ context).trans (wrote_runOperator op _)
  | restored hSave hRestore hOk =>
      exact ((wrote_call _ context).trans (wrote_runOperator op _)).trans (wrote_call _ _)

/-! ### A plan in drift -/

/-- A property of contexts which drift applications keep holds after any plan,
also when an operator of it fails. -/
theorem runPlan_invariant (inv : SimContext D μ → Prop)
    (hStep : ∀ (context : SimContext D μ) (index : ℕ) (op : SimOperatorRecord D μ),
      inv context → context.operators[index]? = some op → inv (context.applyOperator op).1)
    (order : List ℕ) (hInv : inv context) : inv (runPlan order context).context := by
  induction order generalizing context with
  | nil => exact hInv
  | cons index order ih =>
      rw [runPlan]
      cases hOp : context.operators[index]? with
      | none => exact hInv
      | some op =>
          have hNext := hStep context index op hInv hOp
          dsimp only
          cases hResult : context.applyOperator op with
          | mk after result =>
              rw [hResult] at hNext
              cases result with
              | error failure => exact hNext
              | ok code => exact ih hNext

theorem runPlan_wrote (hDrift : context.inDrift = true) (order : List ℕ) :
    Wrote context (runPlan order context).context := by
  have hInv : Wrote context (runPlan order context).context ∧
      (runPlan order context).context.inDrift = true := by
    apply runPlan_invariant fun reached => Wrote context reached ∧ reached.inDrift = true
    · rintro reached index op ⟨hWrote, hReached⟩ -
      have hApplied := (applyOperator_drift hReached op).wrote
      exact ⟨hWrote.trans hApplied, hApplied.inDrift.trans hReached⟩
    · exact ⟨.refl context, hDrift⟩
  exact hInv.1

/-! ### Saved operator state -/

/-- The callback leaves a part of the memory of the operators alone. -/
def Leaves (saved : μ → ν) (callback : Callback D μ) : Prop :=
  ∀ fields runtime memory, saved (callback fields runtime memory).memory = saved memory

/-- No callback of the operator touches the part of the memory. -/
structure LeavesAlone (saved : μ → ν) (op : SimOperatorRecord D μ) : Prop where
  kernel : ∀ callback, op.kernel = some callback → Leaves saved callback
  evaluate : ∀ callback, op.evaluate = some callback → Leaves saved callback
  saveState : ∀ callback, op.saveState = some callback → Leaves saved callback
  restoreState : ∀ callback, op.restoreState = some callback → Leaves saved callback

/-- `restore_state` undoes `save_state`: saving itself changes nothing of the
saved state, and whatever the operator did to the memory after a successful
save, restoring brings the saved state back. -/
structure RestoresSaved (saved : μ → ν) (op : SimOperatorRecord D μ) (save restore : Callback D μ) :
    Prop where
  saveState : op.saveState = some save
  restoreState : op.restoreState = some restore
  saving : Leaves saved save
  restoring : ∀ context : SimContext D μ, (context.call save).2 = .ok () →
    saved (((context.call save).1.runOperator op).1.call restore).1.memory = saved context.memory

omit [CDouble D] in
theorem LeavesAlone.runOperator {saved : μ → ν} (hLeaves : LeavesAlone saved op)
    (context : SimContext D μ) :
    saved (context.runOperator op).1.memory = saved context.memory := by
  rw [SimContext.runOperator]
  cases hKernel : op.kernel with
  | some kernel => exact hLeaves.kernel kernel hKernel _ _ _
  | none =>
      cases hEvaluate : op.evaluate with
      | some evaluate => exact hLeaves.evaluate evaluate hEvaluate _ _ _
      | none => rfl

omit [CDouble D] in
theorem DriftApplied.leavesAlone {saved : μ → ν} (hApplied : DriftApplied op context later)
    (hLeaves : LeavesAlone saved op) : saved later.memory = saved context.memory := by
  cases hApplied with
  | notSaved hSave => exact hLeaves.saveState _ hSave _ _ _
  | ran hSave => exact hLeaves.runOperator context
  | kept hSave hRestore hOk =>
      exact (hLeaves.runOperator _).trans (hLeaves.saveState _ hSave _ _ _)
  | restored hSave hRestore hOk =>
      exact (hLeaves.restoreState _ hRestore _ _ _).trans
        ((hLeaves.runOperator _).trans (hLeaves.saveState _ hSave _ _ _))

omit [CDouble D] in
theorem DriftApplied.restoresSaved {saved : μ → ν} {save restore : Callback D μ}
    (hApplied : DriftApplied op context later) (hRestores : RestoresSaved saved op save restore) :
    saved later.memory = saved context.memory := by
  cases hApplied with
  | notSaved hSave =>
      cases hRestores.saveState.symm.trans hSave
      exact hRestores.saving _ _ _
  | ran hSave => cases hRestores.saveState.symm.trans hSave
  | kept hSave hRestore hOk => cases hRestores.restoreState.symm.trans hRestore
  | restored hSave hRestore hOk =>
      cases hRestores.saveState.symm.trans hSave
      cases hRestores.restoreState.symm.trans hRestore
      exact hRestores.restoring context hOk

/-- The operator leaves the part of the memory alone, or restores it. -/
def KeepsSaved (saved : μ → ν) (op : SimOperatorRecord D μ) : Prop :=
  LeavesAlone saved op ∨ ∃ save restore, RestoresSaved saved op save restore

omit [CDouble D] in
theorem DriftApplied.keepsSaved {saved : μ → ν} (hApplied : DriftApplied op context later)
    (hOp : KeepsSaved saved op) : saved later.memory = saved context.memory := by
  rcases hOp with hLeaves | ⟨save, restore, hRestores⟩
  · exact hApplied.leavesAlone hLeaves
  · exact hApplied.restoresSaved hRestores

theorem runPlan_saved {saved : μ → ν} (hDrift : context.inDrift = true)
    (hOperators : ∀ op ∈ context.operators, KeepsSaved saved op)
    (order : List ℕ) : saved (runPlan order context).context.memory = saved context.memory := by
  have hInv : Wrote context (runPlan order context).context ∧
      saved (runPlan order context).context.memory = saved context.memory := by
    apply runPlan_invariant fun reached => Wrote context reached ∧
      saved reached.memory = saved context.memory
    · rintro reached index op ⟨hWrote, hSaved⟩ hOp
      have hApplied := applyOperator_drift (hWrote.inDrift.trans hDrift) op
      rw [hWrote.operators] at hOp
      have hKept := hApplied.keepsSaved (hOperators op (List.mem_of_getElem? hOp))
      exact ⟨hWrote.trans hApplied.wrote, hKept.trans hSaved⟩
    · exact ⟨.refl context, rfl⟩
  exact hInv.2

end SimContext

end Oakfield
