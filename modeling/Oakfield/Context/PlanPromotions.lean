import Oakfield.Context.Accounting

/-! Whether preparing a plan promotes a field to complex storage. -/
namespace Oakfield

open SimField

variable {D μ : Type} [CDouble D] {field : SimField D} {context : SimContext D μ}

namespace SimContext

theorem runtime_prepareComplexFieldsFrom (prepare : ℕ → ℕ → Bool) (rest : List ℕ)
    (context : SimContext D μ) :
    (prepareComplexFieldsFrom prepare rest context).1.runtime = context.runtime := by
  induction rest generalizing context with
  | nil => rfl
  | cons i rest ih =>
      rw [prepareComplexFieldsFrom]
      rcases prepareComplexField_cases (prepare i) i context with ⟨hRun, -⟩ | ⟨failure, hRun⟩ |
        ⟨field, promoted, nextFields, nextTotal, -, -, -, -, hRun⟩
      · rw [hRun]
        exact ih context
      · rw [hRun]
      · rw [hRun]
        exact ih _

/-- Behind the promotions, preparing the plan changes the plan only. -/
theorem preparePlan_frame (prepare : ℕ → ℕ → Bool) (context : SimContext D μ) :
    (context.preparePlan prepare).1.fields = (context.prepareComplexFields prepare).1.fields ∧
      (context.preparePlan prepare).1.runtime = context.runtime := by
  have hRuntime := runtime_prepareComplexFieldsFrom prepare (List.range context.fields.length)
    context
  rw [preparePlan, prepareFields, prepareComplexFields]
  cases hRun : prepareComplexFieldsFrom prepare (List.range context.fields.length) context with
  | mk after result =>
      rw [hRun] at hRuntime
      cases result with
      | error failure => exact ⟨rfl, hRuntime⟩
      | ok code =>
          dsimp only
          cases hChecks : (do
            after.resolveRepresentations
            after.validateFieldRepresentations : Except SimError Unit) with
          | error failure => exact ⟨rfl, hRuntime⟩
          | ok code =>
              dsimp only
              split
              · exact ⟨rfl, hRuntime⟩
              · split <;> exact ⟨rfl, hRuntime⟩

/-- Preparing the plan promotes a field: no field before it needs complex
storage, and it is granted its own. -/
def PlanPromotes (prepare : ℕ → ℕ → Bool) (context : SimContext D μ) : Prop :=
  context.planValid = false ∧ ∃ (i : ℕ) (field : SimField D),
    context.fields[i]? = some field ∧ NeedsComplex field ∧
    (∀ j < i, ∀ earlier, context.fields[j]? = some earlier → ¬NeedsComplex earlier) ∧
    (context.prepareComplexField (prepare i) i).2 = .ok ()

theorem prepareComplexFieldsFrom_skip (prepare : ℕ → ℕ → Bool) {skipped : List ℕ} (rest : List ℕ)
    (hSkipped : ∀ j ∈ skipped, ∀ field, context.fields[j]? = some field → ¬NeedsComplex field) :
    prepareComplexFieldsFrom prepare (skipped ++ rest) context =
      prepareComplexFieldsFrom prepare rest context := by
  induction skipped with
  | nil => rfl
  | cons j skipped ih =>
      have hHead : context.prepareComplexField (prepare j) j = (context, .ok ()) := by
        rw [prepareComplexField]
        cases hField : context.fields[j]? with
        | none => rfl
        | some field =>
            have hNot := hSkipped j List.mem_cons_self field hField
            rw [NeedsComplex] at hNot
            apply if_pos
            cases hMode : field.complexModeSet with
            | false => rfl
            | true =>
                cases hStorage : field.storageIsComplex with
                | true => rfl
                | false => exact absurd ⟨hMode, hStorage⟩ hNot
      rw [List.cons_append, prepareComplexFieldsFrom, hHead]
      exact ih fun k hK => hSkipped k (List.mem_cons_of_mem j hK)

omit [CDouble D] in
/-- The first field which needs complex storage, if there is one. -/
theorem exists_first_needsComplex (fields : List (SimField D)) :
    (∀ j ∈ List.range fields.length, ∀ field, fields[j]? = some field → ¬NeedsComplex field) ∨
    ∃ (i : ℕ) (field : SimField D), fields[i]? = some field ∧ NeedsComplex field ∧
      ∀ j < i, ∀ earlier, fields[j]? = some earlier → ¬NeedsComplex earlier := by
  classical
  by_cases hNeeds : ∃ (i : ℕ) (field : SimField D), fields[i]? = some field ∧ NeedsComplex field
  · right
    obtain ⟨field, hField, hHere⟩ := Nat.find_spec hNeeds
    refine ⟨Nat.find hNeeds, field, hField, hHere, fun j hJ earlier hEarlier hComplex => ?_⟩
    exact Nat.find_min hNeeds hJ ⟨earlier, hEarlier, hComplex⟩
  · left
    intro j _ field hField hComplex
    exact hNeeds ⟨j, field, hField, hComplex⟩

/-- The promotion loop starts with the first field which needs it. -/
theorem prepareComplexFields_first (prepare : ℕ → ℕ → Bool) {i : ℕ} {field : SimField D}
    (hField : context.fields[i]? = some field)
    (hFirst : ∀ j < i, ∀ earlier, context.fields[j]? = some earlier → ¬NeedsComplex earlier) :
    ∃ rest, context.prepareComplexFields prepare =
      prepareComplexFieldsFrom prepare (i :: rest) context := by
  obtain ⟨hI, -⟩ := List.getElem?_eq_some_iff.mp hField
  have hRange : List.range context.fields.length =
      List.range i ++ i :: (List.range (context.fields.length - i - 1)).map (i + 1 + ·) := by
    rw [show context.fields.length = i + (1 + (context.fields.length - i - 1)) by omega,
      List.range_add, List.range_add]
    simp [Nat.add_assoc]
  refine ⟨(List.range (context.fields.length - i - 1)).map (i + 1 + ·), ?_⟩
  rw [prepareComplexFields, hRange]
  apply prepareComplexFieldsFrom_skip
  intro j hJ
  exact hFirst j (List.mem_range.mp hJ)

theorem prepareComplexFields_unpromoted {prepare : ℕ → ℕ → Bool}
    (hStale : context.planValid = false) (hNot : ¬context.PlanPromotes prepare) :
    (context.prepareComplexFields prepare).1.fields = context.fields := by
  rcases exists_first_needsComplex context.fields with hNone | ⟨i, field, hField, hNeeds, hFirst⟩
  · have hRun := prepareComplexFieldsFrom_skip prepare [] hNone
    rw [List.append_nil] at hRun
    rw [prepareComplexFields, hRun]
    rfl
  · obtain ⟨rest, hRun⟩ := prepareComplexFields_first prepare hField hFirst
    rw [hRun, prepareComplexFieldsFrom]
    rcases prepareComplexField_cases (prepare i) i context with ⟨-, hSkip⟩ | ⟨failure, hHere⟩ |
      ⟨other, promoted, nextFields, nextTotal, -, -, -, -, hHere⟩
    · exact absurd hNeeds (hSkip field hField)
    · rw [hHere]
    · exact absurd ⟨hStale, i, field, hField, hNeeds, hFirst, by rw [hHere]⟩ hNot

/-- The loop never makes complex storage real. -/
theorem storageIsComplex_prepareComplexFieldsFrom (prepare : ℕ → ℕ → Bool) (rest : List ℕ) {i : ℕ}
    {field : SimField D} (hField : context.fields[i]? = some field)
    (hComplex : field.storageIsComplex = true) :
    ∃ after, (prepareComplexFieldsFrom prepare rest context).1.fields[i]? = some after ∧
      after.storageIsComplex = true := by
  induction rest generalizing context field with
  | nil => exact ⟨field, hField, hComplex⟩
  | cons j rest ih =>
      rw [prepareComplexFieldsFrom]
      rcases prepareComplexField_cases (prepare j) j context with ⟨hRun, -⟩ | ⟨failure, hRun⟩ |
        ⟨other, promoted, nextFields, nextTotal, hOther, hDone, -, -, hRun⟩
      · rw [hRun]
        exact ih hField hComplex
      · rw [hRun]
        exact ⟨field, hField, hComplex⟩
      · rw [hRun]
        by_cases hEq : j = i
        · subst hEq
          obtain ⟨hJ, -⟩ := List.getElem?_eq_some_iff.mp hOther
          exact ih (List.getElem?_set_self hJ) hDone.storage
        · exact ih ((List.getElem?_set_ne hEq).trans hField) hComplex

omit [CDouble D] in
theorem storageIsComplex_eq_true : field.storageIsComplex = true ↔
    field.initialized = true ∧ field.elementSize = 16 := by
  rw [storageIsComplex, Bool.and_eq_true, decide_eq_true_iff]

/-- Promotions change the element type of the first field which needs them. -/
theorem prepareComplexFields_promoted {prepare : ℕ → ℕ → Bool}
    (hPromotes : context.PlanPromotes prepare) :
    ∃ (i : ℕ) (field promoted : SimField D), context.fields[i]? = some field ∧
      (context.prepareComplexFields prepare).1.fields[i]? = some promoted ∧
      promoted.elementSize ≠ field.elementSize := by
  obtain ⟨-, i, field, hField, hNeeds, hFirst, hOk⟩ := hPromotes
  obtain ⟨rest, hRun⟩ := prepareComplexFields_first prepare hField hFirst
  rw [hRun, prepareComplexFieldsFrom]
  rcases prepareComplexField_cases (prepare i) i context with ⟨-, hSkip⟩ | ⟨failure, hHere⟩ |
    ⟨other, promoted, nextFields, nextTotal, hOther, hDone, -, -, hHere⟩
  · exact absurd hNeeds (hSkip field hField)
  · rw [hHere] at hOk
    cases hOk
  · rw [hField] at hOther
    cases hOther
    obtain ⟨hI, -⟩ := List.getElem?_eq_some_iff.mp hField
    obtain ⟨after, hAfter, hComplex⟩ := storageIsComplex_prepareComplexFieldsFrom prepare rest
      (show ({ context with
        fields := context.fields.set i promoted
        bytesFieldsInUse := nextFields
        bytesTotalInUse := nextTotal } : SimContext D μ).fields[i]? = some promoted from
          List.getElem?_set_self hI) hDone.storage
    rw [hHere]
    refine ⟨i, field, after, hField, hAfter, fun hSize => ?_⟩
    have hInit : field.initialized = true := by
      have hMode := hNeeds.1
      rw [complexModeSet] at hMode
      cases hInit : field.initialized with
      | true => rfl
      | false => simp [hInit] at hMode
    have hSixteen := (storageIsComplex_eq_true.mp hComplex).2
    rw [hSize] at hSixteen
    have hAlready := storageIsComplex_eq_true.mpr ⟨hInit, hSixteen⟩
    rw [hNeeds.2] at hAlready
    cases hAlready

end SimContext

end Oakfield
