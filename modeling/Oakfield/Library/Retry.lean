import Mathlib.Data.List.Chain
import Mathlib.Data.Nat.Notation
import Oakfield.Library.Procedure

/-! Loops of attempts. An attempt depends on a parameter, and while it is rejected
there is another one with the next parameter, until the budget is used up. -/
namespace Library.Retry

open Library.Procedure

variable {Call State Failure Param Result : Type} {Answer : Call → Type}

/-- What makes up a loop of attempts. -/
structure Retrying (Call : Type) (Answer : Call → Type) (Param Result : Type) where
  /-- One attempt, and whether it is accepted. -/
  attempt : Param → Program Call Answer (Result × Bool)
  /-- The next parameter after a rejected attempt, none where the loop is left. -/
  retry : Param → Result → Option Param
  /-- What runs between two attempts. -/
  between : Param → Program Call Answer Unit

/-- The variables of the loop when it is left. -/
structure Ending (Param Result : Type) where
  result : Result
  param : Param
  count : ℕ
  accepted : Bool

/-- An attempt that has been evaluated in a run. -/
structure Evaluated (procedure : (request : Call) → State → State × Except Failure (Answer request))
    (attempt : Param → Program Call Answer (Result × Bool)) where
  start : State
  param : Param
  reached : State
  result : Result
  accepted : Bool
  ran : (attempt param).run procedure start = (reached, .ok (result, accepted))

namespace Retrying

variable (loop : Retrying Call Answer Param Result)
  (procedure : (request : Call) → State → State × Except Failure (Answer request))

/-- The loop from attempt `index` on, with `left` more behind it. -/
def attempts (left index : ℕ) (param : Param) : Program Call Answer (Ending Param Result) := do
  let (result, accepted) ← loop.attempt param
  if accepted then return ⟨result, param, index + 1, true⟩
  match loop.retry param result with
  | none => return ⟨result, param, index + 1, false⟩
  | some next =>
      loop.between next
      match left with
      | 0 => return ⟨result, next, index + 1, false⟩
      | left + 1 => attempts left (index + 1) next

/-- Evaluate one attempt, none where one of its calls fails. -/
def evaluate (param : Param) (start : State) : Option (Evaluated procedure loop.attempt) :=
  match hRan : (loop.attempt param).run procedure start with
  | (_, .error _) => none
  | (reached, .ok (result, accepted)) => some ⟨start, param, reached, result, accepted, hRan⟩

/-- The attempts which a run of the loop evaluates, in order. -/
def evaluated (left : ℕ) (param : Param) (start : State) :
    List (Evaluated procedure loop.attempt) :=
  match loop.evaluate procedure param start with
  | none => []
  | some this =>
      let later :=
        if this.accepted then []
        else
          match loop.retry this.param this.result with
          | none => []
          | some next =>
              match left with
              | 0 => []
              | left + 1 =>
                  evaluated left next ((loop.between next).run procedure this.reached).1
      this :: later

/-- How the loop is left after its last attempt: with it, or on the way to one which the
budget does not cover. -/
structure EndsAfter (last : Evaluated procedure loop.attempt) (ending : Ending Param Result)
    (reached : State) : Prop where
  result : ending.result = last.result
  accepted : ending.accepted = last.accepted
  param : ending.param =
    if last.accepted then last.param else (loop.retry last.param last.result).getD last.param
  reached : reached = last.reached ∨
    ∃ next, (loop.between next).run procedure last.reached = (reached, .ok ())

variable {loop procedure}

theorem evaluate_of_ran {param : Param} {start reached : State} {result : Result} {accepted : Bool}
    (hRan : (loop.attempt param).run procedure start = (reached, .ok (result, accepted))) :
    loop.evaluate procedure param start = some ⟨start, param, reached, result, accepted, hRan⟩ := by
  unfold evaluate
  split
  case h_1 hFailed =>
    rw [hRan] at hFailed
    exact (nomatch hFailed)
  case h_2 hAgain =>
    rw [hRan] at hAgain
    obtain ⟨rfl, hSame⟩ := Prod.mk.inj hAgain
    obtain ⟨rfl, rfl⟩ := Prod.mk.inj (Except.ok.inj hSame)
    rfl

theorem param_of_evaluate {param : Param} {start : State}
    {this : Evaluated procedure loop.attempt}
    (hThis : loop.evaluate procedure param start = some this) : this.param = param := by
  unfold evaluate at hThis
  split at hThis
  case h_1 => exact (nomatch hThis)
  case h_2 =>
    obtain rfl := Option.some.inj hThis
    rfl

/-- A loop that ends well has counted the attempts it has evaluated, and ends after the
last one of them. -/
theorem attempts_ended (left index : ℕ) (param : Param) (start : State) {reached : State}
    {ending : Ending Param Result}
    (hRun : (loop.attempts left index param).run procedure start = (reached, .ok ending)) :
    ending.count = index + (loop.evaluated procedure left param start).length ∧
      ∃ last, (loop.evaluated procedure left param start).getLast? = some last ∧
        loop.EndsAfter procedure last ending reached := by
  unfold attempts at hRun
  obtain ⟨middle, ⟨result, accepted⟩, hRan, hRest⟩ := Program.run_bind_ok hRun
  unfold evaluated
  rw [evaluate_of_ran hRan]
  dsimp only at hRest ⊢
  cases accepted with
  | true =>
      rw [if_pos rfl] at hRest ⊢
      obtain ⟨rfl, hEnd⟩ := Prod.mk.inj hRest
      obtain rfl := Except.ok.inj hEnd
      exact ⟨rfl, _, rfl, ⟨rfl, rfl, rfl, .inl rfl⟩⟩
  | false =>
      rw [if_neg Bool.false_ne_true] at hRest ⊢
      cases hRetry : loop.retry param result with
      | none =>
          rw [hRetry] at hRest
          obtain ⟨rfl, hEnd⟩ := Prod.mk.inj hRest
          obtain rfl := Except.ok.inj hEnd
          refine ⟨rfl, ⟨start, param, middle, result, false, hRan⟩, rfl, ⟨rfl, rfl, ?_, .inl rfl⟩⟩
          rw [if_neg Bool.false_ne_true, hRetry, Option.getD_none]
      | some next =>
          rw [hRetry] at hRest
          obtain ⟨between, _, hBetween, hLater⟩ := Program.run_bind_ok hRest
          cases left with
          | zero =>
              obtain ⟨rfl, hEnd⟩ := Prod.mk.inj hLater
              obtain rfl := Except.ok.inj hEnd
              refine ⟨rfl, ⟨start, param, middle, result, false, hRan⟩, rfl,
                ⟨rfl, rfl, ?_, .inr ⟨next, hBetween⟩⟩⟩
              rw [if_neg Bool.false_ne_true, hRetry, Option.getD_some]
          | succ left =>
              dsimp only
              rw [hBetween]
              dsimp only
              obtain ⟨hCount, last, hLast, hEnds⟩ :=
                attempts_ended left (index + 1) next between hLater
              refine ⟨?_, last, ?_, hEnds⟩
              · rw [hCount, List.length_cons]
                omega
              · rw [List.getLast?_cons, hLast, Option.getD_some]

section Invariant

variable {inv : Param → Prop}
  (hRetry : ∀ param result next, inv param → loop.retry param result = some next → inv next)
include hRetry

/-- With the parameters of an invariant, the loop makes the calls of its parts. -/
theorem attempts_onlyCalls {allowed : Call → Prop}
    (hAttempt : ∀ param, (loop.attempt param).OnlyCalls allowed)
    (hBetween : ∀ next, inv next → (loop.between next).OnlyCalls allowed) (left index : ℕ)
    {param : Param} (hParam : inv param) :
    (loop.attempts left index param).OnlyCalls allowed := by
  unfold attempts
  refine (hAttempt param).bind ?_
  intro (result, accepted)
  cases accepted with
  | true => trivial
  | false =>
      dsimp only
      rw [if_neg Bool.false_ne_true]
      cases hNext : loop.retry param result with
      | none => trivial
      | some next =>
          have hInv := hRetry param result next hParam hNext
          refine (hBetween next hInv).bind fun _ => ?_
          cases left with
          | zero => trivial
          | succ left => exact attempts_onlyCalls hAttempt hBetween left (index + 1) hInv

variable (procedure) in
/-- Each evaluated attempt but the first is the retry of a rejected one. -/
theorem evaluated_chain (left : ℕ) (param : Param) (start : State) (hParam : inv param) :
    (∀ this ∈ loop.evaluated procedure left param start, inv this.param) ∧
      (loop.evaluated procedure left param start).IsChain (fun this later =>
        this.accepted = false ∧ loop.retry this.param this.result = some later.param) ∧
      ∀ this ∈ (loop.evaluated procedure left param start).head?, this.param = param := by
  unfold evaluated
  cases hThis : loop.evaluate procedure param start with
  | none => exact ⟨fun _ hMem => (nomatch hMem), .nil, fun _ hMem => (nomatch hMem)⟩
  | some this =>
      have hSame := param_of_evaluate hThis
      have hAlone : (∀ other ∈ [this], inv other.param) ∧ [this].IsChain (fun this later =>
          this.accepted = false ∧ loop.retry this.param this.result = some later.param) ∧
          ∀ other ∈ [this].head?, other.param = param := by
        refine ⟨fun other hMem => ?_, .singleton _, fun other hHead => ?_⟩
        · rw [List.mem_singleton.mp hMem, hSame]
          exact hParam
        · rw [← Option.some.inj hHead, hSame]
      dsimp only
      cases hAccepted : this.accepted with
      | true => exact hAlone
      | false =>
          rw [if_neg Bool.false_ne_true]
          cases hNext : loop.retry this.param this.result with
          | none => exact hAlone
          | some next =>
              cases left with
              | zero => exact hAlone
              | succ left =>
                  have hInv := hRetry _ _ next (hSame ▸ hParam) hNext
                  obtain ⟨hAll, hChain, hHead⟩ := evaluated_chain left next
                    ((loop.between next).run procedure this.reached).1 hInv
                  refine ⟨fun other hMem => ?_,
                    List.isChain_cons.mpr ⟨fun later hLater => ?_, hChain⟩,
                    fun other hOther => ?_⟩
                  · rcases List.mem_cons.mp hMem with rfl | hLater
                    · exact hSame ▸ hParam
                    · exact hAll other hLater
                  · exact ⟨hAccepted, hNext.trans (congrArg some (hHead later hLater).symm)⟩
                  · rw [← Option.some.inj hOther, hSame]

end Invariant

end Retrying

end Library.Retry
