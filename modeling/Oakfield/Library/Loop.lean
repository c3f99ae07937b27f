import Mathlib.Data.Nat.Notation
import Mathlib.Data.List.Basic

/-! Loops which stop at the first error. A step without a result is undefined
behaviour, and so is the loop which takes it. -/
namespace Library.Loop

variable {α S S' Err : Type}

/-- Run a body on the items in order until the first error. -/
def forEach (body : α → S → Option (Except Err Unit × S)) :
    List α → S → Option (Except Err Unit × S)
  | [], s => some (.ok (), s)
  | a :: rest, s =>
      match body a s with
      | none => none
      | some (.error e, s) => some (.error e, s)
      | some (.ok (), s) => forEach body rest s

variable {body : α → S → Option (Except Err Unit × S)}

section Step
variable {a : α} {rest : List α} {s s' : S}

attribute [local simp] forEach

theorem forEach_cons_ok (hBody : body a s = some (.ok (), s')) :
    forEach body (a :: rest) s = forEach body rest s' := by
  simp [hBody]

theorem forEach_cons_error {e : Err} (hBody : body a s = some (.error e, s')) :
    forEach body (a :: rest) s = some (.error e, s') := by
  simp [hBody]

theorem forEach_cons_none (hBody : body a s = none) : forEach body (a :: rest) s = none := by
  simp [hBody]

/-- A successful loop starts with a successful step. -/
theorem exists_of_forEach_cons (hRun : forEach body (a :: rest) s = some (.ok (), s')) :
    ∃ t, body a s = some (.ok (), t) ∧ forEach body rest t = some (.ok (), s') := by
  cases hBody : body a s with
  | none =>
      rw [forEach_cons_none hBody] at hRun
      cases hRun
  | some out =>
      obtain ⟨r, t⟩ := out
      cases r with
      | error e =>
          rw [forEach_cons_error hBody] at hRun
          cases hRun
      | ok u => exact ⟨t, rfl, (forEach_cons_ok hBody).symm.trans hRun⟩

end Step

theorem forEach_append (items rest : List α) (s : S) :
    forEach body (items ++ rest) s =
      match forEach body items s with
      | none => none
      | some (.error e, s) => some (.error e, s)
      | some (.ok (), s) => forEach body rest s := by
  induction items generalizing s with
  | nil => rfl
  | cons a items ih =>
      cases hBody : body a s with
      | none => rw [List.cons_append, forEach_cons_none hBody, forEach_cons_none hBody]
      | some out =>
          obtain ⟨r, s'⟩ := out
          cases r with
          | error e => rw [List.cons_append, forEach_cons_error hBody, forEach_cons_error hBody]
          | ok u => rw [List.cons_append, forEach_cons_ok hBody, forEach_cons_ok hBody, ih]

/-- A change of the state which commutes with every step commutes with the loop. -/
theorem forEach_commutes (change : S → S)
    (hStep : ∀ a s, body a (change s) = (body a s).map (Prod.map id change)) (items : List α) (s : S) :
    forEach body items (change s) = (forEach body items s).map (Prod.map id change) := by
  induction items generalizing s with
  | nil => rfl
  | cons a items ih =>
      have hChanged := hStep a s
      cases hBody : body a s with
      | none =>
          rw [hBody] at hChanged
          rw [forEach_cons_none hChanged, forEach_cons_none hBody, Option.map_none]
      | some out =>
          rw [hBody] at hChanged
          obtain ⟨r, s'⟩ := out
          cases r with
          | error e =>
              rw [forEach_cons_error hChanged, forEach_cons_error hBody]
              rfl
          | ok u => rw [forEach_cons_ok hChanged, forEach_cons_ok hBody, ih]

/-- A successful loop over the first numbers: what holds after `k` steps holds
after the next one. -/
theorem forEach_range_ok {body : ℕ → S → Option (Except Err Unit × S)} {P : ℕ → S → Prop} {n : ℕ}
    (hStep : ∀ k s s', k < n → P k s → body k s = some (.ok (), s') → P (k + 1) s') {s s' : S}
    (hStart : P 0 s) (hRun : forEach body (List.range n) s = some (.ok (), s')) : P n s' := by
  induction n generalizing s' with
  | zero =>
      cases hRun
      exact hStart
  | succ n ih =>
      rw [List.range_succ, forEach_append] at hRun
      cases hInit : forEach body (List.range n) s with
      | none =>
          rw [hInit] at hRun
          cases hRun
      | some out =>
          obtain ⟨r, t⟩ := out
          rw [hInit] at hRun
          cases r with
          | error e => cases hRun
          | ok u =>
              have hPrior : P n t := ih (fun k s s' hK => hStep k s s' (Nat.lt_succ_of_lt hK)) hInit
              obtain ⟨v, hLast, hEnd⟩ := exists_of_forEach_cons hRun
              cases hEnd
              exact hStep n t _ (Nat.lt_succ_self n) hPrior hLast

/-- A loop over the first numbers ends well if every step does. -/
theorem forEach_range_total {body : ℕ → S → Option (Except Err Unit × S)} {P : ℕ → S → Prop} {n : ℕ}
    (hStep : ∀ k s, k < n → P k s → ∃ s', body k s = some (.ok (), s') ∧ P (k + 1) s') {s : S}
    (hStart : P 0 s) : ∃ s', forEach body (List.range n) s = some (.ok (), s') ∧ P n s' := by
  induction n with
  | zero => exact ⟨s, rfl, hStart⟩
  | succ n ih =>
      obtain ⟨t, hInit, hPrior⟩ := ih fun k s hK => hStep k s (Nat.lt_succ_of_lt hK)
      obtain ⟨s', hLast, hDone⟩ := hStep n t (Nat.lt_succ_self n) hPrior
      refine ⟨s', ?_, hDone⟩
      rw [List.range_succ, forEach_append, hInit]
      exact forEach_cons_ok hLast

/-- States from one item to the next. -/
inductive Chain {X : Type} (R : α → X → X → Prop) : List α → X → X → Prop where
  | nil (x : X) : Chain R [] x x
  | cons {a : α} {rest : List α} {x y z : X} (hStep : R a x y) (hRest : Chain R rest y z) :
      Chain R (a :: rest) x z

/-- What every item leaves alone, all of them do. -/
theorem Chain.kept {X Y : Type} {R : α → X → X → Prop} {items : List α} {x y : X}
    (hChain : Chain R items x y) (view : X → Y) (hKept : ∀ a ∈ items, ∀ x y, R a x y → view y = view x) :
    view y = view x := by
  induction hChain with
  | nil x => rfl
  | cons hStep hRest ih =>
      exact (ih fun a hMem => hKept a (List.mem_cons_of_mem _ hMem)).trans
        (hKept _ List.mem_cons_self _ _ hStep)

/-- Two loops step by step: either the left one stops with an error of its own,
or both go on alike. -/
theorem forEach_simulated {body' : α → S' → Option (Except Err Unit × S')} {R : S → S' → Prop}
    {stop : Err}
    (hStep : ∀ a s s', R s s' → ∃ r t t', body a s = some (r, t) ∧ R t t' ∧
      (r = .error stop ∨ body' a s' = some (r, t')))
    (items : List α) {s : S} {s' : S'} (hR : R s s') :
    ∃ r t t', forEach body items s = some (r, t) ∧ R t t' ∧
      (r = .error stop ∨ forEach body' items s' = some (r, t')) := by
  induction items generalizing s s' with
  | nil => exact ⟨.ok (), s, s', rfl, hR, .inr rfl⟩
  | cons a items ih =>
      obtain ⟨r, t, t', hRun, hR', hRight⟩ := hStep a s s' hR
      cases r with
      | error e =>
          refine ⟨.error e, t, t', forEach_cons_error hRun, hR', ?_⟩
          rcases hRight with hStop | hRight
          · exact .inl hStop
          · exact .inr (forEach_cons_error hRight)
      | ok u =>
          rcases hRight with hStop | hRight
          · cases hStop
          · obtain ⟨r, v, v', hRest, hR'', hLast⟩ := ih hR'
            refine ⟨r, v, v', (forEach_cons_ok hRun).trans hRest, hR'', ?_⟩
            rcases hLast with hStop | hLast
            · exact .inl hStop
            · exact .inr ((forEach_cons_ok hRight).trans hLast)

end Library.Loop
