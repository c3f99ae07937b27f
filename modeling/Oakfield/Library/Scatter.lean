import Mathlib.Data.List.Basic
import Mathlib.Logic.Function.Basic

/-! Loops which store one value a time. -/
namespace Library

variable {ι A V : Type} [DecidableEq A]

/-- Store the value of every item at its target, in order. -/
def scatter (target : ι → A) (value : ι → V) (items : List ι) (memory : A → V) : A → V :=
  items.foldl (fun memory i => Function.update memory (target i) (value i)) memory

variable {target : ι → A} {value : ι → V}

theorem scatter_flatMap {α : Type} (itemsOf : α → List ι) (list : List α) (memory : A → V) :
    scatter target value (list.flatMap itemsOf) memory =
      list.foldl (fun memory a => scatter target value (itemsOf a) memory) memory := by
  induction list generalizing memory with
  | nil => rfl
  | cons a list ih =>
      rw [List.flatMap_cons, List.foldl_cons, ← ih, scatter, List.foldl_append]
      rfl

theorem scatter_frame {items : List ι} {memory : A → V} {a : A} (hFree : ∀ i ∈ items, target i ≠ a) :
    scatter target value items memory a = memory a := by
  induction items generalizing memory with
  | nil => rfl
  | cons i items ih =>
      rw [List.forall_mem_cons] at hFree
      rw [scatter, List.foldl_cons, ← scatter, ih hFree.2, Function.update_of_ne (Ne.symm hFree.1)]

/-- When items with the same target store the same value, each is found at its target. -/
theorem scatter_target {items : List ι} {memory : A → V} {i : ι}
    (hSame : ∀ i ∈ items, ∀ j ∈ items, target i = target j → value i = value j)
    (hMem : i ∈ items) : scatter target value items memory (target i) = value i := by
  induction items generalizing memory i with
  | nil => cases hMem
  | cons j items ih =>
      have hRest : ∀ k ∈ items, ∀ l ∈ items, target k = target l → value k = value l :=
        fun k hK l hL => hSame k (List.mem_cons_of_mem _ hK) l (List.mem_cons_of_mem _ hL)
      rw [scatter, List.foldl_cons, ← scatter]
      by_cases hLater : ∃ k ∈ items, target k = target i
      · obtain ⟨k, hK, hEq⟩ := hLater
        rw [← hEq, ih hRest hK]
        exact hSame k (List.mem_cons_of_mem _ hK) i hMem hEq
      · rw [not_exists] at hLater
        have hHead : i = j := by
          rcases List.mem_cons.mp hMem with hEq | hTail
          · exact hEq
          · exact absurd ⟨hTail, rfl⟩ (hLater i)
        rw [scatter_frame fun k hK hEq => hLater k ⟨hK, hEq⟩, hHead, Function.update_self]

/-! ### Loops which change one value a time -/

variable {change : ι → V → V}

end Library
