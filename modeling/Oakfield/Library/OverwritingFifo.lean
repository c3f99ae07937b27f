import Mathlib.Data.List.Basic
import Mathlib.Data.Nat.Notation

/-! Queues of a fixed capacity which give up their oldest elements when they are full. -/
namespace Library.OverwritingFifo

variable {α : Type}

/-- The last elements of a list, as many as a queue holds. -/
def recent (capacity : ℕ) (unread : List α) : List α := unread.drop (unread.length - capacity)

theorem length_recent (capacity : ℕ) (unread : List α) :
    (recent capacity unread).length = min unread.length capacity := by
  rw [recent, List.length_drop]
  omega

theorem recent_of_length_le {capacity : ℕ} {unread : List α} (hHeld : unread.length ≤ capacity) :
    recent capacity unread = unread := by
  rw [recent, Nat.sub_eq_zero_of_le hHeld, List.drop_zero]

/-- The calls on a queue; a refused one changes nothing. -/
inductive Call (α : Type) where
  | push (a : α)
  | pop
  | clear
  | refused

/-- A queue with its history: everything pushed, everything popped, and what was pushed after
the last element popped or cleared. -/
structure Fifo (α : Type) where
  pushed : List α
  popped : List α
  unread : List α

namespace Fifo

def empty : Fifo α := ⟨[], [], []⟩

/-- The oldest of the elements held is popped; the ones before it are lost. -/
def step (capacity : ℕ) (queue : Fifo α) : Call α → Option α × Fifo α
  | .push a => (none, ⟨queue.pushed ++ [a], queue.popped, queue.unread ++ [a]⟩)
  | .pop =>
      match recent capacity queue.unread with
      | [] => (none, queue)
      | a :: rest => (some a, ⟨queue.pushed, queue.popped ++ [a], rest⟩)
  | .clear => (none, ⟨queue.pushed, queue.popped, []⟩)
  | .refused => (none, queue)

/-- The answers of the calls and the queue after them. -/
def run (capacity : ℕ) : Fifo α → List (Call α) → List (Option α) × Fifo α
  | queue, [] => ([], queue)
  | queue, call :: calls =>
      let next := queue.step capacity call
      let rest := run capacity next.2 calls
      (next.1 :: rest.1, rest.2)

/-- What is unread was pushed last, and what is popped was pushed before it, in that order. -/
def Ordered (queue : Fifo α) : Prop :=
  ∃ passed, queue.pushed = passed ++ queue.unread ∧ queue.popped.Sublist passed

variable {capacity : ℕ} {queue : Fifo α}

theorem ordered_empty : (empty : Fifo α).Ordered := ⟨[], rfl, List.Sublist.refl _⟩

theorem Ordered.step (hOrdered : queue.Ordered) (call : Call α) :
    (queue.step capacity call).2.Ordered := by
  obtain ⟨passed, hPushed, hPopped⟩ := hOrdered
  cases call with
  | push a =>
      refine ⟨passed, ?_, hPopped⟩
      rw [Fifo.step, hPushed, List.append_assoc]
  | clear =>
      refine ⟨queue.pushed, (List.append_nil _).symm, ?_⟩
      rw [hPushed]
      exact hPopped.trans (List.sublist_append_left _ _)
  | refused => exact ⟨passed, hPushed, hPopped⟩
  | pop =>
      rw [Fifo.step]
      cases hHeld : recent capacity queue.unread with
      | nil => exact ⟨passed, hPushed, hPopped⟩
      | cons a rest =>
          have hSplit : queue.unread =
              queue.unread.take (queue.unread.length - capacity) ++ a :: rest := by
            rw [← hHeld]
            exact (List.take_append_drop _ _).symm
          refine ⟨passed ++ queue.unread.take (queue.unread.length - capacity) ++ [a], ?_, ?_⟩
          · rw [hPushed, List.append_assoc, List.append_assoc, List.singleton_append, ← hSplit]
          · exact (hPopped.trans (List.sublist_append_left _ _)).append (List.Sublist.refl _)

theorem Ordered.run (hOrdered : queue.Ordered) (calls : List (Call α)) :
    (queue.run capacity calls).2.Ordered := by
  induction calls generalizing queue with
  | nil => exact hOrdered
  | cons call calls ih => exact ih (hOrdered.step call)

/-- Elements are popped in the order in which they were pushed, and each at most once. -/
theorem Ordered.sublist (hOrdered : queue.Ordered) : queue.popped.Sublist queue.pushed := by
  obtain ⟨passed, hPushed, hPopped⟩ := hOrdered
  rw [hPushed]
  exact hPopped.trans (List.sublist_append_left _ _)

theorem Ordered.length_le (hOrdered : queue.Ordered) :
    queue.unread.length ≤ queue.pushed.length := by
  obtain ⟨passed, hPushed, -⟩ := hOrdered
  rw [hPushed, List.length_append]
  omega

/-- The elements held are the last ones pushed. -/
theorem Ordered.recent_eq (hOrdered : queue.Ordered) :
    recent capacity queue.unread =
      queue.pushed.drop (queue.pushed.length - (recent capacity queue.unread).length) := by
  obtain ⟨passed, hPushed, -⟩ := hOrdered
  rw [length_recent, hPushed, List.length_append, recent]
  have hPast : passed.length ≤
      passed.length + queue.unread.length - min queue.unread.length capacity := by
    omega
  rw [List.drop_append, List.drop_eq_nil_of_le hPast, List.nil_append]
  congr 1
  omega

/-- What a run answers is what it popped. -/
theorem popped_run (queue : Fifo α) (calls : List (Call α)) :
    (queue.run capacity calls).2.popped =
      queue.popped ++ (queue.run capacity calls).1.filterMap id := by
  induction calls generalizing queue with
  | nil => exact (List.append_nil _).symm
  | cons call calls ih =>
      rw [Fifo.run]
      dsimp only
      rw [ih]
      cases call with
      | push a => rfl
      | clear => rfl
      | refused => rfl
      | pop =>
          rw [Fifo.step]
          cases recent capacity queue.unread with
          | nil => rfl
          | cons a rest => exact List.append_assoc _ _ _

end Fifo

end Library.OverwritingFifo
