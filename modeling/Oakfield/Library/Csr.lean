import Mathlib.Algebra.BigOperators.Group.Finset.Basic
import Mathlib.Algebra.Order.BigOperators.Group.Finset
import Mathlib.Logic.Function.Basic

/-! Compressed successor rows: the targets of all edges in one flat table, the
row of a source starting at the sum of the degrees of the sources before it. -/
namespace Library.Csr

/-- First position of row `u`: the total degree of the rows before it. -/
def offsets (degree : ℕ → ℕ) : ℕ → ℕ
  | 0 => 0
  | u + 1 => offsets degree u + degree u

/-- The flat table while it is filled, with the length reached by each row. -/
structure Table where
  cell : ℕ → ℕ
  cursor : ℕ → ℕ

/-- Append the target of one edge to the row of its source. -/
def Table.push (degree : ℕ → ℕ) (t : Table) (edge : ℕ × ℕ) : Table :=
  { cell := Function.update t.cell (offsets degree edge.1 + t.cursor edge.1) edge.2
    cursor := Function.update t.cursor edge.1 (t.cursor edge.1 + 1) }

/-- Fill an empty table with the edges in their order. -/
def fill (degree : ℕ → ℕ) (edges : List (ℕ × ℕ)) : Table :=
  edges.foldl (Table.push degree) ⟨fun _ => 0, fun _ => 0⟩

/-- Row `u` of the finished table. -/
def row (degree : ℕ → ℕ) (t : Table) (u : ℕ) : List ℕ :=
  (List.range' (offsets degree u) (offsets degree (u + 1) - offsets degree u)).map t.cell

/-- Targets of the edges from `u`, in the order of the edges. -/
def bucket (edges : List (ℕ × ℕ)) (u : ℕ) : List ℕ :=
  (edges.filter (·.1 = u)).map (·.2)

@[simp]
theorem bucket_nil (u : ℕ) : bucket [] u = [] := rfl

theorem bucket_append (xs ys : List (ℕ × ℕ)) (u : ℕ) :
    bucket (xs ++ ys) u = bucket xs u ++ bucket ys u := by
  simp [bucket]

@[simp]
theorem bucket_singleton_self (u v : ℕ) : bucket [(u, v)] u = [v] := by simp [bucket]

theorem bucket_singleton_of_ne {u w : ℕ} (v : ℕ) (hNe : u ≠ w) : bucket [(u, v)] w = [] := by
  simp [bucket, hNe]

theorem count_bucket (edges : List (ℕ × ℕ)) (u v : ℕ) :
    (bucket edges u).count v = edges.countP fun e => e.1 = u ∧ e.2 = v := by
  rw [bucket, List.count_eq_countP, List.countP_map, List.countP_filter]
  congr 1
  funext e
  rw [Bool.and_comm, Bool.decide_and]
  rfl

theorem offsets_mono (degree : ℕ → ℕ) {u v : ℕ} (hLe : u ≤ v) :
    offsets degree u ≤ offsets degree v := by
  induction hLe with
  | refl => exact Nat.le_refl _
  | step _ ih => exact Nat.le_trans ih (Nat.le_add_right _ _)

/-- Positions inside the rows of two sources never coincide. -/
theorem offsets_add_ne {degree : ℕ → ℕ} {u v j k : ℕ} (hNe : u ≠ v) (hj : j < degree u)
    (hk : k < degree v) : offsets degree u + j ≠ offsets degree v + k := by
  rcases Nat.lt_or_gt_of_ne hNe with hLt | hGt
  · have hRow : offsets degree u + degree u ≤ offsets degree v := offsets_mono degree hLt
    omega
  · have hRow : offsets degree v + degree v ≤ offsets degree u := offsets_mono degree hGt
    omega

/-- After the edges `pushed`, row `u` starts with the bucket of `u`. -/
structure Filled (degree : ℕ → ℕ) (pushed : List (ℕ × ℕ)) (t : Table) : Prop where
  cursor : ∀ u, t.cursor u = (bucket pushed u).length
  cell : ∀ u k, (h : k < (bucket pushed u).length) →
    t.cell (offsets degree u + k) = (bucket pushed u)[k]

/-- Pushing an edge extends its row and leaves the others unchanged, as long
as no row outgrows its degree. -/
theorem Filled.push {degree : ℕ → ℕ} {pushed : List (ℕ × ℕ)} {t : Table} (edge : ℕ × ℕ)
    (hFilled : Filled degree pushed t)
    (hFits : ∀ u, (bucket (pushed ++ [edge]) u).length ≤ degree u) :
    Filled degree (pushed ++ [edge]) (t.push degree edge) := by
  obtain ⟨source, target⟩ := edge
  refine ⟨fun u => ?_, fun u k hk => ?_⟩
  · by_cases hEq : u = source
    · subst hEq
      simp [Table.push, hFilled.cursor, bucket_append]
    · simp [Table.push, Function.update_of_ne hEq, hFilled.cursor, bucket_append,
        bucket_singleton_of_ne target (Ne.symm hEq)]
  · have hFitsSource := hFits source
    have hFitsU := hFits u
    simp only [bucket_append, bucket_singleton_self, List.length_append, List.length_cons,
      List.length_nil] at hFitsSource
    simp only [Table.push, hFilled.cursor]
    by_cases hEq : u = source
    · subst hEq
      by_cases hLast : k = (bucket pushed u).length
      · subst hLast
        simp [bucket_append]
      · have hOld : k < (bucket pushed u).length := by
          simp only [bucket_append, bucket_singleton_self, List.length_append, List.length_cons,
            List.length_nil] at hk
          omega
        rw [Function.update_of_ne (by omega), hFilled.cell u k hOld]
        simp [bucket_append, List.getElem_append_left hOld]
    · have hSame : bucket (pushed ++ [(source, target)]) u = bucket pushed u := by
        simp [bucket_append, bucket_singleton_of_ne target (Ne.symm hEq)]
      simp only [hSame] at hk hFitsU ⊢
      rw [Function.update_of_ne (offsets_add_ne hEq (by omega) (by omega)), hFilled.cell u k hk]

theorem Filled.foldl {degree : ℕ → ℕ} {pushed rest : List (ℕ × ℕ)} {t : Table}
    (hFilled : Filled degree pushed t)
    (hFits : ∀ u, (bucket (pushed ++ rest) u).length ≤ degree u) :
    Filled degree (pushed ++ rest) (rest.foldl (Table.push degree) t) := by
  induction rest generalizing pushed t with
  | nil => simpa using hFilled
  | cons edge rest ih =>
      have hSplit : pushed ++ edge :: rest = (pushed ++ [edge]) ++ rest := by simp
      rw [hSplit] at hFits ⊢
      refine ih (hFilled.push edge fun u => ?_) hFits
      have := hFits u
      rw [bucket_append, List.length_append] at this
      omega

/-- With the exact degrees, every row of the filled table is its bucket. -/
theorem row_fill {degree : ℕ → ℕ} {edges : List (ℕ × ℕ)}
    (hDegree : ∀ u, degree u = (bucket edges u).length) (u : ℕ) :
    row degree (fill degree edges) u = bucket edges u := by
  have hEmpty : Filled degree [] ⟨fun _ => 0, fun _ => 0⟩ :=
    ⟨fun _ => rfl, fun _ _ hk => absurd hk (by simp)⟩
  have hFilled : Filled degree edges (fill degree edges) :=
    @Filled.foldl degree [] edges _ hEmpty fun v => Nat.le_of_eq (hDegree v).symm
  have hLength : (row degree (fill degree edges) u).length = (bucket edges u).length := by
    simp [row, offsets, hDegree u]
  refine List.ext_getElem hLength fun k hRow hk => ?_
  simpa [row] using hFilled.cell u k hk

/-! ### Positions in the table -/

/-- Positions written while the edges are pushed. -/
def writes (degree : ℕ → ℕ) : List (ℕ × ℕ) → Table → List ℕ
  | [], _ => []
  | edge :: edges, t =>
      (offsets degree edge.1 + t.cursor edge.1) :: writes degree edges (t.push degree edge)

theorem Filled.writes {degree : ℕ → ℕ} {n : ℕ} {pushed rest : List (ℕ × ℕ)} {t : Table}
    (hFilled : Filled degree pushed t) (hSources : ∀ edge ∈ rest, edge.1 < n)
    (hFits : ∀ u, (bucket (pushed ++ rest) u).length ≤ degree u) :
    ∀ position ∈ writes degree rest t, position < offsets degree n := by
  induction rest generalizing pushed t with
  | nil => exact fun _ hMem => absurd hMem List.not_mem_nil
  | cons edge rest ih =>
      have hSplit : pushed ++ edge :: rest = (pushed ++ [edge]) ++ rest := by simp
      rw [hSplit] at hFits
      have hHere : ∀ u, (bucket (pushed ++ [edge]) u).length ≤ degree u := by
        intro u
        have hAll := hFits u
        rw [bucket_append, List.length_append] at hAll
        omega
      intro position hMem
      rcases List.mem_cons.mp hMem with rfl | hMem
      · have hRow := hHere edge.1
        rw [bucket_append, List.length_append, bucket_singleton_self] at hRow
        have hNext : offsets degree (edge.1 + 1) ≤ offsets degree n :=
          offsets_mono degree (hSources edge List.mem_cons_self)
        rw [offsets] at hNext
        rw [hFilled.cursor]
        simp only [List.length_singleton] at hRow
        omega
      · exact ih (hFilled.push edge hHere) (fun e h => hSources e (List.mem_cons_of_mem _ h)) hFits
          position hMem

/-- The rows of exact degrees have room for all edges together. -/
theorem offsets_eq_length {degree : ℕ → ℕ} {n : ℕ} {edges : List (ℕ × ℕ)}
    (hDegree : ∀ u, degree u = (bucket edges u).length) (hSources : ∀ edge ∈ edges, edge.1 < n) :
    offsets degree n = edges.length := by
  have hUpTo : ∀ m, offsets degree m = edges.countP fun edge => edge.1 < m := by
    intro m
    induction m with
    | zero => simp [offsets]
    | succ m ih =>
        rw [offsets, ih, hDegree, bucket, List.length_map, ← List.countP_eq_length_filter]
        clear hDegree hSources ih
        induction edges with
        | nil => rfl
        | cons edge edges ih =>
            simp only [List.countP_cons, decide_eq_true_eq]
            grind
  rw [hUpTo, List.countP_eq_length]
  exact fun edge hMem => decide_eq_true (hSources edge hMem)

end Library.Csr
