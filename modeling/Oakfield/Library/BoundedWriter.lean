import Mathlib.Data.List.Basic
import Mathlib.Data.Nat.Notation

/-! Writers which count the text they stand for, or write it into a buffer of a bounded
capacity, and the sequences of such writers. -/
namespace Library.BoundedWriter

variable {α ε : Type}

/-- Memory with a text stored at an offset. -/
def store (memory : ℕ → α) (offset : ℕ) (text : List α) : ℕ → α := fun i =>
  if i < offset then memory i else (text[i - offset]?).getD (memory i)

theorem store_nil (memory : ℕ → α) (offset : ℕ) : store memory offset [] = memory := by
  funext i
  simp [store]

/-- The character behind a text may be written too, when it stays what it was. -/
theorem store_snoc (memory : ℕ → α) (offset : ℕ) (text : List α) :
    store memory offset (text ++ [memory (offset + text.length)]) = store memory offset text := by
  funext i
  unfold store
  by_cases hBefore : i < offset
  · rw [if_pos hBefore, if_pos hBefore]
  · rw [if_neg hBefore, if_neg hBefore]
    obtain ⟨d, rfl⟩ := Nat.exists_eq_add_of_le (Nat.le_of_not_lt hBefore)
    rw [Nat.add_sub_cancel_left]
    rcases Nat.lt_trichotomy d text.length with hInside | rfl | hPast
    · rw [List.getElem?_append_left hInside]
    · rw [List.getElem?_concat_length, List.getElem?_eq_none (Nat.le_refl _)]
      rfl
    · rw [List.getElem?_eq_none (Nat.le_of_lt hPast), List.getElem?_eq_none]
      rw [List.length_append, List.length_singleton]
      exact hPast

theorem store_self (memory : ℕ → α) (offset : ℕ) :
    store memory offset ([] ++ [memory offset]) = memory :=
  (store_snoc memory offset []).trans (store_nil memory offset)

/-- A text which follows another replaces the character behind it. -/
theorem store_store (memory : ℕ → α) (offset : ℕ) (text rest : List α) (x y : α) :
    store (store memory offset (text ++ [x])) (offset + text.length) (rest ++ [y]) =
      store memory offset (text ++ rest ++ [y]) := by
  funext i
  unfold store
  by_cases hBefore : i < offset
  · rw [if_pos (Nat.lt_of_lt_of_le hBefore (Nat.le_add_right _ _)), if_pos hBefore,
      if_pos hBefore]
  · rw [if_neg hBefore, if_neg hBefore]
    obtain ⟨d, rfl⟩ := Nat.exists_eq_add_of_le (Nat.le_of_not_lt hBefore)
    rw [Nat.add_sub_cancel_left, Nat.add_sub_add_left]
    by_cases hInside : d < text.length
    · rw [if_pos (Nat.add_lt_add_left hInside _), List.append_assoc,
        List.getElem?_append_left hInside, List.getElem?_append_left hInside]
    · have hPast := Nat.le_of_not_lt hInside
      rw [if_neg (mt Nat.lt_of_add_lt_add_left hInside), List.append_assoc text rest,
        List.getElem?_append_right hPast, List.getElem?_append_right hPast]
      cases hRest : (rest ++ [y])[d - text.length]? with
      | some z => rfl
      | none =>
          -- behind the new text the old one had ended too
          have hLength := List.getElem?_eq_none_iff.mp hRest
          rw [List.length_append, List.length_singleton] at hLength
          have hOld : [x].length ≤ d - text.length := by
            rw [List.length_singleton]
            omega
          rw [List.getElem?_eq_none_iff.mpr hOld]
          rfl

/-- A destination: the memory behind the buffer, and the number of characters so far. -/
structure Sink (α : Type) where
  memory : ℕ → α
  offset : ℕ

/-- A writer is told the capacity of the buffer, `none` for no buffer. It has no result where
the program it models has none. -/
abbrev SinkWriter (α ε : Type) := Option ℕ → Sink α → Option (Sink α × Except ε Unit)

/-- Refuses. -/
def fail (e : ε) : SinkWriter α ε := fun _ sink => some (sink, .error e)

/-- One writer after the other, up to the first that refuses. -/
def sequence : List (SinkWriter α ε) → SinkWriter α ε
  | [], _, sink => some (sink, .ok ())
  | writer :: rest, bound, sink =>
      match writer bound sink with
      | some (sink, .ok ()) => sequence rest bound sink
      | other => other

/-- The text a writer stands for, and how it ends: `full` is its error for a buffer which
does not hold the text and one character more. -/
structure Emits (full : ε) (writer : SinkWriter α ε) (text : List α) (result : Except ε Unit) :
    Prop where
  counts : ∀ sink, writer none sink = some (⟨sink.memory, sink.offset + text.length⟩, result)
  fits : ∀ capacity sink, sink.offset + text.length < capacity → ∃ x,
    writer (some capacity) sink =
      some (⟨store sink.memory sink.offset (text ++ [x]), sink.offset + text.length⟩, result)
  overflows : ∀ capacity sink, sink.offset < capacity → capacity ≤ sink.offset + text.length →
    ∃ x offset, capacity ≤ offset ∧ writer (some capacity) sink =
      some (⟨store sink.memory sink.offset (text.take (capacity - 1 - sink.offset) ++ [x]),
        offset⟩, .error full)

/-- The writer has no result when it counts. -/
def Undefined (writer : SinkWriter α ε) : Prop := ∀ sink, writer none sink = none

variable {full : ε} {writer : SinkWriter α ε} {writers : List (SinkWriter α ε)} {text rest : List α}
  {result : Except ε Unit}

section Sequence
variable {bound : Option ℕ} {sink sink' : Sink α}

attribute [local simp] sequence

theorem sequence_ok (hWriter : writer bound sink = some (sink', .ok ())) :
    sequence (writer :: writers) bound sink = sequence writers bound sink' := by
  simp [hWriter]

theorem sequence_error {e : ε} (hWriter : writer bound sink = some (sink', .error e)) :
    sequence (writer :: writers) bound sink = some (sink', .error e) := by
  simp [hWriter]

theorem sequence_none (hWriter : writer bound sink = none) :
    sequence (writer :: writers) bound sink = none := by
  simp [hWriter]

end Sequence

theorem emits_fail (e : ε) : Emits full (fail e : SinkWriter α ε) [] (.error e) where
  counts _ := rfl
  fits _ sink _ := ⟨sink.memory sink.offset, by rw [store_self]; rfl⟩
  overflows capacity sink hOpen hFull := absurd hFull (Nat.not_le_of_lt hOpen)

theorem emits_nil : Emits full (sequence [] : SinkWriter α ε) [] (.ok ()) where
  counts _ := rfl
  fits _ sink _ := ⟨sink.memory sink.offset, by rw [store_self]; rfl⟩
  overflows capacity sink hOpen hFull := absurd hFull (Nat.not_le_of_lt hOpen)

theorem Emits.cons (hFirst : Emits full writer text (.ok ()))
    (hRest : Emits full (sequence writers) rest result) :
    Emits full (sequence (writer :: writers)) (text ++ rest) result where
  counts sink := by
    rw [sequence_ok (hFirst.counts sink), List.length_append, ← Nat.add_assoc]
    exact hRest.counts _
  fits capacity sink hFits := by
    rw [List.length_append, ← Nat.add_assoc] at hFits ⊢
    obtain ⟨x, hX⟩ := hFirst.fits capacity sink (Nat.lt_of_le_of_lt (Nat.le_add_right _ _) hFits)
    obtain ⟨y, hY⟩ := hRest.fits capacity
      ⟨store sink.memory sink.offset (text ++ [x]), sink.offset + text.length⟩ hFits
    refine ⟨y, ?_⟩
    dsimp only at hY
    rw [sequence_ok hX, hY, store_store]
  overflows capacity sink hOpen hFull := by
    rw [List.length_append, ← Nat.add_assoc] at hFull
    by_cases hFits : sink.offset + text.length < capacity
    · obtain ⟨x, hX⟩ := hFirst.fits capacity sink hFits
      obtain ⟨y, offset, hOffset, hY⟩ := hRest.overflows capacity
        ⟨store sink.memory sink.offset (text ++ [x]), sink.offset + text.length⟩ hFits hFull
      refine ⟨y, offset, hOffset, ?_⟩
      dsimp only at hY
      have hHeld : text.length ≤ capacity - 1 - sink.offset := by omega
      rw [sequence_ok hX, hY, store_store, List.take_append, List.take_of_length_le hHeld,
        Nat.sub_sub (capacity - 1) sink.offset]
    · obtain ⟨x, offset, hOffset, hX⟩ :=
        hFirst.overflows capacity sink hOpen (Nat.le_of_not_lt hFits)
      refine ⟨x, offset, hOffset, ?_⟩
      rw [sequence_error hX, List.take_append_of_le_length (by omega)]

theorem Emits.cons_error {e : ε} (hFirst : Emits full writer text (.error e)) :
    Emits full (sequence (writer :: writers)) text (.error e) where
  counts sink := sequence_error (hFirst.counts sink)
  fits capacity sink hFits := by
    obtain ⟨x, hX⟩ := hFirst.fits capacity sink hFits
    exact ⟨x, sequence_error hX⟩
  overflows capacity sink hOpen hFull := by
    obtain ⟨x, offset, hOffset, hX⟩ := hFirst.overflows capacity sink hOpen hFull
    exact ⟨x, offset, hOffset, sequence_error hX⟩

/-- A writer for each element of a list. -/
theorem emits_map {ι : Type} {part : ι → SinkWriter α ε} {textOf : ι → List α}
    (hParts : ∀ i, Emits full (part i) (textOf i) (.ok ())) (items : List ι) :
    Emits full (sequence (items.map part)) (items.flatMap textOf) (.ok ()) := by
  induction items with
  | nil => exact emits_nil
  | cons i items ih =>
      rw [List.map_cons, List.flatMap_cons]
      exact (hParts i).cons ih

theorem Undefined.head (hFirst : Undefined writer) : Undefined (sequence (writer :: writers)) :=
  fun sink => sequence_none (hFirst sink)

theorem Undefined.tail (hFirst : Emits full writer text (.ok ()))
    (hRest : Undefined (sequence writers)) : Undefined (sequence (writer :: writers)) :=
  fun sink => (sequence_ok (hFirst.counts sink)).trans (hRest _)

/-! ### Sequences with parts below -/

/-- Which of three ways a writer goes: it stands for a whole text, it refuses behind a text,
or it has no result. -/
inductive Outcome (full : ε) (writer : SinkWriter α ε) (finishes stuck : Prop) : Prop where
  | finished (hFinishes : finishes) (hNotStuck : ¬ stuck) {text : List α}
      (hEmits : Emits full writer text (.ok ()))
  | refused (hRefuses : ¬ finishes) (hNotStuck : ¬ stuck) {text : List α} {e : ε}
      (hEmits : Emits full writer text (.error e))
  | undefined (hStuck : stuck) (hUndefined : Undefined writer)

variable {finishes finishes' stuck stuck' : Prop}

theorem Outcome.congr (hOutcome : Outcome full writer finishes stuck)
    (hFinishes : finishes ↔ finishes')
    (hStuck : stuck ↔ stuck') : Outcome full writer finishes' stuck' := by
  rwa [← propext hFinishes, ← propext hStuck]

theorem Outcome.afterText (hRest : Outcome full (sequence writers) finishes stuck)
    (hFirst : Emits full writer text (.ok ())) :
    Outcome full (sequence (writer :: writers)) finishes stuck := by
  cases hRest with
  | finished hFinishes hNotStuck hEmits =>
      exact .finished hFinishes hNotStuck (hFirst.cons hEmits)
  | refused hRefuses hNotStuck hEmits =>
      exact .refused hRefuses hNotStuck (hFirst.cons hEmits)
  | undefined hStuck hUndefined => exact .undefined hStuck (hUndefined.tail hFirst)

theorem Outcome.part (hFirst : Outcome full writer finishes stuck)
    (hRest : Outcome full (sequence writers) finishes' stuck') :
    Outcome full (sequence (writer :: writers)) (finishes ∧ finishes')
      (stuck ∨ finishes ∧ stuck') := by
  cases hFirst with
  | finished hFinishes hNotStuck hEmits =>
      refine (hRest.afterText hEmits).congr ?_ ?_
      · exact (and_iff_right hFinishes).symm
      · rw [and_iff_right hFinishes, or_iff_right hNotStuck]
  | refused hRefuses hNotStuck hEmits =>
      refine .refused (fun h => hRefuses h.1) ?_ hEmits.cons_error
      rintro (hStuck | ⟨hFinishes, -⟩)
      · exact hNotStuck hStuck
      · exact hRefuses hFinishes
  | undefined hStuck hUndefined => exact .undefined (.inl hStuck) hUndefined.head

theorem outcome_nil : Outcome full (sequence [] : SinkWriter α ε) True False :=
  .finished trivial not_false emits_nil

/-- A writer without a result is reached when the ones before it finish. -/
theorem outcome_undefined (hWriter : Undefined writer) :
    Outcome full (sequence [writer]) True True :=
  .undefined trivial hWriter.head

variable {ι : Type} {part : ι → SinkWriter α ε} {last : List (SinkWriter α ε)} {parts : List ι}
  {finishesPart stuckPart : ι → Prop}

/-- A sequence of texts and of parts, in the order of a list, before some last writers. -/
inductive Interleaved (full : ε) (part : ι → SinkWriter α ε) (last : List (SinkWriter α ε)) :
    List (SinkWriter α ε) → List ι → Prop where
  | last : Interleaved full part last last []
  | text {writer : SinkWriter α ε} {writers : List (SinkWriter α ε)} {parts : List ι}
    {text : List α}
      (hEmits : Emits full writer text (.ok ()))
      (hRest : Interleaved full part last writers parts) :
      Interleaved full part last (writer :: writers) parts
  | part {writers : List (SinkWriter α ε)} {i : ι} {parts : List ι}
      (hRest : Interleaved full part last writers parts) :
      Interleaved full part last (part i :: writers) (i :: parts)

theorem Interleaved.texts {front : List (SinkWriter α ε)}
    (hTexts : ∀ writer ∈ front, ∃ text, Emits full writer text (.ok ()))
    (hRest : Interleaved full part last writers parts) :
    Interleaved full part last (front ++ writers) parts := by
  induction front with
  | nil => exact hRest
  | cons writer front ih =>
      obtain ⟨text, hEmits⟩ := hTexts writer List.mem_cons_self
      exact .text hEmits (ih fun other hOther => hTexts other (List.mem_cons_of_mem _ hOther))

theorem Interleaved.ofTexts (hTexts : ∀ writer ∈ writers, ∃ text, Emits full writer text (.ok ())) :
    Interleaved full part [] writers [] := by
  rw [← List.append_nil writers]
  exact .texts hTexts .last

/-- The parts finish one after the other up to one without a result, or up to the end, and the
end has none. -/
def Meets (finishesPart stuckPart : ι → Prop) (stuck : Prop) : List ι → Prop
  | [] => stuck
  | i :: parts => stuckPart i ∨ finishesPart i ∧ Meets finishesPart stuckPart stuck parts

theorem meets_iff : Meets finishesPart stuckPart stuck parts ↔
    (∃ before i after, parts = before ++ i :: after ∧ (∀ j ∈ before, finishesPart j) ∧
      stuckPart i) ∨ (stuck ∧ ∀ i ∈ parts, finishesPart i) := by
  induction parts with
  | nil => simp [Meets]
  | cons i parts ih =>
      rw [Meets, ih, List.forall_mem_cons]
      constructor
      · rintro (hStuck | ⟨hFinishes, ⟨before, j, after, rfl, hBefore, hStuck⟩ | ⟨hStuck, hAll⟩⟩)
        · exact .inl ⟨[], i, parts, rfl, fun j hj => absurd hj List.not_mem_nil, hStuck⟩
        · exact .inl ⟨i :: before, j, after, rfl, List.forall_mem_cons.mpr ⟨hFinishes, hBefore⟩,
            hStuck⟩
        · exact .inr ⟨hStuck, hFinishes, hAll⟩
      · rintro (⟨before, j, after, hParts, hBefore, hStuck⟩ | ⟨hStuck, hFinishes, hAll⟩)
        · cases before with
          | nil =>
              obtain ⟨rfl, -⟩ := List.cons.inj hParts
              exact .inl hStuck
          | cons k before =>
              obtain ⟨rfl, hTail⟩ := List.cons.inj hParts
              rw [List.forall_mem_cons] at hBefore
              exact .inr ⟨hBefore.1, .inl ⟨before, j, after, hTail, hBefore.2, hStuck⟩⟩
        · exact .inr ⟨hFinishes, .inr ⟨hStuck, hAll⟩⟩

theorem Interleaved.outcome (hSequence : Interleaved full part last writers parts)
    (hLast : Outcome full (sequence last) True stuck)
    (hParts : ∀ i ∈ parts, Outcome full (part i) (finishesPart i) (stuckPart i)) :
    Outcome full (sequence writers) (∀ i ∈ parts, finishesPart i)
      (Meets finishesPart stuckPart stuck parts) := by
  induction hSequence with
  | last => exact hLast.congr (by simp) Iff.rfl
  | text hEmits hRest ih => exact (ih hParts).afterText hEmits
  | part hRest ih =>
      rw [List.forall_mem_cons] at hParts
      exact (hParts.1.part (ih hParts.2)).congr List.forall_mem_cons.symm Iff.rfl

end Library.BoundedWriter
