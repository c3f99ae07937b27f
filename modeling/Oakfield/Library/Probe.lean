import Oakfield.Library.Run

/-! Probes of a machine with outputs: calls which may be dropped from a run
without a difference to the outputs of the others. -/
namespace Library.Probe

open Library.Run

variable {State Call Output : Type} {machine : State → Call → State × Output}
  {probe : Call → Bool}

/-- The state behind a call. -/
def next (machine : State → Call → State × Output) (state : State) (call : Call) : State :=
  (machine state call).1

/-- The outputs of the calls of a run which are not probes. -/
def outputs (machine : State → Call → State × Output) (probe : Call → Bool) :
    State → List Call → List Output
  | _, [] => []
  | state, call :: calls =>
      if probe call then outputs machine probe (machine state call).1 calls
      else (machine state call).2 :: outputs machine probe (machine state call).1 calls

/-- The run without its probes. -/
def withoutProbes (probe : Call → Bool) (calls : List Call) : List Call :=
  calls.filter fun call => !probe call

/-- Unwinding: where related states give the same outputs and stay related, and
a harmless probe moves on one side only, dropping the probes of a run changes
no output. -/
theorem outputs_withoutProbes {related : State → State → Prop} {harmless : State → Call → Prop}
    (hCall : ∀ state other call, related state other → probe call = false →
      (machine state call).2 = (machine other call).2 ∧
        related (machine state call).1 (machine other call).1)
    (hProbe : ∀ state other call, related state other → probe call = true → harmless state call →
      related (machine state call).1 other)
    {state other : State} (hRelated : related state other) {calls : List Call}
    (hHarmless : EachCall (next machine) (fun state call => probe call = true →
      harmless state call) state calls) :
    outputs machine probe state calls = outputs machine probe other (withoutProbes probe calls) ∧
      related (after (next machine) state calls)
        (after (next machine) other (withoutProbes probe calls)) := by
  induction calls generalizing state other with
  | nil => exact ⟨rfl, hRelated⟩
  | cons call calls ih =>
      obtain ⟨hHere, hRest⟩ := hHarmless
      cases hKind : probe call with
      | true =>
          have hNext := hProbe state other call hRelated hKind (hHere hKind)
          have hDropped : withoutProbes probe (call :: calls) = withoutProbes probe calls := by
            rw [withoutProbes, List.filter_cons, hKind]
            rfl
          rw [outputs, if_pos hKind, hDropped]
          exact ih hNext hRest
      | false =>
          obtain ⟨hOutput, hNext⟩ := hCall state other call hRelated hKind
          have hKept : withoutProbes probe (call :: calls) = call :: withoutProbes probe calls := by
            rw [withoutProbes, List.filter_cons, hKind]
            rfl
          have hNot : ¬probe call = true := by
            rw [hKind]
            exact Bool.false_ne_true
          rw [hKept, outputs, outputs, if_neg hNot, if_neg hNot, hOutput]
          obtain ⟨hOutputs, hEnd⟩ := ih hNext hRest
          exact ⟨congrArg _ hOutputs, hEnd⟩

end Library.Probe
