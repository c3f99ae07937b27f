/-! Runs of a machine which makes one transition for each call. -/
namespace Library.Run

variable {State Call : Type} {step : State → Call → State}

/-- A relation holds between each call of a run and the state it is made in. -/
def EachCall (step : State → Call → State) (holds : State → Call → Prop) :
    State → List Call → Prop
  | _, [] => True
  | state, call :: calls => holds state call ∧ EachCall step holds (step state call) calls

/-- The state after a run. -/
def after (step : State → Call → State) (state : State) (calls : List Call) : State :=
  calls.foldl step state

theorem EachCall.append {holds : State → Call → Prop} {state : State} {calls later : List Call}
    (hCalls : EachCall step holds state calls)
    (hLater : EachCall step holds (after step state calls) later) :
    EachCall step holds state (calls ++ later) := by
  induction calls generalizing state with
  | nil => exact hLater
  | cons call calls ih => exact ⟨hCalls.1, ih hCalls.2 hLater⟩

variable (inv : State → Prop) {allowed holds : State → Call → Prop}

/-- What allowed calls preserve holds after a run of allowed calls. -/
theorem after_invariant (hStep : ∀ state call, inv state → allowed state call →
      inv (step state call))
    {state : State} (hInv : inv state) {calls : List Call}
    (hCalls : EachCall step allowed state calls) : inv (after step state calls) := by
  induction calls generalizing state with
  | nil => exact hInv
  | cons call calls ih => exact ih (hStep _ _ hInv hCalls.1) hCalls.2

/-- Where allowed calls preserve an invariant and have under it a property, all calls of a
run of allowed calls have the property. -/
theorem EachCall.imp_of_invariant (hHolds : ∀ state call, inv state → allowed state call →
      holds state call)
    (hStep : ∀ state call, inv state → allowed state call → inv (step state call)) {state : State}
    (hInv : inv state) {calls : List Call} (hCalls : EachCall step allowed state calls) :
    EachCall step holds state calls := by
  induction calls generalizing state with
  | nil => trivial
  | cons call calls ih =>
      exact ⟨hHolds _ _ hInv hCalls.1, ih (hStep _ _ hInv hCalls.1) hCalls.2⟩

/-- Where the allowed calls preserve an invariant, and are under it the calls
with a property, the runs of allowed calls are the runs with the property. -/
theorem eachCall_iff (hStep : ∀ state call, inv state → allowed state call →
      inv (step state call))
    (hHolds : ∀ state call, inv state → (holds state call ↔ allowed state call))
    {state : State} (hInv : inv state) (calls : List Call) :
    EachCall step holds state calls ↔ EachCall step allowed state calls := by
  induction calls generalizing state with
  | nil => exact Iff.rfl
  | cons call calls ih =>
      constructor
      · rintro ⟨hHere, hRest⟩
        have hAllowed := (hHolds _ _ hInv).mp hHere
        exact ⟨hAllowed, (ih (hStep _ _ hInv hAllowed)).mp hRest⟩
      · rintro ⟨hHere, hRest⟩
        exact ⟨(hHolds _ _ hInv).mpr hHere, (ih (hStep _ _ hInv hHere)).mpr hRest⟩

end Library.Run
