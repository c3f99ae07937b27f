import Mathlib.Init

/-! Programs which call a procedure and go on with its answers. Calls may fail,
and a failed call leaves a state behind. -/
namespace Library.Procedure

variable {Call State Failure Result Next : Type} {Answer : Call → Type}

/-- A program as the tree of its calls. -/
inductive Program (Call : Type) (Answer : Call → Type) (Result : Type) : Type where
  | done (result : Result)
  | call (request : Call) (next : Answer request → Program Call Answer Result)

namespace Program

/-- Continue with the result of a program. -/
def bind (program : Program Call Answer Result) (next : Result → Program Call Answer Next) :
    Program Call Answer Next :=
  match program with
  | .done result => next result
  | .call request continued => .call request fun answer => (continued answer).bind next

instance : Monad (Program Call Answer) where
  pure := .done
  bind := bind

theorem bind_call (request : Call) (continued : Answer request → Program Call Answer Result)
    (next : Result → Program Call Answer Next) :
    (call request continued).bind next = call request fun answer => (continued answer).bind next :=
  rfl

theorem bind_done (program : Program Call Answer Result) : program.bind .done = program := by
  induction program with
  | done result => rfl
  | call request next ih =>
      rw [bind_call]
      exact congrArg (call request) (funext ih)

theorem bind_bind {Final : Type} (program : Program Call Answer Result)
    (next : Result → Program Call Answer Next) (final : Next → Program Call Answer Final) :
    (program.bind next).bind final = program.bind fun result => (next result).bind final := by
  induction program with
  | done result => rfl
  | call request continued ih =>
      rw [bind_call, bind_call, bind_call]
      exact congrArg (call request) (funext ih)

instance : LawfulMonad (Program Call Answer) :=
  LawfulMonad.mk' _ bind_done (fun _ _ => rfl) bind_bind

/-- The program of a single call. -/
def ask (request : Call) : Program Call Answer (Answer request) := .call request .done

/-- Run a program from a state. The first call that fails ends it. -/
def run (procedure : (request : Call) → State → State × Except Failure (Answer request)) :
    Program Call Answer Result → State → State × Except Failure Result
  | .done result, state => (state, .ok result)
  | .call request next, state =>
      match procedure request state with
      | (reached, .error failure) => (reached, .error failure)
      | (reached, .ok answer) => (next answer).run procedure reached

variable {procedure : (request : Call) → State → State × Except Failure (Answer request)}

section Step
variable {request : Call} {next : Answer request → Program Call Answer Result}
  {start middle reached : State} {answer : Answer request} {failure : Failure} {result : Result}

attribute [local simp] run

theorem run_call_ok (hCall : procedure request start = (middle, .ok answer)) :
    (call request next).run procedure start = (next answer).run procedure middle := by
  simp [hCall]

theorem run_call_error (hCall : procedure request start = (middle, .error failure)) :
    (call request next).run procedure start = (middle, .error failure) := by
  simp [hCall]

/-- A run that ends well starts with a call that does not fail. -/
theorem exists_of_run_call
    (hRun : (call request next).run procedure start = (reached, .ok result)) :
    ∃ middle answer, procedure request start = (middle, .ok answer) ∧
      (next answer).run procedure middle = (reached, .ok result) := by
  cases hCall : procedure request start with
  | mk middle outcome =>
      cases outcome with
      | error failure =>
          rw [run_call_error hCall] at hRun
          cases hRun
      | ok answer => exact ⟨middle, answer, rfl, (run_call_ok hCall).symm.trans hRun⟩

end Step

/-- Every call which a program can make is allowed. -/
def OnlyCalls (allowed : Call → Prop) : Program Call Answer Result → Prop
  | .done _ => True
  | .call request next => allowed request ∧ ∀ answer, (next answer).OnlyCalls allowed

theorem onlyCalls_true (program : Program Call Answer Result) :
    program.OnlyCalls fun _ => True := by
  induction program with
  | done result => trivial
  | call request next ih => exact ⟨trivial, ih⟩

theorem OnlyCalls.bind {allowed : Call → Prop} {program : Program Call Answer Result}
    {next : Result → Program Call Answer Next} (hProgram : program.OnlyCalls allowed)
    (hNext : ∀ result, (next result).OnlyCalls allowed) :
    (program >>= next).OnlyCalls allowed := by
  induction program with
  | done result => exact hNext result
  | call request continued ih => exact ⟨hProgram.1, fun answer => ih answer (hProgram.2 answer)⟩

/-- What every allowed call preserves, whether or not it fails, holds after the run. -/
theorem OnlyCalls.run_invariant {allowed : Call → Prop} {inv : State → Prop}
    {program : Program Call Answer Result} (hProgram : program.OnlyCalls allowed)
    (hCall : ∀ request state, allowed request → inv state → inv (procedure request state).1)
    (state : State) (hStart : inv state) : inv (program.run procedure state).1 := by
  induction program generalizing state with
  | done result => exact hStart
  | call request next ih =>
      have hReached := hCall request state hProgram.1 hStart
      cases hAnswer : procedure request state with
      | mk reached result =>
          rw [hAnswer] at hReached
          cases result with
          | error failure =>
              rw [run_call_error hAnswer]
              exact hReached
          | ok answer =>
              rw [run_call_ok hAnswer]
              exact ih answer (hProgram.2 answer) reached hReached

/-- What every call preserves, whether or not it fails, holds after the run. -/
theorem run_invariant {inv : State → Prop}
    (hCall : ∀ request state, inv state → inv (procedure request state).1)
    (program : Program Call Answer Result) (state : State) (hStart : inv state) :
    inv (program.run procedure state).1 :=
  program.onlyCalls_true.run_invariant (fun request state _ => hCall request state) state hStart

/-- A program that ends well has run each of its parts well. -/
theorem run_bind_ok {program : Program Call Answer Result}
    {next : Result → Program Call Answer Next} {start reached : State} {value : Next}
    (hRun : (program >>= next).run procedure start = (reached, .ok value)) :
    ∃ middle result, program.run procedure start = (middle, .ok result) ∧
      (next result).run procedure middle = (reached, .ok value) := by
  induction program generalizing start with
  | done result => exact ⟨start, result, rfl, hRun⟩
  | call request continued ih =>
      change (call request fun answer => (continued answer).bind next).run procedure start = _
        at hRun
      obtain ⟨middle, answer, hAnswer, hRest⟩ := exists_of_run_call hRun
      rw [run_call_ok hAnswer]
      exact ih answer hRest

/-! ### Programs which end well -/

/-- The run ends without a failure, in a state and with a result which satisfy `post`. -/
def Ends (procedure : (request : Call) → State → State × Except Failure (Answer request))
    (program : Program Call Answer Result) (start : State) (post : State → Result → Prop) : Prop :=
  ∃ reached result, program.run procedure start = (reached, .ok result) ∧ post reached result

theorem ends_pure {start : State} {result : Result} {post : State → Result → Prop}
    (hPost : post start result) :
    (pure result : Program Call Answer Result).Ends procedure start post :=
  ⟨start, result, rfl, hPost⟩

theorem ends_ask {request : Call} {start reached : State} {answer : Answer request}
    {post : State → Answer request → Prop}
    (hCall : procedure request start = (reached, .ok answer)) (hPost : post reached answer) :
    (ask request : Program Call Answer (Answer request)).Ends procedure start post :=
  ⟨reached, answer, run_call_ok hCall, hPost⟩

theorem Ends.bind {program : Program Call Answer Result}
    {next : Result → Program Call Answer Next} {start : State} {post : State → Next → Prop}
    (hEnds : program.Ends procedure start fun reached result =>
      (next result).Ends procedure reached post) :
    (program >>= next).Ends procedure start post := by
  induction program generalizing start with
  | done result =>
      obtain ⟨reached, ended, hRun, hNext⟩ := hEnds
      obtain ⟨rfl, hResult⟩ := Prod.mk.inj hRun
      obtain rfl := Except.ok.inj hResult
      exact hNext
  | call request continued ih =>
      obtain ⟨reached, result, hRun, final, value, hNext, hPost⟩ := hEnds
      obtain ⟨middle, answer, hAnswer, hRest⟩ := exists_of_run_call hRun
      obtain ⟨last, ended, hLast, hEnded⟩ :=
        ih answer ⟨reached, result, hRest, final, value, hNext, hPost⟩
      exact ⟨last, ended, (run_call_ok hAnswer).trans hLast, hEnded⟩

theorem Ends.mono {program : Program Call Answer Result} {start : State}
    {post weaker : State → Result → Prop} (hEnds : program.Ends procedure start post)
    (hPost : ∀ reached result, post reached result → weaker reached result) :
    program.Ends procedure start weaker := by
  obtain ⟨reached, result, hRun, hHolds⟩ := hEnds
  exact ⟨reached, result, hRun, hPost reached result hHolds⟩

end Program

end Library.Procedure
