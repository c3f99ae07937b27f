import Oakfield.Library.Memo

/-! The meaning of a node over an acyclic graph and a pure world: no table, no
state, and an equation for each node in terms of its body. -/
namespace Library.Memo

variable {Q C V E Err α β S W : Type}

/-- Run a body on known answers for nodes and for requests to the world. -/
def Program.interpret (answer : C → Q → Option (Except Err V)) (reply : E → Except Err V) (c : C) :
    Program Q C V E Err α → Option (Except Err α)
  | .pure a => some (.ok a)
  | .fail e => some (.error e)
  | .fault => none
  | .ask q next =>
      match answer c q with
      | none => none
      | some (.error e) => some (.error e)
      | some (.ok v) => (next v).interpret answer reply c
  | .askAt c' q next =>
      match answer c' q with
      | none => none
      | some (.error e) => some (.error e)
      | some (.ok v) => (next v).interpret answer reply c
  | .act e next =>
      match reply e with
      | .error err => some (.error err)
      | .ok v => (next v).interpret answer reply c

section Interpret

variable (answer : C → Q → Option (Except Err V)) (reply : E → Except Err V) (c : C)

attribute [local simp] Program.interpret

@[simp]
theorem interpret_pure (a : α) :
    (pure a : Program Q C V E Err α).interpret answer reply c = some (.ok a) := rfl

@[simp]
theorem interpret_fail (e : Err) :
    (.fail e : Program Q C V E Err α).interpret answer reply c = some (.error e) := rfl

@[simp]
theorem interpret_ask (q : Q) :
    (ask q : Program Q C V E Err V).interpret answer reply c = answer c q := by
  simp [ask]
  split <;> simp_all

@[simp]
theorem interpret_askAt (c' : C) (q : Q) :
    (askAt c' q : Program Q C V E Err V).interpret answer reply c = answer c' q := by
  simp [askAt]
  split <;> simp_all

@[simp]
theorem interpret_act (e : E) :
    (act e : Program Q C V E Err V).interpret answer reply c = some (reply e) := by
  simp [act]
  split <;> simp_all

@[simp]
theorem interpret_ofOption (a : Option α) :
    (ofOption a : Program Q C V E Err α).interpret answer reply c = a.map .ok := by
  cases a <;> rfl

@[simp]
theorem interpret_ofExcept (a : Except Err α) :
    (ofExcept a : Program Q C V E Err α).interpret answer reply c = some a := by
  cases a <;> rfl

/-- A sequence stops at the first fault or failure. -/
theorem interpret_bind (p : Program Q C V E Err α) (f : α → Program Q C V E Err β) :
    (p >>= f).interpret answer reply c =
      match p.interpret answer reply c with
      | none => none
      | some (.error e) => some (.error e)
      | some (.ok a) => (f a).interpret answer reply c := by
  change (p.bind f).interpret answer reply c = _
  induction p with
  | pure a => rfl
  | fail e => rfl
  | fault => rfl
  | ask q next ih =>
      simp only [Program.bind, Program.interpret]
      cases answer c q with
      | none => rfl
      | some r =>
          cases r with
          | error e => rfl
          | ok v => exact ih v
  | askAt c' q next ih =>
      simp only [Program.bind, Program.interpret]
      cases answer c' q with
      | none => rfl
      | some r =>
          cases r with
          | error e => rfl
          | ok v => exact ih v
  | act e next ih =>
      simp only [Program.bind, Program.interpret]
      cases reply e with
      | error err => rfl
      | ok v => exact ih v

/-- A sequence succeeds exactly if both parts do. -/
theorem interpret_bind_ok_iff {p : Program Q C V E Err α} {f : α → Program Q C V E Err β} {b : β} :
    (p >>= f).interpret answer reply c = some (.ok b) ↔
      ∃ a, p.interpret answer reply c = some (.ok a) ∧
        (f a).interpret answer reply c = some (.ok b) := by
  rw [interpret_bind]
  cases p.interpret answer reply c with
  | none => simp
  | some result => cases result <;> simp

/-- Only the answers for the nodes a body may ask for matter. -/
theorem Program.interpret_congr {answer answer' : C → Q → Option (Except Err V)} {P : Q → Prop}
    (hAnswer : ∀ c q, P q → answer c q = answer' c q) {p : Program Q C V E Err α}
    (hP : p.Within P) : p.interpret answer reply c = p.interpret answer' reply c := by
  induction p with
  | pure a => rfl
  | fail e => rfl
  | fault => rfl
  | ask q next ih =>
      simp only [Program.interpret, hAnswer c q hP.1]
      split
      · rfl
      · rfl
      · exact ih _ (hP.2 _)
  | askAt c' q next ih =>
      simp only [Program.interpret, hAnswer c' q hP.1]
      split
      · rfl
      · rfl
      · exact ih _ (hP.2 _)
  | act e next ih =>
      simp only [Program.interpret]
      split
      · rfl
      · exact ih _ (hP _)

end Interpret

/-- The value of a node with at most `fuel` nested requests. -/
def value (rules : Rules Q C V E Err) (reply : E → Except Err V) :
    ℕ → C → Q → Option (Except Err V)
  | 0, _, _ => none
  | fuel + 1, c, q =>
      match rules.reject q with
      | some e => some (.error e)
      | none => (rules.body c q).interpret (value rules reply fuel) reply c

/-- The value of a node, with the fuel its rank asks for. -/
def meaning (rules : Rules Q C V E Err) (reply : E → Except Err V) (rank : Q → ℕ) (c : C) (q : Q) :
    Option (Except Err V) :=
  value rules reply (rank q + 1) c q

variable {rules : Rules Q C V E Err} {good : Q → Prop} {rank : Q → ℕ} {reply : E → Except Err V}

theorem value_fuel (hRanked : Ranked rules good rank) {fuel₁ fuel₂ : ℕ} (c : C) (q : Q)
    (hGood : good q) (hFuel₁ : rank q < fuel₁) (hFuel₂ : rank q < fuel₂) :
    value rules reply fuel₁ c q = value rules reply fuel₂ c q := by
  induction fuel₁ generalizing fuel₂ c q with
  | zero => omega
  | succ fuel₁ ih =>
      cases fuel₂ with
      | zero => omega
      | succ fuel₂ =>
          cases hReject : rules.reject q with
          | some e => simp only [value, hReject]
          | none =>
              simp only [value, hReject]
              exact Program.interpret_congr reply c
                (fun c' q' hQ => ih c' q' hQ.1 (by omega) (by omega)) (hRanked c q hGood hReject)

/-- The meaning of a node is its body run on the meanings of other nodes. -/
theorem meaning_eq (hRanked : Ranked rules good rank) (c : C) {q : Q} (hGood : good q)
    (hReject : rules.reject q = none) :
    meaning rules reply rank c q =
      (rules.body c q).interpret (meaning rules reply rank) reply c := by
  simp only [meaning, value, hReject]
  exact Program.interpret_congr reply c
    (fun c' q' hQ => value_fuel hRanked c' q' hQ.1 hQ.2 (Nat.lt_succ_self _))
    (hRanked c q hGood hReject)

/-! ### Runs which end alike -/

/-- Two runs yield the same value, or an error each. -/
inductive SameEnd : Option (Except Err α) → Option (Except Err α) → Prop where
  | ok (a : α) : SameEnd (some (.ok a)) (some (.ok a))
  | error (e e' : Err) : SameEnd (some (.error e)) (some (.error e'))

theorem SameEnd.map {run run' : Option (Except Err α)} (hRuns : SameEnd run run') (f : α → β) :
    SameEnd (run.map fun result => result.map f) (run'.map fun result => result.map f) := by
  cases hRuns with
  | ok a => exact .ok (f a)
  | error e e' => exact .error e e'

theorem SameEnd.bind {answer answer' : C → Q → Option (Except Err V)} {reply reply' : E → Except Err V}
    {c c' : C} {p p' : Program Q C V E Err α} {f f' : α → Program Q C V E Err β}
    (hFirst : SameEnd (p.interpret answer reply c) (p'.interpret answer' reply' c'))
    (hNext : ∀ a, SameEnd ((f a).interpret answer reply c) ((f' a).interpret answer' reply' c')) :
    SameEnd ((p >>= f).interpret answer reply c) ((p' >>= f').interpret answer' reply' c') := by
  rw [interpret_bind, interpret_bind]
  generalize p.interpret answer reply c = run, p'.interpret answer' reply' c' = run' at hFirst ⊢
  cases hFirst with
  | ok a => exact hNext a
  | error e e' => exact .error e e'

/-! ### Evaluation yields the meaning -/

theorem Program.run_noTable {world : E → W → Except Err V × W}
    (hReply : ∀ e w, world e w = (reply e, w))
    {eval' : C → Q → Unit → W → Option (Except Err V × Unit × W)}
    {answer : C → Q → Option (Except Err V)}
    (hEval : ∀ c q w, eval' c q () w = (answer c q).map fun r => (r, (), w)) (c : C)
    (p : Program Q C V E Err α) (w : W) (rules : Rules Q C V E Err) :
    p.run rules noTable world eval' c () w =
      (p.interpret answer reply c).map fun r => (r, (), w) := by
  induction p generalizing w with
  | pure a => rfl
  | fail e => rfl
  | fault => rfl
  | ask q next ih =>
      simp only [Program.run, Program.interpret, hEval]
      cases answer c q with
      | none => rfl
      | some r =>
          cases r with
          | error e => rfl
          | ok v => exact ih v w
  | askAt c' q next ih =>
      simp only [Program.run, Program.interpret, noTable, hEval]
      cases answer c' q with
      | none => rfl
      | some r =>
          cases r with
          | error e => rfl
          | ok v => exact ih v w
  | act e next ih =>
      simp only [Program.run, Program.interpret, hReply]
      cases reply e with
      | error err => rfl
      | ok v => exact ih v w

theorem eval_noTable {world : E → W → Except Err V × W} (hReply : ∀ e w, world e w = (reply e, w))
    (fuel : ℕ) (c : C) (q : Q) (w : W) :
    eval rules noTable world fuel c q () w =
      (value rules reply fuel c q).map fun r => (r, (), w) := by
  induction fuel generalizing c q w with
  | zero => rfl
  | succ fuel ih =>
      cases hReject : rules.reject q with
      | some e => simp only [eval, value, hReject, Option.map_some]
      | none =>
          have hLook : (noTable : Table Unit Q V).look () q = some .clean := rfl
          have hMark : (noTable : Table Unit Q V).mark () q = () := rfl
          simp only [eval, value, hReject, hLook, hMark]
          rw [Program.run_noTable hReply (fun c q w => ih c q w) c _ w]
          cases (rules.body c q).interpret (value rules reply fuel) reply c with
          | none => rfl
          | some r => cases r <;> rfl

/-- A table is valid in every state of a pure world. -/
theorem Valid.anyWorld {world : E → W → Except Err V × W} (hWorld : PureWorld world) {c : C} {w : W}
    {tbl : Q → Slot V} (hValid : Valid rules world rank c w tbl) (w' : W) :
    Valid rules world rank c w' tbl := by
  intro q v hDone fuel hFuel
  obtain ⟨reply, hReply⟩ := hWorld
  have hHere := hValid q v hDone fuel hFuel
  rw [eval_noTable hReply] at hHere ⊢
  cases hValue : value rules reply fuel c q with
  | none => rw [hValue] at hHere; cases hHere
  | some r =>
      rw [hValue] at hHere
      cases hHere
      rfl

/-- Over an acyclic graph and a pure world, evaluation with an empty table
yields the meaning of the node and leaves the world as it was. -/
theorem eval_fresh [DecidableEq Q] (hRanked : Ranked rules good rank)
    {world : E → W → Except Err V × W} (hReply : ∀ e w, world e w = (reply e, w)) {fuel : ℕ} (c : C)
    (q : Q) (rest : List (Q → Slot V)) (w : W) (hGood : good q) (hFuel : rank q < fuel) :
    ∃ tbl, eval rules fresh world fuel c q ((fun _ => .clean) :: rest) w =
      (meaning rules reply rank c q).map fun r => (r, tbl :: rest, w) := by
  obtain ⟨r, tbl, hFresh, hPlain, -, -⟩ := eval_transparent hRanked ⟨reply, hReply⟩ c q rest w hGood
    hFuel (Valid.empty rules world rank c w) fun q' hActive => by cases hActive
  rw [eval_noTable hReply, value_fuel hRanked c q hGood hFuel (Nat.lt_succ_self _)] at hPlain
  refine ⟨tbl, ?_⟩
  rw [hFresh, meaning]
  cases hValue : value rules reply (rank q + 1) c q with
  | none => rw [hValue] at hPlain; cases hPlain
  | some r' =>
      rw [hValue] at hPlain
      simp only [Option.map_some, Option.some.injEq, Prod.mk.injEq, and_true] at hPlain
      rw [Option.map_some, hPlain]

end Library.Memo
