import Mathlib.Data.Nat.Notation
import Mathlib.Logic.Function.Basic
import Mathlib.Tactic.TypeStar

/-! Memoised evaluation of nodes which ask for the values of other nodes. The
body of a node is a small program; one evaluator runs it over any table of
slots, so that tables can be compared with each other and with no table. -/
namespace Library.Memo

/-- The body of a node. It may ask for another node in the same context or,
through a nested table, in another one, and it may act on the outside world.
Failures stop the whole evaluation; a fault is undefined behaviour. -/
inductive Program (Q C V E Err α : Type) where
  | pure (a : α)
  | fail (e : Err)
  | fault
  | ask (q : Q) (next : V → Program Q C V E Err α)
  | askAt (c : C) (q : Q) (next : V → Program Q C V E Err α)
  | act (e : E) (next : V → Program Q C V E Err α)

section Types

variable {Q C V E Err α β S W : Type}

namespace Program

def bind : Program Q C V E Err α → (α → Program Q C V E Err β) → Program Q C V E Err β
  | .pure a, f => f a
  | .fail e, _ => .fail e
  | .fault, _ => .fault
  | .ask q next, f => .ask q fun v => (next v).bind f
  | .askAt c q next, f => .askAt c q fun v => (next v).bind f
  | .act e next, f => .act e fun v => (next v).bind f

instance : Monad (Program Q C V E Err) where
  pure := .pure
  bind := bind

/-- The program cannot fault and asks only for nodes satisfying `P`. -/
def Within (P : Q → Prop) : Program Q C V E Err α → Prop
  | .pure _ => True
  | .fail _ => True
  | .fault => False
  | .ask q next => P q ∧ ∀ v, (next v).Within P
  | .askAt _ q next => P q ∧ ∀ v, (next v).Within P
  | .act _ next => ∀ v, (next v).Within P

/-- The program, run in context `c`, cannot fault, asks only for nodes in contexts
satisfying `P`, and acts only as `A` permits. -/
def WithinAt (P : C → Q → Prop) (A : E → Prop) (c : C) : Program Q C V E Err α → Prop
  | .pure _ => True
  | .fail _ => True
  | .fault => False
  | .ask q next => P c q ∧ ∀ v, (next v).WithinAt P A c
  | .askAt c' q next => P c' q ∧ ∀ v, (next v).WithinAt P A c
  | .act e next => A e ∧ ∀ v, (next v).WithinAt P A c

theorem Within.bind {P : Q → Prop} {p : Program Q C V E Err α}
    {f : α → Program Q C V E Err β} (hP : p.Within P) (hF : ∀ a, (f a).Within P) :
    (p >>= f).Within P := by
  change (p.bind f).Within P
  induction p with
  | pure a => exact hF a
  | fail e => trivial
  | fault => exact hP.elim
  | ask q next ih => exact ⟨hP.1, fun v => ih v (hP.2 v)⟩
  | askAt c q next ih => exact ⟨hP.1, fun v => ih v (hP.2 v)⟩
  | act e next ih => exact fun v => ih v (hP v)

theorem Within.mono {P P' : Q → Prop} (hPP : ∀ q, P q → P' q) {p : Program Q C V E Err α}
    (hP : p.Within P) : p.Within P' := by
  induction p with
  | pure a => trivial
  | fail e => trivial
  | fault => exact hP.elim
  | ask q next ih => exact ⟨hPP q hP.1, fun v => ih v (hP.2 v)⟩
  | askAt c q next ih => exact ⟨hPP q hP.1, fun v => ih v (hP.2 v)⟩
  | act e next ih => exact fun v => ih v (hP v)

theorem WithinAt.bind {P : C → Q → Prop} {A : E → Prop} {c : C} {p : Program Q C V E Err α}
    {f : α → Program Q C V E Err β} (hP : p.WithinAt P A c) (hF : ∀ a, (f a).WithinAt P A c) :
    (p >>= f).WithinAt P A c := by
  change (p.bind f).WithinAt P A c
  induction p with
  | pure a => exact hF a
  | fail e => trivial
  | fault => exact hP.elim
  | ask q next ih => exact ⟨hP.1, fun v => ih v (hP.2 v)⟩
  | askAt c' q next ih => exact ⟨hP.1, fun v => ih v (hP.2 v)⟩
  | act e next ih => exact ⟨hP.1, fun v => ih v (hP.2 v)⟩

theorem WithinAt.mono {P P' : C → Q → Prop} {A A' : E → Prop} {c : C}
    (hPP : ∀ c q, P c q → P' c q) (hAA : ∀ e, A e → A' e) {p : Program Q C V E Err α}
    (hP : p.WithinAt P A c) : p.WithinAt P' A' c := by
  induction p with
  | pure a => trivial
  | fail e => trivial
  | fault => exact hP.elim
  | ask q next ih => exact ⟨hPP c q hP.1, fun v => ih v (hP.2 v)⟩
  | askAt c' q next ih => exact ⟨hPP c' q hP.1, fun v => ih v (hP.2 v)⟩
  | act e next ih => exact ⟨hAA e hP.1, fun v => ih v (hP.2 v)⟩

/-- Bounds which hold in every context and for every act. -/
theorem Within.withinAt {P : Q → Prop} (c : C) {p : Program Q C V E Err α} (hP : p.Within P) :
    p.WithinAt (fun _ => P) (fun _ => True) c := by
  induction p with
  | pure a => trivial
  | fail e => trivial
  | fault => exact hP.elim
  | ask q next ih => exact ⟨hP.1, fun v => ih v (hP.2 v)⟩
  | askAt c' q next ih => exact ⟨hP.1, fun v => ih v (hP.2 v)⟩
  | act e next ih => exact ⟨trivial, fun v => ih v (hP v)⟩

theorem WithinAt.within {P : C → Q → Prop} {P' : Q → Prop} {A : E → Prop} {c : C}
    (hPP : ∀ c q, P c q → P' q) {p : Program Q C V E Err α} (hP : p.WithinAt P A c) :
    p.Within P' := by
  induction p with
  | pure a => trivial
  | fail e => trivial
  | fault => exact hP.elim
  | ask q next ih => exact ⟨hPP c q hP.1, fun v => ih v (hP.2 v)⟩
  | askAt c' q next ih => exact ⟨hPP c' q hP.1, fun v => ih v (hP.2 v)⟩
  | act e next ih => exact fun v => ih v (hP.2 v)

end Program

/-- Ask for a node in the current context. -/
def ask (q : Q) : Program Q C V E Err V := .ask q .pure

/-- Ask for a node in another context, over a nested table. -/
def askAt (c : C) (q : Q) : Program Q C V E Err V := .askAt c q .pure

def act (e : E) : Program Q C V E Err V := .act e .pure

/-- Undefined behaviour when a partial primitive has no result. -/
def ofOption : Option α → Program Q C V E Err α
  | some a => .pure a
  | none => .fault

def ofExcept : Except Err α → Program Q C V E Err α
  | .ok a => .pure a
  | .error e => .fail e

section Within

variable {P : Q → Prop}

theorem within_pure (a : α) : (pure a : Program Q C V E Err α).Within P :=
  trivial

theorem within_ofExcept (result : Except Err α) :
    (ofExcept result : Program Q C V E Err α).Within P := by
  cases result <;> trivial

theorem within_ask {q : Q} (hQ : P q) : (ask q : Program Q C V E Err V).Within P :=
  ⟨hQ, fun _ => trivial⟩

/-- A sequence which starts by asking for a permitted node. -/
theorem within_ask_bind {q : Q} (hQ : P q) {next : V → Program Q C V E Err α}
    (hNext : ∀ v, (next v).Within P) : (ask q >>= next).Within P :=
  Program.Within.bind (within_ask hQ) hNext

end Within

section WithinAt

variable {P : C → Q → Prop} {A : E → Prop} {c : C}

theorem withinAt_pure (a : α) : (pure a : Program Q C V E Err α).WithinAt P A c :=
  trivial

theorem withinAt_ofExcept (result : Except Err α) :
    (ofExcept result : Program Q C V E Err α).WithinAt P A c := by
  cases result <;> trivial

theorem withinAt_ask {q : Q} (hQ : P c q) : (ask q : Program Q C V E Err V).WithinAt P A c :=
  ⟨hQ, fun _ => trivial⟩

theorem withinAt_askAt {c' : C} {q : Q} (hQ : P c' q) :
    (askAt c' q : Program Q C V E Err V).WithinAt P A c :=
  ⟨hQ, fun _ => trivial⟩

theorem withinAt_act {e : E} (hE : A e) : (act e : Program Q C V E Err V).WithinAt P A c :=
  ⟨hE, fun _ => trivial⟩

/-- A sequence which starts by asking for a permitted node. -/
theorem withinAt_ask_bind {q : Q} (hQ : P c q) {next : V → Program Q C V E Err α}
    (hNext : ∀ v, (next v).WithinAt P A c) : (ask q >>= next).WithinAt P A c :=
  Program.WithinAt.bind (withinAt_ask hQ) hNext

end WithinAt

/-! ### Tables -/

inductive Slot (V : Type) where
  | clean
  | active
  | done (v : V)
deriving DecidableEq, Repr

/-- A stack of tables of slots. Looking up a slot outside the table is a fault;
entering a nested table may fail. -/
structure Table (S Q V : Type) where
  look : S → Q → Option (Slot V)
  mark : S → Q → S
  store : S → Q → V → S
  clear : S → Q → S
  enter : S → S × Bool
  leave : S → S

/-- A stack of unbounded tables, empty when entered. -/
def fresh [DecidableEq Q] : Table (List (Q → Slot V)) Q V where
  look s q := s.head?.map (· q)
  mark s q := s.modifyHead fun t => Function.update t q .active
  store s q v := s.modifyHead fun t => Function.update t q (.done v)
  clear s q := s.modifyHead fun t => Function.update t q .clean
  enter s := ((fun _ => .clean) :: s, true)
  leave s := s.tail

/-- No table at all: every node is evaluated each time it is asked for. -/
def noTable : Table Unit Q V where
  look _ _ := some .clean
  mark s _ := s
  store s _ _ := s
  clear s _ := s
  enter s := (s, true)
  leave s := s

section Fresh

variable [DecidableEq Q] (tbl : Q → Slot V) (rest : List (Q → Slot V)) (q : Q)

@[simp]
theorem fresh_look : fresh.look (tbl :: rest) q = some (tbl q) := rfl

@[simp]
theorem fresh_mark :
    fresh.mark (tbl :: rest) q = Function.update tbl q .active :: rest := rfl

@[simp]
theorem fresh_store (v : V) :
    fresh.store (tbl :: rest) q v = Function.update tbl q (.done v) :: rest := rfl

@[simp]
theorem fresh_clear :
    fresh.clear (tbl :: rest) q = Function.update tbl q .clean :: rest := rfl

@[simp]
theorem fresh_leave : fresh.leave (tbl :: rest) = rest := rfl

end Fresh

/-! ### Evaluation -/

/-- What is evaluated: nodes refused without a lookup, the error of a node
which needs itself, the error of a failed `enter`, and the bodies. -/
structure Rules (Q C V E Err : Type) where
  reject : Q → Option Err
  cyclic : Err
  exhausted : Err
  body : C → Q → Program Q C V E Err V

/-- Run a body, given the evaluator for the nodes it asks for. There is no
result after a fault. -/
def Program.run (rules : Rules Q C V E Err) (table : Table S Q V)
    (world : E → W → Except Err V × W)
    (eval : C → Q → S → W → Option (Except Err V × S × W)) (c : C) :
    Program Q C V E Err α → S → W → Option (Except Err α × S × W)
  | .pure a, s, w => some (.ok a, s, w)
  | .fail e, s, w => some (.error e, s, w)
  | .fault, _, _ => none
  | .ask q next, s, w =>
      match eval c q s w with
      | none => none
      | some (.error e, s, w) => some (.error e, s, w)
      | some (.ok v, s, w) => (next v).run rules table world eval c s w
  | .askAt c' q next, s, w =>
      match table.enter s with
      | (s, false) => some (.error rules.exhausted, s, w)
      | (s, true) =>
          match eval c' q s w with
          | none => none
          | some (.error e, s, w) => some (.error e, table.leave s, w)
          | some (.ok v, s, w) => (next v).run rules table world eval c (table.leave s) w
  | .act e next, s, w =>
      match world e w with
      | (.error e, w) => some (.error e, s, w)
      | (.ok v, w) => (next v).run rules table world eval c s w

/-- Evaluate a node with at most `fuel` nested requests. A finished node is
answered from its slot, an active one is a cycle; a clean one is marked active
while its body runs. -/
def eval (rules : Rules Q C V E Err) (table : Table S Q V) (world : E → W → Except Err V × W) :
    ℕ → C → Q → S → W → Option (Except Err V × S × W)
  | 0, _, _, _, _ => none
  | fuel + 1, c, q, s, w =>
      match rules.reject q with
      | some e => some (.error e, s, w)
      | none =>
          match table.look s q with
          | none => none
          | some (.done v) => some (.ok v, s, w)
          | some .active => some (.error rules.cyclic, s, w)
          | some .clean =>
              match (rules.body c q).run rules table world (eval rules table world fuel) c
                (table.mark s q) w with
              | none => none
              | some (.ok v, s, w) => some (.ok v, table.store s q v, w)
              | some (.error e, s, w) => some (.error e, table.clear s q, w)

/-- Bodies of good nodes cannot fault and ask only for good nodes of a smaller
rank, so the nodes form an acyclic graph. -/
def Ranked (rules : Rules Q C V E Err) (good : Q → Prop) (rank : Q → ℕ) : Prop :=
  ∀ c q, good q → rules.reject q = none →
    (rules.body c q).Within fun q' => good q' ∧ rank q' < rank q

variable {rules : Rules Q C V E Err} {good : Q → Prop} {rank : Q → ℕ}

/-! ### Rules which agree -/

/-- A body within `P` and `A` sees the evaluator and the world only there. -/
theorem Program.run_congrAt {rules' : Rules Q C V E Err}
    (hExhausted : rules.exhausted = rules'.exhausted) {table : Table S Q V}
    {world world' : E → W → Except Err V × W}
    {eval₁ eval₂ : C → Q → S → W → Option (Except Err V × S × W)} {P : C → Q → Prop} {A : E → Prop}
    (hEval : ∀ c q s w, P c q → eval₁ c q s w = eval₂ c q s w)
    (hWorld : ∀ e, A e → world e = world' e) (c : C) {p : Program Q C V E Err α}
    (hP : p.WithinAt P A c) (s : S) (w : W) :
    p.run rules table world eval₁ c s w = p.run rules' table world' eval₂ c s w := by
  induction p generalizing s w with
  | pure a => rfl
  | fail e => rfl
  | fault => rfl
  | ask q next ih =>
      simp only [Program.run, hEval c q s w hP.1]
      split
      · rfl
      · rfl
      · exact ih _ (hP.2 _) _ _
  | askAt c' q next ih =>
      simp only [Program.run, hEval c' q _ w hP.1, hExhausted]
      split
      · rfl
      · split
        · rfl
        · rfl
        · exact ih _ (hP.2 _) _ _
  | act e next ih =>
      simp only [Program.run, hWorld e hP.1]
      split
      · rfl
      · exact ih _ (hP.2 _) _ _

/-- Rules whose bodies agree on nodes in contexts closed under asking evaluate
these alike, over any table. -/
theorem eval_congr {rules' : Rules Q C V E Err} (table : Table S Q V)
    {world world' : E → W → Except Err V × W} {P : C → Q → Prop} {A : E → Prop}
    (hReject : rules.reject = rules'.reject) (hCyclic : rules.cyclic = rules'.cyclic)
    (hExhausted : rules.exhausted = rules'.exhausted)
    (hBody : ∀ c q, P c q → rules.body c q = rules'.body c q)
    (hWithin : ∀ c q, P c q → (rules.body c q).WithinAt P A c)
    (hWorld : ∀ e, A e → world e = world' e) (fuel : ℕ) {c : C} {q : Q} (hP : P c q) (s : S)
    (w : W) : eval rules table world fuel c q s w = eval rules' table world' fuel c q s w := by
  induction fuel generalizing c q s w with
  | zero => rfl
  | succ fuel ih =>
      have hRun : (rules.body c q).run rules table world (eval rules table world fuel) c
          (table.mark s q) w = (rules'.body c q).run rules' table world'
          (eval rules' table world' fuel) c (table.mark s q) w := by
        rw [← hBody c q hP]
        exact Program.run_congrAt hExhausted (fun c q s w hQ => ih hQ s w) hWorld c
          (hWithin c q hP) _ _
      simp only [eval, hReject, hCyclic, hRun]

/-! ### Fuel -/

/-- Fuel above the rank of the node is never exhausted, so its amount does not
matter. -/
theorem eval_fuel (hRanked : Ranked rules good rank) (table : Table S Q V)
    (world : E → W → Except Err V × W) {fuel₁ fuel₂ : ℕ} (c : C) (q : Q) (s : S) (w : W)
    (hGood : good q) (hFuel₁ : rank q < fuel₁) (hFuel₂ : rank q < fuel₂) :
    eval rules table world fuel₁ c q s w = eval rules table world fuel₂ c q s w := by
  induction fuel₁ generalizing fuel₂ c q s w with
  | zero => omega
  | succ fuel₁ ih =>
      cases fuel₂ with
      | zero => omega
      | succ fuel₂ =>
          cases hReject : rules.reject q with
          | some e => simp only [eval, hReject]
          | none =>
              have hBody : (rules.body c q).run rules table world (eval rules table world fuel₁) c
                  (table.mark s q) w = (rules.body c q).run rules table world
                  (eval rules table world fuel₂) c (table.mark s q) w := by
                refine Program.run_congrAt rfl (fun c' q' s' w' hQ => ?_) (fun _ _ => rfl) c
                  ((hRanked c q hGood hReject).withinAt c) _ _
                exact ih c' q' s' w' hQ.1 (by omega) (by omega)
              simp only [eval, hReject, hBody]

/-! ### Simulation by fresh tables -/

section Simulation

variable [DecidableEq Q]

/-- States of a table which correspond to stacks of unbounded tables: they answer
lookups of good nodes alike and correspond after every operation. When `enter`
fails the stack is as before. -/
structure Simulation (t : Table S Q V) (R : S → List (Q → Slot V) → Prop) (good : Q → Prop) :
    Prop where
  look : ∀ s tbl rest q, R s (tbl :: rest) → good q → t.look s q = some (tbl q)
  mark : ∀ s tbl rest q, R s (tbl :: rest) → good q →
    R (t.mark s q) (Function.update tbl q .active :: rest)
  store : ∀ s tbl rest q v, R s (tbl :: rest) → good q → tbl q = .active →
    R (t.store s q v) (Function.update tbl q (.done v) :: rest)
  clear : ∀ s tbl rest q, R s (tbl :: rest) → good q → tbl q = .active →
    R (t.clear s q) (Function.update tbl q .clean :: rest)
  enter : ∀ s tbls, R s tbls → (t.enter s).2 = true →
    R (t.enter s).1 ((fun _ => .clean) :: tbls)
  enterFail : ∀ s tbls, R s tbls → (t.enter s).2 = false → R (t.enter s).1 tbls
  leave : ∀ s tbl rest, R s (tbl :: rest) → rest ≠ [] → R (t.leave s) rest

/-- The outcome over a table: there is one, it ends in a state for the same
stack but for the top, where active slots stay active, and it is the outcome
over the fresh tables unless a nested table could not be entered. -/
def Simulated (rules : Rules Q C V E Err) (R : S → List (Q → Slot V) → Prop) (tbl : Q → Slot V)
    (rest : List (Q → Slot V)) (out₁ : Option (Except Err α × S × W))
    (out₂ : Option (Except Err α × List (Q → Slot V) × W)) : Prop :=
  ∃ r s w tbl', out₁ = some (r, s, w) ∧ R s (tbl' :: rest) ∧
    (∀ q, tbl q = .active → tbl' q = .active) ∧
    (r = .error rules.exhausted ∨ out₂ = some (r, tbl' :: rest, w))

variable {t : Table S Q V} {R : S → List (Q → Slot V) → Prop}

theorem Program.run_simulated (hSim : Simulation t R good) {world : E → W → Except Err V × W}
    {eval₁ : C → Q → S → W → Option (Except Err V × S × W)}
    {eval₂ : C → Q → List (Q → Slot V) → W → Option (Except Err V × List (Q → Slot V) × W)}
    {P : Q → Prop}
    (hEval : ∀ c q s tbl rest w, P q → R s (tbl :: rest) →
      Simulated rules R tbl rest (eval₁ c q s w) (eval₂ c q (tbl :: rest) w)) (c : C)
    {p : Program Q C V E Err α} (hP : p.Within P) {s : S} {tbl : Q → Slot V}
    {rest : List (Q → Slot V)} (hR : R s (tbl :: rest)) (w : W) :
    Simulated rules R tbl rest (p.run rules t world eval₁ c s w)
      (p.run rules fresh world eval₂ c (tbl :: rest) w) := by
  induction p generalizing s tbl w with
  | pure a => exact ⟨.ok a, s, w, tbl, rfl, hR, fun _ h => h, Or.inr rfl⟩
  | fail e => exact ⟨.error e, s, w, tbl, rfl, hR, fun _ h => h, Or.inr rfl⟩
  | fault => exact hP.elim
  | ask q next ih =>
      obtain ⟨r, s', w', tbl', hLeft, hR', hActive, hRight⟩ := hEval c q s tbl rest w hP.1 hR
      cases r with
      | error e =>
          refine ⟨.error e, s', w', tbl', by simp only [Program.run, hLeft], hR', hActive, ?_⟩
          rcases hRight with hFail | hRight
          · exact Or.inl (by cases hFail; rfl)
          · exact Or.inr (by simp only [Program.run, hRight])
      | ok v =>
          rcases hRight with hFail | hRight
          · cases hFail
          · obtain ⟨r, s'', w'', tbl'', hL, hR'', hActive', hRest⟩ := ih v (hP.2 v) hR' w'
            exact ⟨r, s'', w'', tbl'', by simpa only [Program.run, hLeft] using hL, hR'',
              fun q h => hActive' q (hActive q h), by simpa only [Program.run, hRight] using hRest⟩
  | askAt c' q next ih =>
      cases hEnter : t.enter s with
      | mk sEntered entered =>
          cases entered with
          | false =>
              have hFail := hSim.enterFail s _ hR (by rw [hEnter])
              rw [hEnter] at hFail
              exact ⟨_, sEntered, w, tbl, by simp only [Program.run, hEnter], hFail, fun _ h => h,
                Or.inl rfl⟩
          | true =>
              have hEntered := hSim.enter s _ hR (by rw [hEnter])
              rw [hEnter] at hEntered
              obtain ⟨r, s', w', tbl', hLeft, hR', -, hRight⟩ :=
                hEval c' q _ _ _ w hP.1 hEntered
              have hLeave := hSim.leave s' tbl' _ hR' (List.cons_ne_nil _ _)
              cases r with
              | error e =>
                  refine ⟨.error e, _, w', tbl, by simp only [Program.run, hEnter, hLeft], hLeave,
                    fun _ h => h, ?_⟩
                  rcases hRight with hFail | hRight
                  · exact Or.inl (by cases hFail; rfl)
                  · exact Or.inr (by simp only [Program.run, fresh, hRight, List.tail_cons])
              | ok v =>
                  rcases hRight with hFail | hRight
                  · cases hFail
                  · obtain ⟨r, s'', w'', tbl'', hL, hR'', hActive, hRest⟩ :=
                      ih v (hP.2 v) hLeave w'
                    refine ⟨r, s'', w'', tbl'', ?_, hR'', hActive, ?_⟩
                    · simpa only [Program.run, hEnter, hLeft] using hL
                    · simpa only [Program.run, fresh, hRight, List.tail_cons] using hRest
  | act e next ih =>
      cases hAct : world e w with
      | mk r w' =>
          cases r with
          | error err =>
              exact ⟨.error err, s, w', tbl, by simp only [Program.run, hAct], hR, fun _ h => h,
                Or.inr (by simp only [Program.run, hAct])⟩
          | ok v => simpa only [Program.run, hAct] using ih v (hP v) hR w'

/-- Evaluation over a table which simulates fresh ones has an outcome, the same
as over the fresh ones. -/
theorem eval_simulated (hRanked : Ranked rules good rank) (hSim : Simulation t R good)
    (world : E → W → Except Err V × W) {fuel : ℕ} (c : C) (q : Q) {s : S} {tbl : Q → Slot V}
    {rest : List (Q → Slot V)} (w : W) (hGood : good q) (hFuel : rank q < fuel)
    (hR : R s (tbl :: rest)) :
    Simulated rules R tbl rest (eval rules t world fuel c q s w)
      (eval rules fresh world fuel c q (tbl :: rest) w) := by
  induction fuel generalizing c q s tbl rest w with
  | zero => omega
  | succ fuel ih =>
      cases hReject : rules.reject q with
      | some e =>
          exact ⟨.error e, s, w, tbl, by simp only [eval, hReject], hR, fun _ h => h,
            Or.inr (by simp only [eval, hReject])⟩
      | none =>
          have hLook := hSim.look s tbl rest q hR hGood
          cases hSlot : tbl q with
          | done v =>
              exact ⟨.ok v, s, w, tbl, by simp only [eval, hReject, hLook, hSlot], hR, fun _ h => h,
                Or.inr (by simp only [eval, hReject, fresh_look, hSlot])⟩
          | active =>
              exact ⟨.error rules.cyclic, s, w, tbl, by simp only [eval, hReject, hLook, hSlot], hR,
                fun _ h => h, Or.inr (by simp only [eval, hReject, fresh_look, hSlot])⟩
          | clean =>
              have hBody : Simulated rules R (Function.update tbl q .active) rest
                  ((rules.body c q).run rules t world (eval rules t world fuel) c (t.mark s q) w)
                  ((rules.body c q).run rules fresh world (eval rules fresh world fuel) c
                    (Function.update tbl q .active :: rest) w) :=
                Program.run_simulated hSim
                  (fun c' q' u tbl rest w' hQ hU => ih c' q' w' hQ.1 (by omega) hU) c
                  (hRanked c q hGood hReject) (hSim.mark s tbl rest q hR hGood) w
              obtain ⟨r, s', w', tbl', hLeft, hR', hActive, hRight⟩ := hBody
              -- The body leaves its own slot active, and those which were active before.
              have hSelf : tbl' q = .active := hActive q (Function.update_self ..)
              have hOthers : ∀ (slot : Slot V) q', tbl q' = .active →
                  Function.update tbl' q slot q' = .active := by
                intro slot q' hQ
                have hNe : q' ≠ q := by
                  rintro rfl
                  rw [hSlot] at hQ
                  cases hQ
                rw [Function.update_of_ne hNe]
                exact hActive q' (by rw [Function.update_of_ne hNe]; exact hQ)
              cases r with
              | error e =>
                  refine ⟨.error e, _, w', _, by simp only [eval, hReject, hLook, hSlot, hLeft],
                    hSim.clear _ _ _ q hR' hGood hSelf, hOthers .clean, ?_⟩
                  rcases hRight with hFail | hRight
                  · exact Or.inl (by cases hFail; rfl)
                  · exact Or.inr (by
                      simp only [eval, hReject, fresh_look, hSlot, fresh_mark, hRight, fresh_clear])
              | ok v =>
                  rcases hRight with hFail | hRight
                  · cases hFail
                  · exact ⟨.ok v, _, w', _, by simp only [eval, hReject, hLook, hSlot, hLeft],
                      hSim.store _ _ _ q v hR' hGood hSelf, hOthers (.done v),
                      Or.inr (by
                        simp only [eval, hReject, fresh_look, hSlot, fresh_mark, hRight,
                          fresh_store])⟩

end Simulation

/-! ### Transparency -/

/-- Answers of the outside world depend on the request alone. -/
def PureWorld (world : E → W → Except Err V × W) : Prop :=
  ∃ answer : E → Except Err V, ∀ e w, world e w = (answer e, w)

/-- Finished slots hold what evaluation without a table yields. -/
def Valid (rules : Rules Q C V E Err) (world : E → W → Except Err V × W) (rank : Q → ℕ) (c : C)
    (w : W) (tbl : Q → Slot V) : Prop :=
  ∀ q v, tbl q = .done v → ∀ fuel, rank q < fuel →
    eval rules noTable world fuel c q () w = some (.ok v, (), w)

/-- The outcome over a table is the outcome without one; it leaves the world
alone, keeps the table valid and the same slots active. -/
def Transparent (rules : Rules Q C V E Err) (world : E → W → Except Err V × W) (rank : Q → ℕ)
    (c : C) (tbl : Q → Slot V) (rest : List (Q → Slot V)) (w : W)
    (out₁ : Option (Except Err α × List (Q → Slot V) × W))
    (out₂ : Option (Except Err α × Unit × W)) : Prop :=
  ∃ r tbl', out₁ = some (r, tbl' :: rest, w) ∧ out₂ = some (r, (), w) ∧
    Valid rules world rank c w tbl' ∧ ∀ q, tbl' q = .active ↔ tbl q = .active

theorem Valid.empty (rules : Rules Q C V E Err) (world : E → W → Except Err V × W) (rank : Q → ℕ)
    (c : C) (w : W) : Valid rules world rank c w fun _ => .clean := by
  intro q v hDone
  cases hDone

variable [DecidableEq Q] {world : E → W → Except Err V × W}

/-- Changing one slot keeps a table valid when a finished slot is correct. -/
theorem Valid.update {c : C} {w : W} {tbl : Q → Slot V} (hValid : Valid rules world rank c w tbl)
    (q : Q) (slot : Slot V)
    (hSlot : ∀ v, slot = .done v → ∀ fuel, rank q < fuel →
      eval rules noTable world fuel c q () w = some (.ok v, (), w)) :
    Valid rules world rank c w (Function.update tbl q slot) := by
  intro q' v hDone
  by_cases hEq : q' = q
  · subst hEq
    rw [Function.update_self] at hDone
    exact hSlot v hDone
  · rw [Function.update_of_ne hEq] at hDone
    exact hValid q' v hDone

theorem Program.run_transparent (hWorld : PureWorld world) {bound : ℕ}
    {eval₁ : C → Q → List (Q → Slot V) → W → Option (Except Err V × List (Q → Slot V) × W)}
    {eval₂ : C → Q → Unit → W → Option (Except Err V × Unit × W)}
    (hEval : ∀ c q tbl rest w, good q → rank q < bound → Valid rules world rank c w tbl →
      (∀ q', tbl q' = .active → rank q < rank q') →
      Transparent rules world rank c tbl rest w (eval₁ c q (tbl :: rest) w) (eval₂ c q () w))
    (c : C) {p : Program Q C V E Err α} (hP : p.Within fun q => good q ∧ rank q < bound)
    {tbl : Q → Slot V} (w : W) (hValid : Valid rules world rank c w tbl)
    (hActive : ∀ q, tbl q = .active → bound ≤ rank q) (rest : List (Q → Slot V)) :
    Transparent rules world rank c tbl rest w
      (p.run rules fresh world eval₁ c (tbl :: rest) w)
      (p.run rules noTable world eval₂ c () w) := by
  induction p generalizing tbl with
  | pure a => exact ⟨.ok a, tbl, rfl, rfl, hValid, fun _ => Iff.rfl⟩
  | fail e => exact ⟨.error e, tbl, rfl, rfl, hValid, fun _ => Iff.rfl⟩
  | fault => exact hP.elim
  | ask q next ih =>
      obtain ⟨r, tbl', hLeft, hRight, hValid', hSame⟩ :=
        hEval c q tbl rest w hP.1.1 hP.1.2 hValid fun q' h =>
          Nat.lt_of_lt_of_le hP.1.2 (hActive q' h)
      cases r with
      | error e =>
          exact ⟨.error e, tbl', by simp only [Program.run, hLeft],
            by simp only [Program.run, hRight], hValid', hSame⟩
      | ok v =>
          obtain ⟨r, tbl'', hL, hR, hValid'', hSame'⟩ :=
            ih v (hP.2 v) hValid' fun q' h => hActive q' ((hSame q').mp h)
          exact ⟨r, tbl'', by simpa only [Program.run, hLeft] using hL,
            by simpa only [Program.run, hRight] using hR, hValid'',
            fun q' => (hSame' q').trans (hSame q')⟩
  | askAt c' q next ih =>
      -- The nested table starts empty, and the outer one is as before on return.
      obtain ⟨r, tbl', hLeft, hRight, -, -⟩ :=
        hEval c' q (fun _ => .clean) (tbl :: rest) w hP.1.1 hP.1.2
          (Valid.empty rules world rank c' w) fun q' h => by cases h
      cases r with
      | error e =>
          refine ⟨.error e, tbl, ?_, ?_, hValid, fun _ => Iff.rfl⟩
          · simp only [Program.run, fresh, hLeft, List.tail_cons]
          · simp only [Program.run, noTable]
            rw [show eval₂ c' q () w = some (.error e, (), w) from hRight]
      | ok v =>
          obtain ⟨r, tbl'', hL, hR, hValid'', hSame⟩ := ih v (hP.2 v) hValid hActive
          refine ⟨r, tbl'', ?_, ?_, hValid'', hSame⟩
          · simp only [Program.run, fresh, hLeft, List.tail_cons]
            exact hL
          · simp only [Program.run, noTable, hRight]
            exact hR
  | act e next ih =>
      obtain ⟨answer, hAnswer⟩ := hWorld
      cases hE : answer e with
      | error err =>
          exact ⟨.error err, tbl, by simp only [Program.run, hAnswer, hE],
            by simp only [Program.run, hAnswer, hE], hValid, fun _ => Iff.rfl⟩
      | ok v =>
          simpa only [Program.run, hAnswer, hE] using ih v (hP v) hValid hActive

/-- Over an acyclic graph and a pure world, evaluation with a valid table is
evaluation without one. -/
theorem eval_transparent (hRanked : Ranked rules good rank) (hWorld : PureWorld world) {fuel : ℕ}
    (c : C) (q : Q) {tbl : Q → Slot V} (rest : List (Q → Slot V)) (w : W) (hGood : good q)
    (hFuel : rank q < fuel) (hValid : Valid rules world rank c w tbl)
    (hActive : ∀ q', tbl q' = .active → rank q < rank q') :
    Transparent rules world rank c tbl rest w
      (eval rules fresh world fuel c q (tbl :: rest) w) (eval rules noTable world fuel c q () w) := by
  induction fuel generalizing c q tbl rest w with
  | zero => omega
  | succ fuel ih =>
      cases hReject : rules.reject q with
      | some e =>
          exact ⟨.error e, tbl, by simp only [eval, hReject], by simp only [eval, hReject], hValid,
            fun _ => Iff.rfl⟩
      | none =>
          cases hSlot : tbl q with
          | active => exact absurd (hActive q hSlot) (Nat.lt_irrefl _)
          | done v =>
              exact ⟨.ok v, tbl, by simp only [eval, hReject, fresh_look, hSlot],
                hValid q v hSlot (fuel + 1) hFuel, hValid, fun _ => Iff.rfl⟩
          | clean =>
              have hBound : ∀ q', Function.update tbl q .active q' = .active →
                  rank q ≤ rank q' := by
                intro q' hQ
                by_cases hEq : q' = q
                · exact Nat.le_of_eq (congrArg rank hEq.symm)
                · rw [Function.update_of_ne hEq] at hQ
                  exact Nat.le_of_lt (hActive q' hQ)
              have hBody : Transparent rules world rank c (Function.update tbl q .active) rest w
                  ((rules.body c q).run rules fresh world (eval rules fresh world fuel) c
                    (Function.update tbl q .active :: rest) w)
                  ((rules.body c q).run rules noTable world (eval rules noTable world fuel) c () w) :=
                Program.run_transparent hWorld
                  (fun c' q' tbl' rest' w' hQ hRank hV hA =>
                    ih c' q' rest' w' hQ (by omega) hV hA)
                  c (hRanked c q hGood hReject) w (hValid.update q .active (by simp)) hBound rest
              obtain ⟨r, tbl', hLeft, hRight, hValid', hSame⟩ := hBody
              have hRestore : ∀ slot : Slot V, slot ≠ .active →
                  ∀ q', Function.update tbl' q slot q' = .active ↔ tbl q' = .active := by
                intro slot hNe q'
                by_cases hEq : q' = q
                · subst hEq
                  simp [hNe, hSlot]
                · rw [Function.update_of_ne hEq, hSame q', Function.update_of_ne hEq]
              have hPlain : eval rules noTable world (fuel + 1) c q () w = some (r, (), w) := by
                have hMark : (noTable : Table Unit Q V).mark () q = () := rfl
                have hLook : (noTable : Table Unit Q V).look () q = some .clean := rfl
                simp only [eval, hReject, hLook, hMark, hRight]
                cases r <;> rfl
              cases r with
              | error e =>
                  refine ⟨.error e, Function.update tbl' q .clean, ?_, hPlain,
                    hValid'.update q .clean (by simp), hRestore .clean (by simp)⟩
                  simp only [eval, hReject, fresh_look, hSlot, fresh_mark, hLeft, fresh_clear]
              | ok v =>
                  refine ⟨.ok v, Function.update tbl' q (.done v), ?_, hPlain,
                    hValid'.update q (.done v) ?_, hRestore (.done v) (by simp)⟩
                  · simp only [eval, hReject, fresh_look, hSlot, fresh_mark, hLeft, fresh_store]
                  · intro v' hV fuel' hRank
                    cases hV
                    rw [eval_fuel hRanked noTable world c q () w hGood hRank hFuel]
                    exact hPlain

end Types

end Library.Memo
