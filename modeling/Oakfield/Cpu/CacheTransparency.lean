import Oakfield.Cpu.LaunchSimulation
import Oakfield.Library.MemoMeaning

/-! The evaluation cache over whole sequences of launches on one backend: what
it answers is what evaluation without a cache yields. -/
namespace Oakfield.Cpu

open KernelIR CDouble Library.Memo Library.Loop

variable {D : Type} [CDouble D] {σ : Type}

/-- A kernel over a graph made by builder calls, whose cache has a size in bytes. -/
structure Launchable (kernel : Kernel D) : Prop where
  built : Built kernel.builder
  fits : kernel.builder.count * backendCpuBuilderMaxComponents kernel * 8 < 2 ^ 64

/-- Where a backend is in its life. -/
inductive Phase (D σ : Type) where
  /-- Between launches. -/
  | idle
  /-- In a launch, between elements. -/
  | launched (kernel : Kernel D)
  /-- In a launch, evaluating lanes of an element. -/
  | evaluating (kernel : Kernel D) (callbacks : Callbacks D σ) (fields : Fields D)
      (reference : SimField D) (elementIndex : ℕ)

/-- States of the frames which a backend goes through: any launches one after
the other, in each any generations and integer outputs, in each generation any
lanes. Fields, callbacks and their state may change between generations. -/
inductive Session (σ : Type) : SimBackendCPUState D → Phase D σ → Prop where
  | init (heap : ℕ → Bool) : Session σ (backendCpuInit heap) .idle
  | refused {s s' : SimBackendCPUState D} {kernel : Kernel D} (prior : Session σ s .idle)
      (hKernel : Launchable kernel)
      (hBegin : (backendCpuLaunchFrames kernel).begin s = (s', false)) : Session σ s' .idle
  | begun {s s' : SimBackendCPUState D} {kernel : Kernel D} (prior : Session σ s .idle)
      (hKernel : Launchable kernel)
      (hBegin : (backendCpuLaunchFrames kernel).begin s = (s', true)) :
      Session σ s' (.launched kernel)
  | integerCache {s : SimBackendCPUState D} {kernel : Kernel D}
      (prior : Session σ s (.launched kernel)) :
      Session σ ((backendCpuLaunchFrames kernel).integerCache s).1 (.launched kernel)
  | generation {s : SimBackendCPUState D} {kernel : Kernel D} (callbacks : Callbacks D σ)
      (fields : Fields D) (reference : SimField D) (elementIndex : ℕ)
      (prior : Session σ s (.launched kernel)) :
      Session σ (backendCpuFrameNextGeneration s)
        (.evaluating kernel callbacks fields reference elementIndex)
  | lane {s s' : SimBackendCPUState D} {kernel : Kernel D} {callbacks : Callbacks D σ}
      {fields : Fields D} {reference : SimField D} {elementIndex : ℕ} {lane : NodeLane}
      {r : Except SimError D} {w w' : σ}
      (prior : Session σ s (.evaluating kernel callbacks fields reference elementIndex))
      (hGrid : InGrid kernel lane)
      (hRun : backendCpuEvaluate (backendCpuLaunchFrames kernel) kernel callbacks fields reference
        elementIndex lane s w = some (r, s', w'))
      (hResult : r ≠ .error .outOfMemory) :
      Session σ s' (.evaluating kernel callbacks fields reference elementIndex)
  | exhausted {s s' : SimBackendCPUState D} {kernel : Kernel D} {callbacks : Callbacks D σ}
      {fields : Fields D} {reference : SimField D} {elementIndex : ℕ} {lane : NodeLane} {w w' : σ}
      (prior : Session σ s (.evaluating kernel callbacks fields reference elementIndex))
      (hGrid : InGrid kernel lane)
      (hRun : backendCpuEvaluate (backendCpuLaunchFrames kernel) kernel callbacks fields reference
        elementIndex lane s w = some (.error .outOfMemory, s', w')) :
      Session σ s' (.launched kernel)
  | evaluated {s : SimBackendCPUState D} {kernel : Kernel D} {callbacks : Callbacks D σ}
      {fields : Fields D} {reference : SimField D} {elementIndex : ℕ}
      (prior : Session σ s (.evaluating kernel callbacks fields reference elementIndex)) :
      Session σ s (.launched kernel)
  | finished {s : SimBackendCPUState D} {kernel : Kernel D} (prior : Session σ s (.launched kernel)) :
      Session σ (backendCpuFrameRelease s) .idle

/-- While an element is evaluated the finished slots of the table hold what is
evaluated without one, if the callbacks are pure. -/
def Cached (kernel : Kernel D) (callbacks : Callbacks D σ) (fields : Fields D)
    (reference : SimField D) (elementIndex : ℕ) (tbl : NodeLane → Slot D) : Prop :=
  PureWorld (callbacks kernel fields) →
    (∀ w, Valid (backendCpuRules kernel fields reference) (callbacks kernel fields) (·.1)
      elementIndex w tbl) ∧ ∀ lane, tbl lane ≠ .active

/-- What holds in each phase; in a launch the frame in use holds a table. -/
def Phase.Holds (s : SimBackendCPUState D) : Phase D σ → Prop
  | .idle => StateOk s ∧ s.frameCount = 0
  | .launched kernel => Launchable kernel ∧ ∃ tbl, Corresponds kernel s [tbl]
  | .evaluating kernel callbacks fields reference elementIndex =>
      Launchable kernel ∧ ∃ tbl, Corresponds kernel s [tbl] ∧
        Cached kernel callbacks fields reference elementIndex tbl

/-- Beginning a launch on an idle backend. -/
theorem begin_spec {s s' : SimBackendCPUState D} {kernel : Kernel D} {ok : Bool}
    (hState : StateOk s) (hIdle : s.frameCount = 0) (hKernel : Launchable kernel)
    (hBegin : (backendCpuLaunchFrames kernel).begin s = (s', ok)) :
    (ok = false → StateOk s' ∧ s'.frameCount = 0) ∧
      (ok = true → ∃ tbl, Corresponds kernel s' [tbl]) := by
  obtain ⟨hEnsured, hCount, hRoom⟩ := ensureCapacity_spec hState hKernel.fits
  simp only [backendCpuLaunchFrames, andThen] at hBegin
  split at hBegin
  case isFalse =>
    cases hBegin
    exact ⟨fun _ => ⟨hEnsured, hCount.trans hIdle⟩, fun h => by cases h⟩
  case isTrue hOk =>
    have hCorr : Corresponds kernel (backendCpuEnsureCapacity s kernel.builder.count
        (backendCpuBuilderMaxComponents kernel)).1 [] :=
      ⟨hEnsured, (hRoom hOk).1, (hRoom hOk).2, hCount.trans hIdle, trivial⟩
    obtain ⟨t, hCorr', hFail | ⟨hAcquired, hNext⟩⟩ := hCorr.acquire
    · rw [hFail] at hBegin
      cases hBegin
      exact ⟨fun _ => ⟨hCorr'.ok, hCorr'.depth⟩, fun h => by cases h⟩
    · rw [hAcquired] at hBegin
      simp only [if_true] at hBegin
      split at hBegin
      case isTrue hAllocated =>
        cases hBegin
        exact ⟨fun h => (by cases h), fun _ => hCorr'.push hNext hAllocated⟩
      case isFalse =>
        cases hBegin
        exact ⟨fun _ => ⟨hCorr'.ok, hCorr'.depth⟩, fun h => by cases h⟩

omit [CDouble D] in
/-- A table in use may request more memory elsewhere. -/
theorem Corresponds.requests {s : SimBackendCPUState D} {kernel : Kernel D}
    {tbls : List (NodeLane → Slot D)} (hCorr : Corresponds kernel s tbls) (requests : ℕ) :
    Corresponds kernel { s with requests := requests } tbls :=
  hCorr.prepared (.requests hCorr.ok requests)

/-- A lane evaluated over the frame in use: it evaluates as over a table, and
with pure callbacks as without a cache, unless a nested frame cannot be acquired. -/
theorem Phase.Holds.lane {s : SimBackendCPUState D} {kernel : Kernel D} {callbacks : Callbacks D σ}
    {fields : Fields D} {reference : SimField D} {elementIndex : ℕ} {lane : NodeLane}
    (hKernel : Launchable kernel) {tbl : NodeLane → Slot D} (hCorr : Corresponds kernel s [tbl])
    (hCached : Cached kernel callbacks fields reference elementIndex tbl)
    (hGrid : InGrid kernel lane) (w : σ) :
    ∃ r s' w' tbl', backendCpuEvaluate (backendCpuLaunchFrames kernel) kernel callbacks fields
        reference elementIndex lane s w = some (r, s', w') ∧
      Corresponds kernel s' [tbl'] ∧
      (r = .error .outOfMemory ∨
        Cached kernel callbacks fields reference elementIndex tbl' ∧
          backendCpuEvaluate freshLaunchFrames kernel callbacks fields reference elementIndex lane
            [tbl] w = some (r, [tbl'], w') ∧
          (PureWorld (callbacks kernel fields) →
            backendCpuEvaluate noLaunchFrames kernel callbacks fields reference elementIndex lane ()
              w = some (r, (), w'))) := by
  have hRanked := ranked_backendCpuRules hKernel.built.wellFormed fields reference
  have hFuel : lane.1 < kernel.builder.count + 1 := Nat.lt_succ_of_lt hGrid.1
  obtain ⟨r, s', w', tbl', hRun, hCorr', -, hFresh⟩ :=
    eval_simulated hRanked (simulation_backendCpuFrames kernel) (callbacks kernel fields)
      elementIndex lane w hGrid hFuel hCorr
  refine ⟨r, s', w', tbl', hRun, hCorr', hFresh.imp_right fun hFresh => ?_⟩
  by_cases hPure : PureWorld (callbacks kernel fields)
  · obtain ⟨hValid, hIdle⟩ := hCached hPure
    obtain ⟨r₁, tbl₁, hFresh₁, hPlain, hValid', hActive⟩ :=
      eval_transparent hRanked hPure elementIndex lane [] w hGrid hFuel (hValid w)
        fun q hQ => absurd hQ (hIdle q)
    cases hFresh.symm.trans hFresh₁
    exact ⟨fun _ => ⟨fun w' => hValid'.anyWorld hPure w', fun q hQ => hIdle q ((hActive q).mp hQ)⟩,
      hFresh, fun _ => hPlain⟩
  · exact ⟨fun h => absurd h hPure, hFresh, fun h => absurd h hPure⟩

/-- In every state which a backend reaches the table of its frame is in order. -/
theorem Session.holds {s : SimBackendCPUState D} {phase : Phase D σ}
    (hSession : Session σ s phase) : phase.Holds s := by
  induction hSession with
  | init heap => exact ⟨stateOk_init heap, rfl⟩
  | refused prior hKernel hBegin ih => exact (begin_spec ih.1 ih.2 hKernel hBegin).1 rfl
  | begun prior hKernel hBegin ih => exact ⟨hKernel, (begin_spec ih.1 ih.2 hKernel hBegin).2 rfl⟩
  | integerCache prior ih =>
      obtain ⟨hKernel, tbl, hCorr⟩ := ih
      exact ⟨hKernel, tbl, hCorr.requests _⟩
  | generation callbacks fields reference elementIndex prior ih =>
      obtain ⟨hKernel, tbl, hCorr⟩ := ih
      exact ⟨hKernel, _, hCorr.nextGeneration,
        fun _ => ⟨fun w => Valid.empty _ _ _ _ _, fun lane h => by cases h⟩⟩
  | lane prior hGrid hRun hResult ih =>
      obtain ⟨hKernel, tbl, hCorr, hCached⟩ := ih
      obtain ⟨r, t, w', tbl', hRun', hCorr', hStop | ⟨hCached', -⟩⟩ :=
        Phase.Holds.lane hKernel hCorr hCached hGrid _
      · cases hRun.symm.trans hRun'
        exact absurd hStop hResult
      · cases hRun.symm.trans hRun'
        exact ⟨hKernel, tbl', hCorr', hCached'⟩
  | exhausted prior hGrid hRun ih =>
      obtain ⟨hKernel, tbl, hCorr, hCached⟩ := ih
      obtain ⟨r, t, w', tbl', hRun', hCorr', -⟩ := Phase.Holds.lane hKernel hCorr hCached hGrid _
      cases hRun.symm.trans hRun'
      exact ⟨hKernel, tbl', hCorr'⟩
  | evaluated prior ih =>
      obtain ⟨hKernel, tbl, hCorr, -⟩ := ih
      exact ⟨hKernel, tbl, hCorr⟩
  | finished prior ih =>
      obtain ⟨-, tbl, hCorr⟩ := ih
      exact ⟨hCorr.release.ok, hCorr.release.depth⟩

/-! ### Launches -/

/-- A backend in a launch, and the one table of a launch over fresh tables. -/
def OneTable (σ : Type) (kernel : Kernel D) (s : SimBackendCPUState D) (tbls : List (NodeLane → Slot D)) :
    Prop :=
  Session σ s (.launched kernel) ∧ ∃ tbl, tbls = [tbl]

/-- Launches over the frames of a backend step like launches over fresh tables. -/
theorem rowSimulation_freshLaunchFrames (kernel : Kernel D) (callbacks : Callbacks D σ) :
    RowSimulation (backendCpuLaunchFrames kernel) freshLaunchFrames kernel callbacks
      (fun s s' _ => OneTable σ kernel s s')
      (fun fields reference elementIndex s s' _ =>
        Session σ s (.evaluating kernel callbacks fields reference elementIndex) ∧
          ∃ tbl, s' = [tbl] ∧ Corresponds kernel s [tbl] ∧
            Cached kernel callbacks fields reference elementIndex tbl) where
  start fields reference elementIndex s s' w hR := by
    obtain ⟨hSession, tbl, rfl⟩ := hR
    obtain ⟨-, tbl', hCorr⟩ := hSession.holds
    exact ⟨.generation callbacks fields reference elementIndex hSession, _, rfl,
      hCorr.nextGeneration, fun _ => ⟨fun w => Valid.empty _ _ _ _ _, fun lane h => by cases h⟩⟩
  stop fields reference elementIndex s s' w hRow := by
    obtain ⟨hSession, tbl, rfl, -⟩ := hRow
    exact ⟨.evaluated hSession, tbl, rfl⟩
  lane fields reference elementIndex s s' w lane hGrid hRow := by
    obtain ⟨hSession, tbl, rfl, hCorr, hCached⟩ := hRow
    obtain ⟨r, t, w', tbl', hRun, hCorr', hRight⟩ :=
      Phase.Holds.lane hSession.holds.1 hCorr hCached hGrid w
    refine ⟨r, t, w', [tbl'], hRun, ?_, ?_⟩
    · by_cases hStop : r = .error .outOfMemory
      · exact ⟨.exhausted hSession hGrid (hStop ▸ hRun), tbl', rfl⟩
      · exact ⟨.evaluated (.lane hSession hGrid hRun hStop), tbl', rfl⟩
    · by_cases hStop : r = .error .outOfMemory
      · exact .inl hStop
      · obtain ⟨hCached', hFresh, -⟩ := hRight.resolve_left hStop
        exact .inr ⟨hFresh, .lane hSession hGrid hRun hStop, tbl', rfl, hCorr', hCached'⟩
  integerCache s s' w hR := ⟨⟨.integerCache hR.1, hR.2⟩, rfl⟩

/-- With pure callbacks they step like launches without a cache. -/
theorem rowSimulation_noLaunchFrames {kernel : Kernel D} {callbacks : Callbacks D σ}
    (hPure : ∀ fields, PureWorld (callbacks kernel fields)) :
    RowSimulation (backendCpuLaunchFrames kernel) noLaunchFrames kernel callbacks
      (fun s _ _ => Session σ s (.launched kernel))
      (fun fields reference elementIndex s _ _ =>
        Session σ s (.evaluating kernel callbacks fields reference elementIndex)) where
  start fields reference elementIndex s _ w hR := .generation _ _ _ _ hR
  stop fields reference elementIndex s _ w hRow := .evaluated hRow
  lane fields reference elementIndex s _ w lane hGrid hSession := by
    obtain ⟨hKernel, tbl, hCorr, hCached⟩ := hSession.holds
    obtain ⟨r, t, w', tbl', hRun, -, hRight⟩ :=
      Phase.Holds.lane hKernel hCorr hCached hGrid w
    refine ⟨r, t, w', (), hRun, ?_, ?_⟩
    · by_cases hStop : r = .error .outOfMemory
      · exact .exhausted hSession hGrid (hStop ▸ hRun)
      · exact .evaluated (.lane hSession hGrid hRun hStop)
    · by_cases hStop : r = .error .outOfMemory
      · exact .inl hStop
      · exact .inr ⟨(hRight.resolve_left hStop).2.2 (hPure fields),
          .lane hSession hGrid hRun hStop⟩
  integerCache s _ w hR := ⟨.integerCache hR, rfl⟩

/-- A launch on an idle backend leaves it idle. Unless memory runs out it does
what a launch over fresh tables does, and with pure callbacks what a launch
without a cache does. -/
theorem Session.launch {s : SimBackendCPUState D} (hSession : Session σ s .idle)
    {kernel : Kernel D} (hKernel : Launchable kernel) (callbacks : Callbacks D σ) (w : σ)
    (fields : Fields D) :
    ∃ r s' w' fields', backendCpuLaunch kernel callbacks ⟨s, w, fields⟩ =
        some (r, ⟨s', w', fields'⟩) ∧
      Session σ s' .idle ∧
      (r = .error .outOfMemory ∨
        backendCpuLaunchWith freshLaunchFrames kernel callbacks ⟨[], w, fields⟩ =
            some (r, ⟨[], w', fields'⟩) ∧
          ((∀ fields, PureWorld (callbacks kernel fields)) →
            backendCpuLaunchWith noLaunchFrames kernel callbacks ⟨(), w, fields⟩ =
              some (r, ⟨(), w', fields'⟩))) := by
  unfold backendCpuLaunch
  cases hBegin : (backendCpuLaunchFrames kernel).begin s with
  | mk s' begun =>
      cases begun with
      | false =>
          exact ⟨.error .outOfMemory, s', w, fields, by simp only [backendCpuLaunchWith, hBegin],
            .refused hSession hKernel hBegin, .inl rfl⟩
      | true =>
          have hLaunched := Session.begun hSession hKernel hBegin
          obtain ⟨r, u, tbls, v, fields', ⟨hSession', tbl, rfl⟩, hRun, hFresh⟩ :=
            (rowSimulation_freshLaunchFrames kernel callbacks).launch hKernel.built hBegin
              (show freshLaunchFrames.begin [] = _ from rfl) (w := w) ⟨hLaunched, _, rfl⟩ fields
          refine ⟨r, _, v, fields', hRun, .finished hSession', ?_⟩
          by_cases hStop : r = .error .outOfMemory
          · exact .inl hStop
          · refine .inr ⟨hFresh.resolve_left hStop, fun hPure => ?_⟩
            obtain ⟨r', u', _, v', fields'', -, hRun', hPlain⟩ :=
              (rowSimulation_noLaunchFrames hPure).launch hKernel.built hBegin
                (show noLaunchFrames.begin () = _ from rfl) (w := w) hLaunched fields
            have hSame := hRun.symm.trans hRun'
            simp only [Option.some.injEq, Prod.mk.injEq, LaunchState.mk.injEq] at hSame
            obtain ⟨rfl, -, rfl, rfl⟩ := hSame
            exact hPlain.resolve_left hStop

/-- The evaluation cache is transparent over any sequence of launches. A launch
never uses a slot outside the arrays and does what it does over tables which are
empty in every generation and frame; with pure callbacks it does what it does
without a cache, and so does every lane of the grid. Only memory may run out. -/
theorem backendCpuCache_transparent (s : SimBackendCPUState D) :
    (∀ kernel callbacks (w : σ) fields, Session σ s .idle → Launchable kernel →
      ∃ r s' w' fields', backendCpuLaunch kernel callbacks ⟨s, w, fields⟩ =
          some (r, ⟨s', w', fields'⟩) ∧
        Session σ s' .idle ∧
        (r = .error .outOfMemory ∨
          backendCpuLaunchWith freshLaunchFrames kernel callbacks ⟨[], w, fields⟩ =
              some (r, ⟨[], w', fields'⟩) ∧
            ((∀ fields, PureWorld (callbacks kernel fields)) →
              backendCpuLaunchWith noLaunchFrames kernel callbacks ⟨(), w, fields⟩ =
                some (r, ⟨(), w', fields'⟩)))) ∧
      ∀ kernel (callbacks : Callbacks D σ) fields reference elementIndex lane w,
        Session σ s (.evaluating kernel callbacks fields reference elementIndex) →
        InGrid kernel lane → PureWorld (callbacks kernel fields) →
        ∃ r s' w', backendCpuEvaluate (backendCpuLaunchFrames kernel) kernel callbacks fields
            reference elementIndex lane s w = some (r, s', w') ∧
          (r = .error .outOfMemory ∨
            backendCpuEvaluate noLaunchFrames kernel callbacks fields reference elementIndex lane ()
              w = some (r, (), w')) := by
  refine ⟨fun kernel callbacks w fields hSession hKernel => hSession.launch hKernel callbacks w fields,
    fun kernel callbacks fields reference elementIndex lane w hSession hGrid hPure => ?_⟩
  obtain ⟨hKernel, tbl, hCorr, hCached⟩ := hSession.holds
  obtain ⟨r, s', w', tbl', hRun, -, hRight⟩ := Phase.Holds.lane hKernel hCorr hCached hGrid w
  exact ⟨r, s', w', hRun, hRight.imp_right fun hRight => hRight.2.2 hPure⟩

/-- A stateful node which is asked for twice. -/
def sharedCounter : Kernel ℤ where
  builder := BuilderCall.runAll [.stateful (some 0) 0 0, .binary .add 0 0]
  bindings := [⟨0, some 0, none, none, 0⟩]
  outputs := [⟨0, 1⟩]
  params := []
  complexSemantics := .trueComplex

/-- A field of one real element. -/
def scalarField : SimField ℤ :=
  { initialized := true, shape := [1], strides := [1], elementSize := 8
    data := some (.lanes fun _ => 0)
    complexMode := false, repr := ⟨.physical, .realScalar⟩, scalarDomain := simScalarDomainF64 }

/-- A callback which counts its calls. -/
def countCalls : Callbacks ℤ ℤ := fun _ _ _ calls => (.ok calls, calls + 1)

theorem launchable_sharedCounter : Launchable sharedCounter :=
  ⟨built_runAll _, by decide⟩

/-- The cache calls a shared stateful node once, evaluation without it twice. -/
theorem sharedCounter_counts_once :
    ∃ s, Session ℤ s (.evaluating sharedCounter countCalls (fun _ => scalarField) scalarField 0) ∧
      InGrid sharedCounter (1, 0) ∧
      (backendCpuEvaluate (backendCpuLaunchFrames sharedCounter) sharedCounter countCalls
        (fun _ => scalarField) scalarField 0 (1, 0) s 1).map (·.1) = some (.ok 2) ∧
      (backendCpuEvaluate noLaunchFrames sharedCounter countCalls
        (fun _ => scalarField) scalarField 0 (1, 0) () 1).map (·.1) = some (.ok 3) :=
  ⟨_, .generation _ _ _ _ (.begun (.init fun _ => true) launchable_sharedCounter rfl),
    ⟨by decide, by decide⟩, by decide, by decide⟩

/-- A callback which yields the same value each time. -/
def constantCallback : Callbacks ℤ ℤ := fun _ _ _ calls => (.ok 5, calls)

theorem backendCpuCache_transparent_constantCallback :
    (∃ r s' w' fields', backendCpuLaunch sharedCounter constantCallback
        ⟨backendCpuInit fun _ => true, 1, fun _ => scalarField⟩ = some (r, ⟨s', w', fields'⟩) ∧
      Session ℤ s' .idle ∧
      (r = .error .outOfMemory ∨
        backendCpuLaunchWith freshLaunchFrames sharedCounter constantCallback
            ⟨[], 1, fun _ => scalarField⟩ = some (r, ⟨[], w', fields'⟩) ∧
          ((∀ fields, PureWorld (constantCallback sharedCounter fields)) →
            backendCpuLaunchWith noLaunchFrames sharedCounter constantCallback
              ⟨(), 1, fun _ => scalarField⟩ = some (r, ⟨(), w', fields'⟩)))) ∧
      ∃ s, Session ℤ s (.evaluating sharedCounter constantCallback (fun _ => scalarField) scalarField
          0) ∧
        ∃ r s' w', backendCpuEvaluate (backendCpuLaunchFrames sharedCounter) sharedCounter
            constantCallback (fun _ => scalarField) scalarField 0 (1, 0) s 1 = some (r, s', w') ∧
          (r = .error .outOfMemory ∨
            backendCpuEvaluate noLaunchFrames sharedCounter constantCallback (fun _ => scalarField)
              scalarField 0 (1, 0) () 1 = some (r, (), w')) :=
  ⟨(backendCpuCache_transparent _).1 _ _ _ _ (.init fun _ => true) launchable_sharedCounter, _,
    .generation _ _ _ _ (.begun (.init fun _ => true) launchable_sharedCounter rfl),
    (backendCpuCache_transparent _).2 _ _ _ _ _ _ _
      (.generation _ _ _ _ (.begun (.init fun _ => true) launchable_sharedCounter rfl))
      ⟨by decide, by decide⟩ ⟨fun _ => .ok 5, fun _ _ => rfl⟩⟩

end Oakfield.Cpu
