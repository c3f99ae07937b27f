import Oakfield.Context.Split
import Oakfield.Operator.PlanHazards

/-! The access sets given to the registry are those declared by the substep. -/
namespace Oakfield

variable {ports : List SimSplitPort}

/-- A substep declares a field through a port it accesses with such a mode, or
through any bound port before a barrier. -/
def SimSplitSubstep.Declares {D μ : Type} (ports : List SimSplitPort)
    (substep : SimSplitSubstep D μ) (accesses : SimAccessMode → Bool) (field : SizeT) : Prop :=
  (∃ access ∈ substep.accesses, accesses access.mode ∧
    ∃ port, ports[access.port]? = some port ∧ port.contextFieldIndex = field) ∨
  (substep.barrierAfter ∧ ∃ port ∈ ports, port.contextFieldIndex = field)

theorem getLsbD_setFieldBit (mask : BitVec 64) (field g : SizeT) :
    (setFieldBit mask field).getLsbD g.toNat = true ↔
      mask.getLsbD g.toNat = true ∨ (g = field ∧ field.toNat < 64) := by
  rw [setFieldBit]
  have hWidth : field < 64 ↔ field.toNat < 64 := by bv_omega
  by_cases hField : field < 64
  · have hEq : field.toNat = g.toNat ↔ g = field := by
      rw [BitVec.toNat_inj]
      exact eq_comm
    rw [if_pos hField]
    simp [hWidth.mp hField, hEq]
  · rw [if_neg hField]
    simp [hWidth.not.mp hField]

/-- A mask and a list which both hold exactly a set of bound fields. -/
structure Tracks (ports : List SimSplitPort) (mask : BitVec 64) (listed : List SizeT)
    (fields : SizeT → Prop) : Prop where
  nodup : listed.Nodup
  listed : ∀ g, g ∈ listed ↔ fields g
  mask : ∀ g : SizeT, mask.getLsbD g.toNat = true ↔ fields g ∧ g.toNat < 64
  bound : ∀ g, fields g → ∃ port ∈ ports, port.contextFieldIndex = g

namespace Tracks

variable {mask : BitVec 64} {listed : List SizeT} {fields : SizeT → Prop}

theorem empty : Tracks ports 0 [] fun _ => False := by
  constructor <;> simp

theorem congr (hTracks : Tracks ports mask listed fields) {others : SizeT → Prop}
    (hEq : ∀ g, fields g ↔ others g) : Tracks ports mask listed others := by
  rwa [show others = fields from funext fun g => propext (hEq g).symm]

/-- The list has room for each bound field, so another one always fits. -/
theorem length_lt (hTracks : Tracks ports mask listed fields) {port : SimSplitPort}
    (hPort : port ∈ ports) (hNew : port.contextFieldIndex ∉ listed) :
    listed.length < ports.length := by
  have hNodup : (port.contextFieldIndex :: listed).Nodup :=
    List.nodup_cons.mpr ⟨hNew, hTracks.nodup⟩
  have hSubset : port.contextFieldIndex :: listed ⊆ ports.map (·.contextFieldIndex) := by
    intro g hG
    rw [List.mem_map]
    rcases List.mem_cons.mp hG with hEq | hMem
    · exact ⟨port, hPort, hEq.symm⟩
    · exact hTracks.bound g ((hTracks.listed g).mp hMem)
  have hLength := (hNodup.subperm hSubset).length_le
  rwa [List.length_cons, List.length_map] at hLength

theorem length_le (hTracks : Tracks ports mask listed fields) : listed.length ≤ ports.length := by
  have hSubset : listed ⊆ ports.map (·.contextFieldIndex) := by
    intro g hG
    rw [List.mem_map]
    exact hTracks.bound g ((hTracks.listed g).mp hG)
  have hLength := (hTracks.nodup.subperm hSubset).length_le
  rwa [List.length_map] at hLength

/-- Adding the field of a bound port never runs out of capacity. -/
theorem append (hTracks : Tracks ports mask listed fields) {port : SimSplitPort}
    (hPort : port ∈ ports) :
    ∃ appended, simSplitAppendUnique listed ports.length port.contextFieldIndex =
        (true, appended) ∧
      Tracks ports (setFieldBit mask port.contextFieldIndex) appended
        fun g => fields g ∨ g = port.contextFieldIndex := by
  have hLe := hTracks.length_le
  have hMask : ∀ g : SizeT, (setFieldBit mask port.contextFieldIndex).getLsbD g.toNat = true ↔
      (fields g ∨ g = port.contextFieldIndex) ∧ g.toNat < 64 := by
    intro g
    rw [getLsbD_setFieldBit, hTracks.mask]
    constructor
    · rintro (⟨hField, hLt⟩ | ⟨rfl, hLt⟩)
      · exact ⟨.inl hField, hLt⟩
      · exact ⟨.inr rfl, hLt⟩
    · rintro ⟨hField | rfl, hLt⟩
      · exact .inl ⟨hField, hLt⟩
      · exact .inr ⟨rfl, hLt⟩
  have hBound : ∀ g, fields g ∨ g = port.contextFieldIndex →
      ∃ port ∈ ports, port.contextFieldIndex = g := by
    rintro g (hField | rfl)
    · exact hTracks.bound g hField
    · exact ⟨port, hPort, rfl⟩
  rw [simSplitAppendUnique, if_neg (by omega)]
  by_cases hOld : port.contextFieldIndex ∈ listed
  · rw [if_pos hOld]
    refine ⟨_, rfl, hTracks.nodup, fun g => ?_, hMask, hBound⟩
    rw [hTracks.listed]
    constructor
    · exact .inl
    · rintro (hField | rfl)
      · exact hField
      · exact (hTracks.listed _).mp hOld
  · have hLt := hTracks.length_lt hPort hOld
    rw [if_neg hOld, if_neg (by omega)]
    refine ⟨_, rfl, ?_, fun g => ?_, hMask, hBound⟩
    · exact List.nodup_append.mpr ⟨hTracks.nodup, List.nodup_singleton _, by
        intro g hG h hH
        rw [List.mem_singleton] at hH
        rintro rfl
        exact hOld (hH ▸ hG)⟩
    · rw [List.mem_append, hTracks.listed, List.mem_singleton]

end Tracks

/-! ### The loops over accesses and ports -/

/-- The access sets of a substep hold exactly the given fields. -/
structure TracksBoth (ports : List SimSplitPort) (sets : SplitAccessSets)
    (reads writes : SizeT → Prop) : Prop where
  reads : Tracks ports sets.readMask sets.readFields reads
  writes : Tracks ports sets.writeMask sets.writeFields writes

/-- The field is that of the port which an access names. -/
def SimSplitAccess.Names (ports : List SimSplitPort) (access : SimSplitAccess) (field : SizeT) :
    Prop :=
  ∃ port, ports[access.port]? = some port ∧ port.contextFieldIndex = field

variable {sets result : SplitAccessSets} {reads writes : SizeT → Prop}

theorem noteAccess_tracks (hTracks : TracksBoth ports sets reads writes) {access : SimSplitAccess}
    (hRun : noteAccess ports sets access = .ok result) :
    TracksBoth ports result (fun g => reads g ∨ (access.mode.reads ∧ access.Names ports g))
      fun g => writes g ∨ (access.mode.writes ∧ access.Names ports g) := by
  rw [noteAccess] at hRun
  cases hPort : ports[access.port]? with
  | none =>
      rw [hPort] at hRun
      cases hRun
  | some port =>
      have hNames : ∀ g, access.Names ports g ↔ g = port.contextFieldIndex := by
        intro g
        simp [SimSplitAccess.Names, hPort, eq_comm]
      obtain ⟨readFields, hRead, hReads⟩ := hTracks.reads.append (List.mem_of_getElem? hPort)
      obtain ⟨writeFields, hWrite, hWrites⟩ := hTracks.writes.append (List.mem_of_getElem? hPort)
      rw [hPort] at hRun
      simp only [hRead, hWrite] at hRun
      simp only [hNames]
      cases hMode : access.mode with
      | read =>
          simp only [hMode, SimAccessMode.reads, SimAccessMode.writes] at hRun ⊢
          cases hRun
          exact ⟨hReads.congr (by simp), hTracks.writes.congr (by simp)⟩
      | write =>
          simp only [hMode, SimAccessMode.reads, SimAccessMode.writes] at hRun ⊢
          cases hRun
          exact ⟨hTracks.reads.congr (by simp), hWrites.congr (by simp)⟩
      | rw =>
          simp only [hMode, SimAccessMode.reads, SimAccessMode.writes] at hRun ⊢
          cases hRun
          exact ⟨hReads.congr (by simp), hWrites.congr (by simp)⟩

theorem foldlM_noteAccess_tracks {accesses : List SimSplitAccess}
    (hTracks : TracksBoth ports sets reads writes)
    (hRun : accesses.foldlM (noteAccess ports) sets = .ok result) :
    TracksBoth ports result
      (fun g => reads g ∨ ∃ access ∈ accesses, access.mode.reads ∧ access.Names ports g)
      fun g => writes g ∨ ∃ access ∈ accesses, access.mode.writes ∧ access.Names ports g := by
  induction accesses generalizing sets reads writes with
  | nil =>
      cases hRun
      exact ⟨hTracks.reads.congr (by simp), hTracks.writes.congr (by simp)⟩
  | cons access accesses ih =>
      rw [List.foldlM_cons] at hRun
      cases hNote : noteAccess ports sets access with
      | error failure =>
          rw [hNote] at hRun
          cases hRun
      | ok noted =>
          rw [hNote] at hRun
          have hRest := ih (noteAccess_tracks hTracks hNote) hRun
          exact ⟨hRest.reads.congr (by simp [or_assoc]), hRest.writes.congr (by simp [or_assoc])⟩

theorem foldl_noteBarrier_tracks {behind : List SimSplitPort} (hBehind : behind ⊆ ports)
    (hTracks : TracksBoth ports sets reads writes) :
    TracksBoth ports (behind.foldl (noteBarrier ports.length) sets)
      (fun g => reads g ∨ ∃ port ∈ behind, port.contextFieldIndex = g)
      fun g => writes g ∨ ∃ port ∈ behind, port.contextFieldIndex = g := by
  induction behind generalizing sets reads writes with
  | nil => exact ⟨hTracks.reads.congr (by simp), hTracks.writes.congr (by simp)⟩
  | cons port behind ih =>
      rw [List.cons_subset] at hBehind
      obtain ⟨readFields, hRead, hReads⟩ := hTracks.reads.append hBehind.1
      obtain ⟨writeFields, hWrite, hWrites⟩ := hTracks.writes.append hBehind.1
      have hNoted : TracksBoth ports (noteBarrier ports.length sets port)
          (fun g => reads g ∨ g = port.contextFieldIndex)
          fun g => writes g ∨ g = port.contextFieldIndex := by
        constructor
        · simpa only [noteBarrier, hRead] using hReads
        · simpa only [noteBarrier, hWrite] using hWrites
      have hRest := ih hBehind.2 hNoted
      exact ⟨hRest.reads.congr (by simp [or_assoc, eq_comm]),
        hRest.writes.congr (by simp [or_assoc, eq_comm])⟩

/-- A substep is registered with exactly the fields it declares, in the masks
as far as these reach and in the lists. -/
theorem substepAccessSets_tracks {D μ : Type} {substep : SimSplitSubstep D μ}
    (hRun : substepAccessSets ports substep = .ok result) :
    TracksBoth ports result (substep.Declares ports SimAccessMode.reads)
      (substep.Declares ports SimAccessMode.writes) := by
  rw [substepAccessSets] at hRun
  cases hFold : substep.accesses.foldlM (noteAccess ports) ⟨0, 0, [], []⟩ with
  | error failure =>
      rw [hFold] at hRun
      cases hRun
  | ok sets =>
      rw [hFold] at hRun
      have hStart : TracksBoth ports ⟨0, 0, [], []⟩ (fun _ => False) fun _ => False :=
        ⟨.empty, .empty⟩
      have hSets := foldlM_noteAccess_tracks hStart hFold
      cases hBarrier : substep.barrierAfter with
      | false =>
          simp only [hBarrier] at hRun
          cases hRun
          exact ⟨hSets.reads.congr (by simp [SimSplitSubstep.Declares, hBarrier, SimSplitAccess.Names]),
            hSets.writes.congr (by simp [SimSplitSubstep.Declares, hBarrier, SimSplitAccess.Names])⟩
      | true =>
          simp only [hBarrier] at hRun
          cases hRun
          have hBoth := foldl_noteBarrier_tracks (List.Subset.refl ports) hSets
          exact ⟨hBoth.reads.congr (by simp [SimSplitSubstep.Declares, hBarrier, SimSplitAccess.Names]),
            hBoth.writes.congr (by simp [SimSplitSubstep.Declares, hBarrier, SimSplitAccess.Names])⟩

end Oakfield
