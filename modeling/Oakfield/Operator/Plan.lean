import Oakfield.Library.Csr
import Oakfield.Library.Kahn
import Oakfield.Result

/-! Execution plan of an operator registry: explicit dependencies and hazards
between field accesses, sorted with a first-in first-out queue. -/
namespace Oakfield.Operator

/-- The part of an operator record which plan resolution reads. -/
structure SimOperator where
  dependencies : List SizeT
  readMask : BitVec 64
  writeMask : BitVec 64
  readIndices : List SizeT
  writeIndices : List SizeT
deriving DecidableEq, Repr

structure SimOperatorRegistry where
  records : List SimOperator
deriving DecidableEq, Repr

def SimOperatorRegistry.count (registry : SimOperatorRegistry) : ℕ := registry.records.length

def SimOperator.empty : SimOperator := ⟨[], 0, 0, [], []⟩

/-- `registry->records[i]`, always called with `i` below the count. -/
def SimOperatorRegistry.record (registry : SimOperatorRegistry) (i : ℕ) : SimOperator :=
  registry.records.getD i SimOperator.empty

/-- Indices of the set bits of a mask, lowest first. -/
def maskFields (mask : BitVec 64) : List SizeT :=
  ((List.range 64).filter (mask.getLsbD ·)).map (BitVec.ofNat 64)

/-- Fields visited by the two read loops, mask bits before listed indices. -/
def SimOperator.readFields (op : SimOperator) : List SizeT :=
  maskFields op.readMask ++ op.readIndices

def SimOperator.writeFields (op : SimOperator) : List SizeT :=
  maskFields op.writeMask ++ op.writeIndices

/-! ### Size of the hazard tables -/

/-- `max_field` together with `have_fields`, which is false at `none`. -/
def raiseMaxField (maxField : Option SizeT) (field : SizeT) : Option SizeT :=
  match maxField with
  | none => some field
  | some highest => if highest < field then some field else some highest

/-- `63 - clz(mask)` of a non-zero mask. -/
def highestBit (mask : BitVec 64) : SizeT := BitVec.ofNat 64 (Nat.log2 mask.toNat)

def SimOperator.raiseMaxField (maxField : Option SizeT) (op : SimOperator) : Option SizeT :=
  let mask := op.readMask ||| op.writeMask
  let maxField := if mask ≠ 0 then Operator.raiseMaxField maxField (highestBit mask) else maxField
  let maxField := op.readIndices.foldl Operator.raiseMaxField maxField
  op.writeIndices.foldl Operator.raiseMaxField maxField

def SimOperatorRegistry.maxField (registry : SimOperatorRegistry) : Option SizeT :=
  registry.records.foldl SimOperator.raiseMaxField none

/-- `field_slots = max_field + 1U` in `size_t`, or 0 without any access. -/
def SimOperatorRegistry.fieldSlots (registry : SimOperatorRegistry) : SizeT :=
  match registry.maxField with
  | none => 0
  | some highest => highest + 1

/-! ### Dependency and hazard scan -/

/-- Working state of the scan. A missing last writer is the sentinel
`(size_t) -1` of the C array, which is never the index of an operator. -/
structure ResolveState where
  indegree : ℕ → ℕ
  outDegree : ℕ → ℕ
  hazardEdges : List (ℕ × ℕ)
  readers : SizeT → List ℕ
  lastWriter : SizeT → Option ℕ
  totalEdges : ℕ

def ResolveState.init : ResolveState :=
  ⟨fun _ => 0, fun _ => 0, [], fun _ => [], fun _ => none, 0⟩

def bump (table : ℕ → ℕ) (i : ℕ) : ℕ → ℕ := Function.update table i (table i + 1)

/-- Indices of the explicit dependencies of operator `i`. -/
def SimOperatorRegistry.deps (registry : SimOperatorRegistry) (i : ℕ) : List ℕ :=
  (registry.record i).dependencies.map BitVec.toNat

/-- `sim_resolve_add_hazard`: self edges, explicit dependencies of the target
and edges already recorded are skipped. -/
def simResolveAddHazard (registry : SimOperatorRegistry) (source target : ℕ) (s : ResolveState) :
    ResolveState :=
  if source = target then s
  else if source ∈ registry.deps target then s
  else if (source, target) ∈ s.hazardEdges then s
  else
    { s with
      hazardEdges := s.hazardEdges ++ [(source, target)]
      indegree := bump s.indegree target
      outDegree := bump s.outDegree source
      totalEdges := s.totalEdges + 1 }

/-- Hazard from the last writer of `field`, if there is one. -/
def addWriterHazard (registry : SimOperatorRegistry) (i : ℕ) (field : SizeT) (s : ResolveState) :
    ResolveState :=
  match s.lastWriter field with
  | none => s
  | some writer => simResolveAddHazard registry writer i s

/-- Hazards from each of the given operators to operator `i`. -/
def addHazards (registry : SimOperatorRegistry) (sources : List ℕ) (i : ℕ) (s : ResolveState) :
    ResolveState :=
  sources.foldl (fun s source => simResolveAddHazard registry source i s) s

def noteRead (registry : SimOperatorRegistry) (i : ℕ) (field : SizeT) (s : ResolveState) :
    ResolveState :=
  let s := addWriterHazard registry i field s
  { s with readers := Function.update s.readers field (s.readers field ++ [i]) }

def noteWrite (registry : SimOperatorRegistry) (i : ℕ) (field : SizeT) (s : ResolveState) :
    ResolveState :=
  let s := addWriterHazard registry i field s
  let s := addHazards registry (s.readers field) i s
  { s with
    readers := Function.update s.readers field []
    lastWriter := Function.update s.lastWriter field (some i) }

/-- Visit fields below `slots` once each; `seen` is one bit of the C array. -/
def scanFields (slots : SizeT) (note : SizeT → ResolveState → ResolveState) :
    List SizeT → List SizeT → ResolveState → ResolveState
  | [], _, s => s
  | field :: rest, seen, s =>
      if field < slots ∧ field ∉ seen then scanFields slots note rest (field :: seen) (note field s)
      else scanFields slots note rest seen s

/-- Count the explicit dependencies of operator `i`, all of which must exist. -/
def countDependencies (n i : ℕ) : List ℕ → ResolveState → Except SimError ResolveState
  | [], s => .ok s
  | dep :: rest, s =>
      if n ≤ dep then .error .invalidArgument
      else countDependencies n i rest
        { s with
          indegree := bump s.indegree i
          outDegree := bump s.outDegree dep
          totalEdges := s.totalEdges + 1 }

/-- One iteration of the main scan: dependencies, then reads, then writes. -/
def scanOperator (registry : SimOperatorRegistry) (slots : SizeT) (i : ℕ) (s : ResolveState) :
    Except SimError ResolveState := do
  let s ← countDependencies registry.count i (registry.deps i) s
  let op := registry.record i
  let s := scanFields slots (noteRead registry i) op.readFields [] s
  return scanFields slots (noteWrite registry i) op.writeFields [] s

def scanOperators (registry : SimOperatorRegistry) (slots : SizeT) :
    ℕ → Except SimError ResolveState
  | 0 => .ok .init
  | i + 1 => do
      let s ← scanOperators registry slots i
      scanOperator registry slots i s

/-! ### Sorting -/

/-- Explicit edges in the order in which the adjacency table receives them. -/
def SimOperatorRegistry.explicitEdges (registry : SimOperatorRegistry) (n : ℕ) : List (ℕ × ℕ) :=
  (List.range n).flatMap fun i => (registry.deps i).map (·, i)

def SimOperatorRegistry.planEdges (registry : SimOperatorRegistry) (s : ResolveState) :
    List (ℕ × ℕ) :=
  registry.explicitEdges registry.count ++
    s.hazardEdges.filter fun edge => edge.1 < registry.count ∧ edge.2 < registry.count

/-- Compressed adjacency, initial queue and queue loop. The queue has room
for each operator once, which bounds the number of iterations. -/
def planOrder (registry : SimOperatorRegistry) (s : ResolveState) : List ℕ :=
  let n := registry.count
  let adjacency := Library.Csr.fill s.outDegree (registry.planEdges s)
  (Library.Kahn.loop (Library.Csr.row s.outDegree adjacency) n
    ⟨s.indegree, (List.range n).filter (s.indegree · = 0), []⟩).order

/-- `sim_operator_resolve_plan_with_logger`. Allocations succeed unless the
overflow check of `calloc(field_slots, sizeof(SimReaderList))` fails. -/
def simOperatorResolvePlan (registry : SimOperatorRegistry) : Except SimError (List ℕ) :=
  let slots := registry.fieldSlots
  if registry.count = 0 then .ok []
  else if !callocFits slots 24 then .error .outOfMemory
  else do
    let s ← scanOperators registry slots registry.count
    let order := planOrder registry s
    if order.length ≠ registry.count then .error .dependencyError else .ok order

end Oakfield.Operator
