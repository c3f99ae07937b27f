import Oakfield.Result
import Mathlib.Data.Nat.Notation
import Mathlib.Tactic.Conv

/-! Scalar domains and value types of kernel expressions. -/
namespace Oakfield.KernelIR

inductive SimScalarDomainKind where
  | unknown
  | real
  | complex
  | integer
  | modular
deriving DecidableEq, Repr

/-- `SimScalarDomain`; equality is `sim_scalar_domain_equal`. -/
structure SimScalarDomain where
  kind : SimScalarDomainKind
  bitWidth : ℕ
  isSigned : Bool
  modulus : ℕ
deriving DecidableEq, Repr

def simScalarDomainUnknown : SimScalarDomain := ⟨.unknown, 0, false, 0⟩
def simScalarDomainF64 : SimScalarDomain := ⟨.real, 64, true, 0⟩
def simScalarDomainC64 : SimScalarDomain := ⟨.complex, 64, true, 0⟩
def simScalarDomainI8 : SimScalarDomain := ⟨.integer, 8, true, 0⟩
def simScalarDomainI32 : SimScalarDomain := ⟨.integer, 32, true, 0⟩
def simScalarDomainI64 : SimScalarDomain := ⟨.integer, 64, true, 0⟩
def simScalarDomainU8 : SimScalarDomain := ⟨.integer, 8, false, 0⟩
def simScalarDomainU32 : SimScalarDomain := ⟨.integer, 32, false, 0⟩
def simScalarDomainU64 : SimScalarDomain := ⟨.integer, 64, false, 0⟩

/-- `sim_scalar_domain_validate`. -/
def SimScalarDomain.validate (domain : SimScalarDomain) : Bool :=
  match domain.kind with
  | .unknown => domain.bitWidth == 0 && !domain.isSigned && domain.modulus == 0
  | .real | .complex => domain.bitWidth == 64 && domain.modulus == 0
  | .integer =>
      (domain.bitWidth == 8 || domain.bitWidth == 32 || domain.bitWidth == 64) &&
        domain.modulus == 0
  | .modular => decide (0 < domain.bitWidth) && decide (domain.bitWidth ≤ 64) &&
      decide (1 < domain.modulus)

def SimScalarDomain.isComplex (domain : SimScalarDomain) : Bool := domain.kind == .complex

def SimScalarDomain.isInteger (domain : SimScalarDomain) : Bool := domain.kind == .integer

inductive SimScalarCapability where
  | additiveArithmetic
  | multiplicativeArithmetic
  | division
  | ordering
  | floor
  | modulo
  | analyticCall
  | conjugation
  | complexRotation
  | power
deriving DecidableEq, Repr

/-- The bits of `sim_scalar_domain_capabilities`. -/
def SimScalarDomain.capabilities (domain : SimScalarDomain) : List SimScalarCapability :=
  if !domain.validate then []
  else
    match domain.kind with
    | .real => [.additiveArithmetic, .multiplicativeArithmetic, .division, .ordering, .floor,
        .modulo, .analyticCall, .power]
    | .complex => [.additiveArithmetic, .multiplicativeArithmetic, .division, .conjugation,
        .complexRotation, .power]
    | .integer => [.additiveArithmetic, .multiplicativeArithmetic, .division, .ordering, .floor,
        .modulo, .power]
    | .modular => [.additiveArithmetic, .multiplicativeArithmetic]
    | .unknown => []

def SimScalarDomain.supports (domain : SimScalarDomain) (capability : SimScalarCapability) : Bool :=
  domain.capabilities.contains capability

/-- `sim_field_storage_matches_scalar_domain`. -/
def SimScalarDomain.matchesStorage (elementSize : ℕ) (domain : SimScalarDomain) : Bool :=
  if elementSize == 0 || !domain.validate then false
  else
    match domain.kind with
    | .unknown => true
    | .real => elementSize == 8
    | .complex => elementSize == 16
    | .integer | .modular => domain.bitWidth == elementSize * 8

/-! ### Value types -/

inductive SimIRValueKind where
  | scalar
  | vector
deriving DecidableEq, Repr

structure SimIRType where
  kind : SimIRValueKind
  components : ℕ
  scalarDomain : SimScalarDomain
deriving DecidableEq, Repr

/-- Invalid and unknown domains count as `f64`. -/
def SimScalarDomain.orF64 (domain : SimScalarDomain) : SimScalarDomain :=
  if !domain.validate || domain.kind == .unknown then simScalarDomainF64 else domain

/-- Lane count of a type: at least one, and two for a complex domain. -/
def SimIRType.lanes (components : ℕ) (domain : SimScalarDomain) : ℕ :=
  let components := if components = 0 then 1 else components
  if domain.isComplex && decide (components < 2) then 2 else components

/-- `sim_ir_type_normalize`. -/
def SimIRType.normalize (type : SimIRType) : SimIRType :=
  let domain := type.scalarDomain.orF64
  let components := lanes type.components domain
  if components ≤ 1 then ⟨.scalar, 1, domain⟩ else ⟨.vector, components, domain⟩

def SimIRType.isScalar (type : SimIRType) : Bool := type.normalize.kind == .scalar

/-- `sim_ir_type_scalar_domain`. -/
def SimIRType.domain (type : SimIRType) : SimScalarDomain := type.normalize.scalarDomain

/-- `sim_ir_type_equal`. -/
def SimIRType.equal (lhs rhs : SimIRType) : Bool := lhs.normalize == rhs.normalize

def simIrTypeScalar : SimIRType := ⟨.scalar, 1, simScalarDomainF64⟩

def simIrTypeScalarDomainTyped (domain : SimScalarDomain) : SimIRType :=
  SimIRType.normalize ⟨.scalar, 1, domain⟩

def simIrTypeVector (n : ℕ) : SimIRType :=
  ⟨if n ≤ 1 then .scalar else .vector, if n = 0 then 1 else n, simScalarDomainF64⟩

def simIrTypeComplex : SimIRType := ⟨.vector, 2, simScalarDomainC64⟩

/-! ### Normalised types -/

theorem SimScalarDomain.orF64_cases (domain : SimScalarDomain) :
    (domain.orF64 = simScalarDomainF64) ∨
      (domain.orF64 = domain ∧ domain.validate = true ∧ domain.kind ≠ .unknown) := by
  unfold orF64
  split
  case isTrue => exact Or.inl rfl
  case isFalse hValid => exact Or.inr ⟨rfl, by simpa using hValid⟩

theorem SimScalarDomain.validate_orF64 (domain : SimScalarDomain) :
    domain.orF64.validate = true ∧ domain.orF64.kind ≠ .unknown := by
  rcases domain.orF64_cases with hEq | ⟨hEq, hValid⟩
  · rw [hEq]
    decide
  · rw [hEq]
    exact hValid

@[simp]
theorem SimScalarDomain.orF64_orF64 (domain : SimScalarDomain) :
    domain.orF64.orF64 = domain.orF64 := by
  obtain ⟨hValid, hKnown⟩ := domain.validate_orF64
  conv_lhs => rw [orF64]
  simp [hValid, hKnown]

theorem SimIRType.lanes_pos (components : ℕ) (domain : SimScalarDomain) :
    0 < lanes components domain := by
  rw [lanes]
  by_cases hZero : components = 0
  · by_cases hComplex : domain.isComplex <;> simp [hZero, hComplex]
  · by_cases hTwo : components < 2 <;> by_cases hComplex : domain.isComplex <;>
      simp [hZero, hComplex, hTwo] <;> omega

theorem SimIRType.two_le_lanes (components : ℕ) {domain : SimScalarDomain}
    (hComplex : domain.isComplex = true) : 2 ≤ lanes components domain := by
  rw [lanes, hComplex]
  by_cases hZero : components = 0
  · simp [hZero]
  · by_cases hTwo : components < 2
    · simp [hZero, hTwo]
    · simp only [hZero, hTwo, if_false, decide_false, Bool.and_false, Bool.false_eq_true]
      omega

/-- A positive count, at least two where required, is kept. -/
theorem SimIRType.lanes_eq_self {components : ℕ} {domain : SimScalarDomain}
    (hPos : 0 < components) (hComplex : domain.isComplex = true → 2 ≤ components) :
    lanes components domain = components := by
  have hZero : components ≠ 0 := by omega
  cases hCase : domain.isComplex with
  | false => simp [lanes, hZero, hCase]
  | true =>
      have := hComplex hCase
      simp [lanes, hZero, hCase]
      omega

@[simp]
theorem SimIRType.lanes_lanes (components : ℕ) (domain : SimScalarDomain) :
    lanes (lanes components domain) domain = lanes components domain :=
  lanes_eq_self (lanes_pos _ _) fun h => two_le_lanes _ h

@[simp]
theorem SimIRType.domain_eq (type : SimIRType) : type.domain = type.scalarDomain.orF64 := by
  unfold domain normalize
  dsimp only
  split <;> rfl

@[simp]
theorem SimIRType.components_normalize (type : SimIRType) :
    type.normalize.components = lanes type.components type.scalarDomain.orF64 := by
  have := lanes_pos type.components type.scalarDomain.orF64
  unfold normalize
  dsimp only
  split
  · dsimp only
    omega
  · rfl

/-- Normalising twice changes nothing. -/
@[simp]
theorem SimIRType.normalize_normalize (type : SimIRType) :
    type.normalize.normalize = type.normalize := by
  have hDomain : type.normalize.scalarDomain = type.scalarDomain.orF64 := type.domain_eq
  conv_lhs => rw [normalize]
  rw [hDomain, SimScalarDomain.orF64_orF64, components_normalize, lanes_lanes]
  rfl

/-- A normalised type is its own normal form. -/
def SimIRType.Normalized (type : SimIRType) : Prop := type.normalize = type

instance (type : SimIRType) : Decidable type.Normalized := inferInstanceAs (Decidable (_ = _))

theorem SimIRType.normalized_normalize (type : SimIRType) : type.normalize.Normalized :=
  type.normalize_normalize

theorem SimIRType.Normalized.domain {type : SimIRType} (hNormal : type.Normalized) :
    type.domain = type.scalarDomain := by
  rw [SimIRType.domain, hNormal]

/-- Complex types have a real and an imaginary lane. -/
theorem SimIRType.Normalized.two_le_components {type : SimIRType} (hNormal : type.Normalized)
    (hComplex : type.domain.isComplex = true) : 2 ≤ type.components := by
  rw [← hNormal, components_normalize]
  exact two_le_lanes _ (by rwa [← domain_eq])

theorem SimIRType.Normalized.components_pos {type : SimIRType} (hNormal : type.Normalized) :
    0 < type.components := by
  rw [← hNormal, components_normalize]
  exact lanes_pos _ _

theorem SimIRType.Normalized.isScalar_iff {type : SimIRType} (hNormal : type.Normalized) :
    type.isScalar = true ↔ type.components = 1 := by
  have hPos := lanes_pos type.components type.scalarDomain.orF64
  rw [isScalar, ← hNormal, normalize_normalize, components_normalize]
  unfold normalize
  dsimp only
  split
  · simp
    omega
  · simp
    omega

theorem SimIRType.domain_normalize (type : SimIRType) : type.normalize.domain = type.domain := by
  rw [domain, domain, normalize_normalize]

theorem SimIRType.isScalar_normalize (type : SimIRType) :
    type.normalize.isScalar = type.isScalar := by
  rw [isScalar, isScalar, normalize_normalize]

theorem SimIRType.equal_iff {lhs rhs : SimIRType} :
    lhs.equal rhs = true ↔ lhs.normalize = rhs.normalize := by
  simp [equal]

end Oakfield.KernelIR
