import Oakfield.KernelIR.PoolGrowth

/-! Lanes of constants: those a constructor is given, those it stores, and when the two
agree. -/
namespace Oakfield.KernelIR

open CDouble

variable {D : Type} [CDouble D] {builder builder' : SimIRBuilder D} {id : SimIRNodeId}

/-- Doubles which compare equal have one canonical form: they are the same double, or
zeros of both signs. -/
def EqualAreCanonical (D : Type) [CDouble D] : Prop :=
  ∀ a b : D, eq a b = true → simIrCanonicalizeConstant a = simIrCanonicalizeConstant b

/-! ### Integer constants -/

/-- Raw bits of the domain which hold the integer of a word. -/
def SimScalarDomain.IsRaw (domain : SimScalarDomain) (raw word : Word) : Prop :=
  domain.IsMachineInteger ∧
    domain.intValue raw = if domain.isSigned then word.toInt else (word.toNat : ℤ)

variable {domain : SimScalarDomain} {raw word : Word}

theorem isRaw_fromSigned (hRaw : simIrIntegerRawFromSigned word domain = some raw) :
    domain.IsRaw raw word ∧ domain.isSigned = true := by
  have hParts := hRaw
  unfold simIrIntegerRawFromSigned at hParts
  split at hParts
  · cases hParts
  case isFalse hKind =>
    simp only [Bool.or_eq_true, Bool.not_eq_true', not_or, Bool.not_eq_false] at hKind
    split at hParts
    · cases hParts
    split at hParts
    · cases hParts
    case isFalse hWidth =>
      have hWidth' : domain.bitWidth = 32 ∨ domain.bitWidth = 64 := by omega
      have hDomain : domain.IsMachineInteger := ⟨hKind.1, by omega, by omega⟩
      rw [rawFromSigned_eq_some hDomain hWidth' hKind.2] at hRaw
      split at hRaw
      case isTrue hFits =>
        refine ⟨⟨hDomain, ?_⟩, hKind.2⟩
        rw [← Option.some.inj hRaw, intValue_fromI64 hDomain, intValue_eq_wrap_toInt hDomain, hFits,
          hKind.2, if_pos rfl]
      case isFalse => cases hRaw

theorem isRaw_fromUnsigned (hRaw : simIrIntegerRawFromUnsigned word domain = some raw) :
    domain.IsRaw raw word ∧ domain.isSigned = false := by
  have hParts := hRaw
  unfold simIrIntegerRawFromUnsigned at hParts
  split at hParts
  · cases hParts
  case isFalse hKind =>
    simp only [Bool.or_eq_true, Bool.not_eq_true', not_or, Bool.not_eq_false,
      Bool.not_eq_true] at hKind
    split at hParts
    · cases hParts
    split at hParts
    · cases hParts
    case isFalse hWidth =>
      have hWidth' : domain.bitWidth = 32 ∨ domain.bitWidth = 64 := by omega
      have hDomain : domain.IsMachineInteger := ⟨hKind.1, by omega, by omega⟩
      rw [rawFromUnsigned_eq_some hDomain hWidth' hKind.2] at hRaw
      split at hRaw
      case isTrue hFits =>
        refine ⟨⟨hDomain, ?_⟩, hKind.2⟩
        rw [← Option.some.inj hRaw, intValue_truncate hDomain, intValue_eq_wrap_toNat, hFits,
          hKind.2, if_neg Bool.false_ne_true]
      case isFalse => cases hRaw

/-- The integer which the C conversion of a double to the type of a domain gives. -/
def doubleWord (value : D) (domain : SimScalarDomain) : Word :=
  if domain.isSigned then toI64 value else toU64 value

/-- The double of an integer of a domain. -/
def wordDouble (word : Word) (domain : SimScalarDomain) : D :=
  if domain.isSigned then ofI64 word else ofU64 word

theorem isRaw_fromDouble {value : D} (hRaw : simIrIntegerRawFromDouble value domain = some raw) :
    domain.IsRaw raw (doubleWord value domain) := by
  unfold simIrIntegerRawFromDouble at hRaw
  unfold doubleWord
  cases hSigned : domain.isSigned with
  | true =>
      rw [hSigned] at hRaw
      have hWord : simIrIntegerRawFromSigned (toI64 value) domain = some raw := by
        split_ifs at hRaw <;> first | assumption | contradiction
      exact (isRaw_fromSigned hWord).1
  | false =>
      rw [hSigned] at hRaw
      have hWord : simIrIntegerRawFromUnsigned (toU64 value) domain = some raw := by
        split_ifs at hRaw <;> first | assumption | contradiction
      exact (isRaw_fromUnsigned hWord).1

/-- The views of raw bits give the word back. -/
theorem SimScalarDomain.IsRaw.view (hRaw : domain.IsRaw raw word) {raw' : Word}
    (hSame : domain.intValue raw' = domain.intValue raw) :
    (if domain.isSigned then simIrIntegerAsI64 raw' domain else simIrIntegerTruncate raw' domain) =
      word := by
  obtain ⟨hDomain, hValue⟩ := hRaw
  cases hSigned : domain.isSigned with
  | true =>
      rw [hSigned, if_pos rfl] at hValue
      rw [if_pos rfl]
      apply BitVec.eq_of_toInt_eq
      rw [toInt_asI64 hDomain hSigned, hSame, hValue]
  | false =>
      rw [hSigned, if_neg Bool.false_ne_true] at hValue
      rw [if_neg Bool.false_ne_true]
      apply BitVec.eq_of_toNat_eq
      have hNat := toNat_truncate_unsigned hDomain hSigned raw'
      rw [hSame, hValue] at hNat
      exact_mod_cast hNat

theorem SimScalarDomain.IsRaw.toDouble (hRaw : domain.IsRaw raw word) :
    (simIrIntegerRawToDouble raw domain : D) = wordDouble word domain := by
  have hView := hRaw.view rfl
  unfold simIrIntegerRawToDouble wordDouble
  cases hSigned : domain.isSigned with
  | true =>
      rw [hSigned, if_pos rfl] at hView
      rw [if_pos rfl, if_pos rfl, hView]
  | false =>
      rw [hSigned, if_neg Bool.false_ne_true] at hView
      rw [if_neg Bool.false_ne_true, if_neg Bool.false_ne_true, hView]

theorem SimScalarDomain.IsRaw.domainValue (hRaw : domain.IsRaw raw word) {raw' : Word}
    (hSame : domain.intValue raw' = domain.intValue raw) :
    simIrDomainValueFromIntegerRaw domain raw' = ⟨domain, word, 0⟩ := by
  unfold simIrDomainValueFromIntegerRaw
  dsimp only
  cases hSigned : domain.isSigned with
  | true =>
      have hTruncated := (intValue_truncate hRaw.1 raw').trans hSame
      have hView := hRaw.view hTruncated
      rw [hSigned, if_pos rfl] at hView
      rw [if_pos rfl, hView]
  | false =>
      have hView := hRaw.view hSame
      rw [hSigned, if_neg Bool.false_ne_true] at hView
      rw [if_neg Bool.false_ne_true, hView]

/-! ### The lanes of a constructor -/

/-- The lanes given to a constructor of constants, in canonical form. A scalar given for
a vector type is meant for every lane. -/
def BuilderCall.givenLanes : BuilderCall D → Option (List D)
  | .constant value => some [simIrCanonicalizeConstant value]
  | .constantTyped value type =>
      some (List.replicate type.normalize.components (simIrCanonicalizeConstant value))
  | .constantI64Typed value _ => some [ofI64 value]
  | .constantU64Typed value _ => some [ofU64 value]
  | .constantVector values => some (values.map simIrCanonicalizeConstant)
  | .constantVectorTyped values _ => some (values.map simIrCanonicalizeConstant)
  | .constantComplex real imag => some ([real, imag].map simIrCanonicalizeConstant)
  | _ => none

/-- The integer given for an exact integer constant. -/
def BuilderCall.givenWord : BuilderCall D → Option Word
  | .constantTyped value type =>
      if type.normalize.scalarDomain.isInteger then some (doubleWord value type.normalize.scalarDomain)
      else none
  | .constantI64Typed value _ => some value
  | .constantU64Typed value _ => some value
  | _ => none

/-- Lanes of a scalar which is stored for a type: a small vector reads its inline lanes,
and these stay cleared. -/
def storedScalar (value : D) (type : SimIRType) : List D :=
  List.replicate type.components
    (if 1 < type.components ∧ type.components ≤ simIrSmallConstantCapacity then zero else value)

/-- Lanes of a stored vector: a vector of one lane has a scalar type, whose lane is the
scalar, and that stays cleared. -/
def storedVector (values : List D) : List D :=
  if values.length = 1 then [zero] else values.map simIrCanonicalizeConstant

/-- The lanes which a constructor of constants stores. -/
def BuilderCall.storedLanes : BuilderCall D → Option (List D)
  | .constant value => some [simIrCanonicalizeConstant value]
  | .constantTyped value type =>
      if type.normalize.scalarDomain.isInteger then
        some [wordDouble (doubleWord value type.normalize.scalarDomain) type.normalize.scalarDomain]
      else some (storedScalar (simIrCanonicalizeConstant value) type.normalize)
  | .constantI64Typed value _ => some [ofI64 value]
  | .constantU64Typed value _ => some [ofU64 value]
  | .constantVector values => some (storedVector values)
  | .constantVectorTyped values _ => some (storedVector values)
  | .constantComplex real imag => some ([real, imag].map simIrCanonicalizeConstant)
  | _ => none

/-- The arguments survive: a scalar for a type of two to four lanes is zero, a vector of
one lane is zero, and a double for an integer type is the double of its conversion. -/
def BuilderCall.KeepsConstant : BuilderCall D → Prop
  | .constantTyped value type =>
      if type.normalize.scalarDomain.isInteger then
        wordDouble (doubleWord value type.normalize.scalarDomain) type.normalize.scalarDomain =
          simIrCanonicalizeConstant value
      else
        1 < type.normalize.components → type.normalize.components ≤ simIrSmallConstantCapacity →
          simIrCanonicalizeConstant value = zero
  | .constantVector values | .constantVectorTyped values _ =>
      values.length = 1 → ∀ value ∈ values, simIrCanonicalizeConstant value = zero
  | _ => True

theorem storedVector_eq_iff (values : List D) :
    values.map simIrCanonicalizeConstant = storedVector values ↔
      (values.length = 1 → ∀ value ∈ values, simIrCanonicalizeConstant value = zero) := by
  unfold storedVector
  split
  case isTrue hOne =>
    obtain ⟨value, rfl⟩ := List.length_eq_one_iff.mp hOne
    simp
  case isFalse hOther => simp [hOther]

theorem storedScalar_eq_iff (value : D) {type : SimIRType} (hPos : 0 < type.components) :
    List.replicate type.components value = storedScalar value type ↔
      (1 < type.components → type.components ≤ simIrSmallConstantCapacity → value = zero) := by
  unfold storedScalar
  rw [List.replicate_right_inj (Nat.pos_iff_ne_zero.mp hPos)]
  split
  case isTrue hSmall => simp [hSmall.1, hSmall.2]
  case isFalse hOther =>
    simp only [true_iff]
    exact fun hMany hFew => absurd ⟨hMany, hFew⟩ hOther

/-! ### What is stored -/

/-- A node is a constant of the given lanes, and of the given exact integer. -/
structure SimIRBuilder.Stores (builder : SimIRBuilder D) (id : SimIRNodeId) (lanes : List D)
    (given : Option Word) : Prop where
  payload : ∃ node value, builder.node? id = some node ∧ node.data = .constant value ∧
    lanes.length = node.valueType.components ∧ ∀ word, given = some word →
      node.valueType.isScalar = true ∧ value.exactInteger = true ∧
        node.valueType.domain.IsRaw value.unsignedScalar word
  lane : ∀ component value, lanes[component]? = some value →
    builder.constantLane id component = some value

omit [CDouble D] in
/-- What a constant stores is stored in every grown builder. -/
theorem SimIRBuilder.Stores.grown {later : SimIRBuilder D} {lanes : List D} {given : Option Word}
    (hStores : builder.Stores id lanes given)
    (hGrown : Grown builder later) : later.Stores id lanes given := by
  obtain ⟨node, constant, hNode, hData, hLength, hGiven⟩ := hStores.payload
  obtain ⟨node', hNode', hData', hType⟩ := hGrown.nodes id node hNode
  constructor
  case payload =>
    refine ⟨node', constant, hNode', hData'.trans hData, ?_, ?_⟩
    · rw [hType, hLength]
    · rw [hType]
      exact hGiven
  case lane => exact fun component value hGet => hGrown.constantLane (hStores.lane component value hGet)

/-- If a constructor returns a node, then the node stores the lanes. -/
def YieldsStored (lanes : List D) (given : Option Word)
    (result : Option (SimIRNodeId × SimIRBuilder D)) : Prop :=
  ∀ grown, result = some grown → grown.2.Stores grown.1 lanes given

variable {lanes : List D} {given : Option Word}

omit [CDouble D] in
theorem yieldsStored_none : YieldsStored lanes given none := by
  rintro _ ⟨⟩

omit [CDouble D] in
theorem yieldsStored_append {value : SimIRConstant D} {type : SimIRType}
    (hLength : lanes.length = type.components)
    (hGiven : ∀ word, given = some word → type.isScalar = true ∧ value.exactInteger = true ∧
      type.domain.IsRaw value.unsignedScalar word)
    (hLane : ∀ component lane, lanes[component]? = some lane →
      simIrConstantComponent builder ⟨builder.count, .constant value, type, .misc, .none, true⟩
        component = some lane) :
    YieldsStored lanes given (some (simIrBuilderAppend builder (.constant value) type .none true)) := by
  intro grown hResult
  obtain rfl := Option.some.inj hResult
  have hNode := node?_append_count (.constant value) type .none true (rfl : builder.nodes = builder.nodes)
  constructor
  case payload => exact ⟨_, value, hNode, rfl, hLength, hGiven⟩
  case lane =>
    intro component lane hGet
    rw [SimIRBuilder.constantLane]
    apply Option.bind_eq_some_iff.mpr
    exact ⟨_, hNode, hLane component lane hGet⟩

/-- A type which is not scalar has more than one lane. -/
theorem SimIRType.Normalized.isScalar_eq_false {type : SimIRType} (hNormal : type.Normalized) :
    type.isScalar = false ↔ 1 < type.components := by
  have hPos := hNormal.components_pos
  rw [← Bool.not_eq_true, hNormal.isScalar_iff]
  omega

omit [CDouble D] in
/-- Constants outside the pool are read in the node: a small vector in its inline lanes,
all others in the scalar. -/
theorem constantComponent_inline {type : SimIRType} (hNormal : type.Normalized)
    {value : SimIRConstant D} (hIndex : value.constantIndex = none) {component : ℕ}
    (hComponent : component < type.components) :
    simIrConstantComponent builder ⟨id, .constant value, type, .misc, .none, true⟩ component =
      if 1 < type.components ∧ type.components ≤ simIrSmallConstantCapacity then
        value.small[component]?
      else some value.scalar := by
  have hScalar := hNormal.isScalar_eq_false
  unfold simIrConstantComponent
  dsimp only
  rw [hIndex]
  dsimp only
  by_cases hSmall : 1 < type.components ∧ type.components ≤ simIrSmallConstantCapacity
  · rw [if_pos ⟨hSmall.2, hScalar.mpr hSmall.1⟩, if_pos hComponent, if_pos hSmall]
  · rw [if_neg (fun h => hSmall ⟨hScalar.mp h.2, h.1⟩), if_neg hSmall]

theorem yieldsStored_constantIntegerRawTyped {type : SimIRType}
    (hRaw : type.normalize.scalarDomain.IsRaw raw word) :
    YieldsStored [wordDouble word type.normalize.scalarDomain] (some word)
      (simIrBuilderConstantIntegerRawTyped builder raw type) := by
  have hDomain : type.normalize.domain = type.normalize.scalarDomain :=
    type.normalized_normalize.domain
  rw [simIrBuilderConstantIntegerRawTyped]
  dsimp only
  split
  · exact yieldsStored_none
  case isFalse hInteger =>
    simp only [Bool.or_eq_true, not_or, Bool.not_eq_true', Bool.not_eq_false] at hInteger
    apply yieldsStored_append
    · exact (type.normalized_normalize.isScalar_iff.mp hInteger.1).symm
    · intro other hOther
      obtain rfl := Option.some.inj hOther
      rw [hDomain]
      exact ⟨hInteger.1, rfl, hRaw.1, (intValue_truncate hRaw.1 raw).trans hRaw.2⟩
    · intro component lane hGet
      have hOne := type.normalized_normalize.isScalar_iff.mp hInteger.1
      have hFirst : component = 0 := Nat.lt_one_iff.mp (List.getElem?_eq_some_iff.mp hGet).1
      have hComponent : component < type.normalize.components := by omega
      have hFew : ¬(1 < type.normalize.components ∧
          type.normalize.components ≤ simIrSmallConstantCapacity) := by omega
      rw [constantComponent_inline type.normalized_normalize rfl hComponent]
      dsimp only
      rw [if_neg hFew, hRaw.toDouble, ← hGet, hFirst]
      rfl

theorem yieldsStored_constantReal {value : D} {type : SimIRType} (hNormal : type.Normalized) :
    YieldsStored (storedScalar value type) none
      (some (simIrBuilderAppend builder (.constant { SimIRConstant.cleared with scalar := value })
        type .none true)) := by
  apply yieldsStored_append
  · exact List.length_replicate
  · exact fun word hWord => nomatch hWord
  intro component lane hGet
  rw [storedScalar, List.getElem?_replicate] at hGet
  split at hGet
  case isFalse => cases hGet
  case isTrue hComponent =>
    rw [constantComponent_inline hNormal rfl hComponent]
    dsimp only
    by_cases hSmall : 1 < type.components ∧ type.components ≤ simIrSmallConstantCapacity
    · rw [if_pos hSmall] at hGet
      rw [if_pos hSmall, ← hGet, SimIRConstant.cleared, List.getElem?_replicate,
        if_pos (Nat.lt_of_lt_of_le hComponent hSmall.2)]
    · rw [if_neg hSmall] at hGet
      rw [if_neg hSmall, hGet]

theorem yieldsStored_constantTyped (value : D) (type : SimIRType) :
    YieldsStored
      (if type.normalize.scalarDomain.isInteger then
        [wordDouble (doubleWord value type.normalize.scalarDomain) type.normalize.scalarDomain]
      else storedScalar (simIrCanonicalizeConstant value) type.normalize)
      (if type.normalize.scalarDomain.isInteger then
        some (doubleWord value type.normalize.scalarDomain) else none)
      (simIrBuilderConstantTyped builder value type) := by
  rw [simIrBuilderConstantTyped]
  dsimp only
  split
  case isFalse => exact yieldsStored_constantReal type.normalized_normalize
  case isTrue =>
    cases hRaw : simIrIntegerRawFromDouble value type.normalize.scalarDomain with
    | none => exact yieldsStored_none
    | some raw =>
        have hNormal := type.normalize_normalize
        have hStored := @yieldsStored_constantIntegerRawTyped D _ builder raw
          (doubleWord value type.normalize.scalarDomain) type.normalize
        rw [hNormal] at hStored
        exact hStored (isRaw_fromDouble hRaw)

/-- Vectors in the pool are read in the entry of their index. -/
theorem yieldsStored_pooled {type : SimIRType} {values : List D} {k offset : ℕ}
    (hLength : type.components = values.length)
    (hOffset : builder.constantsOffsets[k]? = some offset)
    (hComponents : builder.constantsComponents[k]? = some values.length)
    (hData : ∀ component value, values[component]? = some value →
      builder.constantsData[offset + component]? = some (simIrCanonicalizeConstant value)) :
    YieldsStored (values.map simIrCanonicalizeConstant) none
      (some (simIrBuilderAppend builder
        (.constant { SimIRConstant.cleared with constantIndex := some k }) type .none true)) := by
  apply yieldsStored_append
  · rw [List.length_map, hLength]
  · exact fun word hWord => nomatch hWord
  intro component lane hGet
  rw [List.getElem?_map, Option.map_eq_some_iff] at hGet
  obtain ⟨value, hValue, rfl⟩ := hGet
  unfold simIrConstantComponent
  dsimp only
  rw [hOffset, hComponents]
  dsimp only
  rw [if_pos (List.getElem?_eq_some_iff.mp hValue).1]
  exact hData component value hValue

/-- An entry which matches the values holds their canonical forms. -/
theorem lane_of_poolMatches (hEqual : EqualAreCanonical D) (hBuilt : Built builder)
    {values : List D} {k offset : ℕ} (hOffset : builder.constantsOffsets[k]? = some offset)
    (hComponents : builder.constantsComponents[k]? = some values.length)
    (hMatch : builder.poolMatches values k = true) {component : ℕ} {value : D}
    (hValue : values[component]? = some value) :
    builder.constantsData[offset + component]? = some (simIrCanonicalizeConstant value) := by
  have hLt := (List.getElem?_eq_some_iff.mp hValue).1
  have hBound := hBuilt.wellFormed.pool.bounded k offset _ hOffset hComponents
  obtain ⟨lane, hLane⟩ : ∃ lane, builder.constantsData[offset + component]? = some lane :=
    ⟨_, List.getElem?_eq_getElem (by omega)⟩
  rw [SimIRBuilder.poolMatches, SimIRBuilder.poolLanes, List.getD_eq_getElem?_getD,
    List.getD_eq_getElem?_getD, hOffset, hComponents, Bool.and_eq_true, List.all_eq_true] at hMatch
  have hPair : (lane, value) ∈
      ((builder.constantsData.drop offset).take values.length).zip values := by
    apply List.mem_of_getElem? (i := component)
    rw [List.getElem?_zip_eq_some, List.getElem?_take_of_lt hLt, List.getElem?_drop]
    exact ⟨hLane, hValue⟩
  have hEq := hEqual _ _ (hMatch.2 (lane, value) hPair)
  rw [simIrCanonicalizeConstant_idem,
    hBuilt.poolTidy.canonical lane (List.mem_of_getElem? hLane)] at hEq
  rw [hLane, hEq]

theorem yieldsStored_constantVectorTyped (hEqual : EqualAreCanonical D) (hBuilt : Built builder)
    (values : List D) (type : SimIRType) :
    YieldsStored (storedVector values) none (simIrBuilderConstantVectorTyped builder values type) := by
  have hPool := hBuilt.wellFormed.pool.length_eq
  rw [simIrBuilderConstantVectorTyped]
  dsimp only
  split
  · exact yieldsStored_none
  case isFalse hShape =>
    obtain ⟨hNonempty, hLength⟩ := not_or.mp hShape
    have hLength := not_not.mp hLength
    split
    · exact yieldsStored_none
    split
    case isTrue hSmall =>
      apply yieldsStored_append
      · unfold storedVector
        split
        case isTrue hOne => rw [hLength, hOne, List.length_singleton]
        case isFalse => rw [List.length_map, hLength]
      · exact fun word hWord => (by cases hWord)
      intro component lane hGet
      unfold storedVector at hGet
      split at hGet
      case isTrue hOne =>
        have hFirst : component = 0 := Nat.lt_one_iff.mp (List.getElem?_eq_some_iff.mp hGet).1
        have hComponent : component < type.normalize.components := by omega
        have hFew : ¬(1 < type.normalize.components ∧
            type.normalize.components ≤ simIrSmallConstantCapacity) := by omega
        rw [constantComponent_inline type.normalized_normalize rfl hComponent]
        dsimp only
        rw [if_neg hFew, ← hGet, hFirst]
        rfl
      case isFalse hMany =>
        have hLt := (List.getElem?_eq_some_iff.mp hGet).1
        have hComponent : component < type.normalize.components := by
          rwa [hLength, ← @List.length_map _ _ values simIrCanonicalizeConstant]
        have hFew : 1 < type.normalize.components ∧
            type.normalize.components ≤ simIrSmallConstantCapacity := by omega
        rw [constantComponent_inline type.normalized_normalize rfl hComponent]
        dsimp only
        rw [if_pos hFew, List.getElem?_append_left hLt, hGet]
    case isFalse hLarge =>
      have hVector : storedVector values = values.map simIrCanonicalizeConstant := by
        have hCapacity : simIrSmallConstantCapacity = 4 := rfl
        rw [storedVector, if_neg (by omega)]
      rw [hVector]
      split
      case h_1 k hFound =>
        have hMatch := List.find?_some hFound
        have hRange := List.mem_range.mp (List.mem_of_find?_eq_some hFound)
        have hComponents : builder.constantsComponents[k]? = some values.length := by
          have hParts := hMatch
          rw [SimIRBuilder.poolMatches, Bool.and_eq_true, beq_iff_eq, List.getD_eq_getElem?_getD,
            List.getElem?_eq_getElem hRange] at hParts
          rw [List.getElem?_eq_getElem hRange, ← hParts.1]
          rfl
        have hOffset := List.getElem?_eq_getElem (hPool ▸ hRange)
        apply yieldsStored_pooled hLength hOffset hComponents
        intro component value hValue
        exact lane_of_poolMatches hEqual hBuilt hOffset hComponents hMatch hValue
      case h_2 =>
        have hOffset : (simIrBuilderPoolPush builder values).constantsOffsets[
            builder.constantsComponents.length]? = some builder.constantsData.length := by
          rw [← hPool]
          exact List.getElem?_concat_length
        have hComponents : (simIrBuilderPoolPush builder values).constantsComponents[
            builder.constantsComponents.length]? = some values.length :=
          List.getElem?_concat_length
        apply @yieldsStored_pooled D _ (simIrBuilderPoolPush builder values) _ _ _ _ hLength hOffset
          hComponents
        intro component value hValue
        rw [simIrBuilderPoolPush, List.getElem?_append_right (Nat.le_add_right _ _),
          Nat.add_sub_cancel_left, List.getElem?_map, hValue]
        rfl

/-- Every constructor of constants stores its lanes. -/
theorem BuilderCall.yieldsStored (hEqual : EqualAreCanonical D) (hBuilt : Built builder)
    {call : BuilderCall D} (hLanes : call.storedLanes = some lanes) :
    YieldsStored lanes call.givenWord (call.run builder) := by
  cases call with
  | constant value =>
      obtain rfl := Option.some.inj hLanes
      have hStored := @yieldsStored_constantTyped D _ builder value simIrTypeScalar
      exact hStored
  | constantTyped value type =>
      rw [BuilderCall.storedLanes, ← apply_ite some] at hLanes
      obtain rfl := Option.some.inj hLanes
      exact yieldsStored_constantTyped value type
  | constantI64Typed value type =>
      obtain rfl := Option.some.inj hLanes
      rw [BuilderCall.run, simIrBuilderConstantI64Typed]
      split
      case h_1 => exact yieldsStored_none
      case h_2 raw hRaw =>
        obtain ⟨hIsRaw, hSigned⟩ := isRaw_fromSigned hRaw
        have hStored := @yieldsStored_constantIntegerRawTyped D _ builder raw value type.normalize
        rw [type.normalize_normalize, wordDouble, hSigned, if_pos rfl] at hStored
        exact hStored hIsRaw
  | constantU64Typed value type =>
      obtain rfl := Option.some.inj hLanes
      rw [BuilderCall.run, simIrBuilderConstantU64Typed]
      split
      case h_1 => exact yieldsStored_none
      case h_2 raw hRaw =>
        obtain ⟨hIsRaw, hUnsigned⟩ := isRaw_fromUnsigned hRaw
        have hStored := @yieldsStored_constantIntegerRawTyped D _ builder raw value type.normalize
        rw [type.normalize_normalize, wordDouble, hUnsigned, if_neg Bool.false_ne_true] at hStored
        exact hStored hIsRaw
  | constantVector values =>
      obtain rfl := Option.some.inj hLanes
      exact yieldsStored_constantVectorTyped hEqual hBuilt values (simIrTypeVector values.length)
  | constantVectorTyped values type =>
      obtain rfl := Option.some.inj hLanes
      exact yieldsStored_constantVectorTyped hEqual hBuilt values type
  | constantComplex real imag =>
      obtain rfl := Option.some.inj hLanes
      exact yieldsStored_constantVectorTyped hEqual hBuilt [real, imag] simIrTypeComplex
  | _ => cases hLanes

/-- An integer type which takes a constant has one lane. -/
theorem components_of_constantTyped {value : D} {type : SimIRType} {grown : SimIRNodeId × SimIRBuilder D}
    (hInteger : type.normalize.scalarDomain.isInteger = true)
    (hRun : simIrBuilderConstantTyped builder value type = some grown) :
    type.normalize.components = 1 := by
  rw [simIrBuilderConstantTyped] at hRun
  dsimp only at hRun
  rw [if_pos hInteger] at hRun
  split at hRun
  case h_1 => cases hRun
  case h_2 =>
    rw [simIrBuilderConstantIntegerRawTyped] at hRun
    dsimp only at hRun
    split at hRun
    case isTrue => cases hRun
    case isFalse hScalar =>
      simp only [Bool.or_eq_true, not_or, Bool.not_eq_true', Bool.not_eq_false] at hScalar
      have hOne := hScalar.1
      rw [type.normalize_normalize] at hOne
      exact type.normalized_normalize.isScalar_iff.mp hOne

/-- The given lanes are stored exactly if the arguments survive. -/
theorem BuilderCall.givenLanes_eq_iff {call : BuilderCall D} {grown : SimIRNodeId × SimIRBuilder D}
    (hRun : call.run builder = some grown) :
    call.givenLanes = call.storedLanes ↔ call.KeepsConstant := by
  cases call with
  | constantTyped value type =>
      rw [BuilderCall.givenLanes, BuilderCall.storedLanes, BuilderCall.KeepsConstant]
      by_cases hInteger : type.normalize.scalarDomain.isInteger = true
      · rw [if_pos hInteger, if_pos hInteger, components_of_constantTyped hInteger hRun,
          Option.some_inj, List.replicate_one, List.singleton_inj]
        exact eq_comm
      · rw [if_neg hInteger, if_neg hInteger, Option.some_inj]
        exact storedScalar_eq_iff _ type.normalized_normalize.components_pos
  | constantVector values =>
      rw [BuilderCall.givenLanes, BuilderCall.storedLanes, Option.some_inj]
      exact storedVector_eq_iff values
  | constantVectorTyped values type =>
      rw [BuilderCall.givenLanes, BuilderCall.storedLanes, Option.some_inj]
      exact storedVector_eq_iff values
  | _ => exact ⟨fun _ => trivial, fun _ => rfl⟩

/-- As many lanes are stored as are given. -/
theorem BuilderCall.length_givenLanes {call : BuilderCall D} {grown : SimIRNodeId × SimIRBuilder D}
    (hRun : call.run builder = some grown) {stored : List D} (hGiven : call.givenLanes = some lanes)
    (hStored : call.storedLanes = some stored) : lanes.length = stored.length := by
  have hVector : ∀ values : List D,
      (values.map simIrCanonicalizeConstant).length = (storedVector values).length := by
    intro values
    unfold storedVector
    split
    case isTrue hOne => rw [List.length_map, hOne, List.length_singleton]
    case isFalse => rfl
  cases call with
  | constantTyped value type =>
      rw [BuilderCall.storedLanes] at hStored
      obtain rfl := Option.some.inj hGiven
      by_cases hInteger : type.normalize.scalarDomain.isInteger = true
      · rw [if_pos hInteger] at hStored
        obtain rfl := Option.some.inj hStored
        rw [List.length_replicate, components_of_constantTyped hInteger hRun, List.length_singleton]
      · rw [if_neg hInteger] at hStored
        obtain rfl := Option.some.inj hStored
        rw [storedScalar, List.length_replicate, List.length_replicate]
  | constantVector values =>
      obtain rfl := Option.some.inj hGiven
      obtain rfl := Option.some.inj hStored
      exact hVector values
  | constantVectorTyped values type =>
      obtain rfl := Option.some.inj hGiven
      obtain rfl := Option.some.inj hStored
      exact hVector values
  | _ => exact congrArg List.length (Option.some.inj (hGiven.symm.trans hStored))

end Oakfield.KernelIR
