import Oakfield.KernelIR.BuilderSafety
import Oakfield.KernelIR.Mathview
import Oakfield.Library.JsonString

/-! The rendering of an expression counts the text which it writes, unless it renders a warp. -/
namespace Oakfield.KernelIR

open Library Library.BoundedWriter

variable {D : Type}

/-! ### Appending -/

theorem emits_append (text : CText) :
    Emits .outOfMemory (simIrMathviewAppend text) text (.ok ()) where
  counts _ := rfl
  fits capacity sink hFits := by
    refine ⟨0, ?_⟩
    have hRoom : 0 < capacity - sink.offset := by omega
    have hHeld : text.length ≤ capacity - sink.offset - 1 := by omega
    have hOpen : ¬ (0 < capacity ∧ capacity ≤ sink.offset + text.length) := by omega
    simp only [simIrMathviewAppend, simIrMathviewRemaining, simIrMathviewChecked, if_pos hRoom,
      if_neg hOpen, List.take_of_length_le hHeld]
  overflows capacity sink hOpen hFull := by
    refine ⟨0, sink.offset + text.length, hFull, ?_⟩
    have hRoom : 0 < capacity - sink.offset := by omega
    have hChecked : 0 < capacity ∧ capacity ≤ sink.offset + text.length := by omega
    simp only [simIrMathviewAppend, simIrMathviewRemaining, simIrMathviewChecked, if_pos hRoom,
      if_pos hChecked, Nat.sub_right_comm capacity sink.offset 1]

theorem emits_appendRaw (text : CText) :
    Emits .outOfMemory (simIrMathviewAppendRaw text) text (.ok ()) where
  counts _ := rfl
  fits capacity sink hFits := by
    refine ⟨sink.memory (sink.offset + text.length), ?_⟩
    have hRoom : 0 < capacity - sink.offset := by omega
    have hHeld : text.length ≤ capacity - sink.offset := by omega
    have hOpen : ¬ (0 < capacity ∧ capacity ≤ sink.offset + text.length) := by omega
    simp only [simIrMathviewAppendRaw, simIrMathviewRemaining, simIrMathviewChecked, if_pos hRoom,
      if_neg hOpen, List.take_of_length_le hHeld, store_snoc]
  overflows capacity sink hOpen hFull := by
    have hLast : capacity - 1 - sink.offset < text.length := by omega
    refine ⟨text[capacity - 1 - sink.offset], sink.offset + text.length, hFull, ?_⟩
    have hRemaining : simIrMathviewRemaining (some capacity) sink.offset =
        capacity - 1 - sink.offset + 1 := by
      rw [simIrMathviewRemaining]
      omega
    have hChecked : 0 < capacity ∧ capacity ≤ sink.offset + text.length := by omega
    simp only [simIrMathviewAppendRaw, hRemaining, Nat.succ_pos, if_true, simIrMathviewChecked,
      if_pos hChecked, List.take_succ_eq_append_getElem hLast]

theorem emits_appendEscaped (ch : UInt8) :
    Emits .outOfMemory (simIrMathviewAppendEscaped ch) (simIrMathviewEscaped ch) (.ok ()) := by
  unfold simIrMathviewAppendEscaped
  split
  · exact emits_append _
  · exact emits_appendRaw _

theorem emits_appendJsonString (text : CText) :
    Emits .outOfMemory (simIrMathviewAppendJsonString text)
      ([34] ++ text.flatMap simIrMathviewEscaped ++ [34]) (.ok ()) := by
  have hQuote := emits_appendRaw (ascii "\"")
  have hText := (emits_map emits_appendEscaped text).cons (hQuote.cons emits_nil)
  rw [List.append_assoc]
  exact hQuote.cons hText

/-- A control character is written by its code. -/
theorem unicodeEscape_hexFour : ∀ n < 32,
    JsonString.unicodeEscape (hexDigit (n / 4096 % 16)) (hexDigit (n / 256 % 16))
      (hexDigit (n / 16 % 16)) (hexDigit (n % 16)) = some (UInt8.ofNat n) := by
  decide

theorem escapes_escaped (ch : UInt8) : JsonString.Escapes ch (simIrMathviewEscaped ch) := by
  intro rest
  unfold simIrMathviewEscaped
  split
  case isTrue h => exact JsonString.decodeBody_short (h ▸ rfl) rest
  split
  case isTrue h => exact JsonString.decodeBody_short (h ▸ rfl) rest
  split
  case isTrue h => exact JsonString.decodeBody_short (h ▸ rfl) rest
  split
  case isTrue h => exact JsonString.decodeBody_short (h ▸ rfl) rest
  split
  case isTrue h => exact JsonString.decodeBody_short (h ▸ rfl) rest
  split
  case isTrue hControl =>
    refine JsonString.decodeBody_unicode ?_ rest
    rw [unicodeEscape_hexFour ch.toNat hControl, UInt8.ofNat_toNat]
  case isFalse hQuote hBackslash _ _ _ hControl =>
    exact JsonString.decodeBody_plain hQuote hBackslash hControl rest

/-! ### Nodes -/

def SimIRNodeData.isWarp : SimIRNodeData D → Bool
  | .warp _ => true
  | _ => false

/-- Every operand below is a node, and none is rendered within its own rendering. -/
inductive SimIRBuilder.Renderable (builder : SimIRBuilder D) :
    Finset ℕ → SimIRNodeId → Prop where
  | node {unmarked : Finset ℕ} {id : SimIRNodeId} {node : SimIRNode D}
      (hNode : builder.node? id = some node) (hUnmarked : id ∈ unmarked)
      (hOperands : ∀ operand ∈ node.data.operands,
        builder.Renderable (unmarked.erase id) operand) :
      builder.Renderable unmarked id

/-- From left to right the first operand which is not renderable, if there is one, is behind
some warp with a renderable operand. -/
inductive SimIRBuilder.CompletesWarp (builder : SimIRBuilder D) :
    Finset ℕ → SimIRNodeId → Prop where
  | here {unmarked : Finset ℕ} {id : SimIRNodeId} {node : SimIRNode D}
      (hNode : builder.node? id = some node) (hUnmarked : id ∈ unmarked)
      (hWarp : node.data.isWarp = true)
      (hOperands : ∀ operand ∈ node.data.operands,
        builder.Renderable (unmarked.erase id) operand) :
      builder.CompletesWarp unmarked id
  | within {unmarked : Finset ℕ} {id operand : SimIRNodeId} {node : SimIRNode D}
      {before after : List SimIRNodeId} (hNode : builder.node? id = some node)
      (hUnmarked : id ∈ unmarked) (hData : node.data.operands = before ++ operand :: after)
      (hBefore : ∀ other ∈ before, builder.Renderable (unmarked.erase id) other)
      (hBelow : builder.CompletesWarp (unmarked.erase id) operand) :
      builder.CompletesWarp unmarked id

variable {builder : SimIRBuilder D} {unmarked : Finset ℕ} {id : SimIRNodeId} {node : SimIRNode D}

theorem renderable_iff (hNode : builder.node? id = some node) (hUnmarked : id ∈ unmarked) :
    builder.Renderable unmarked id ↔
      ∀ operand ∈ node.data.operands, builder.Renderable (unmarked.erase id) operand := by
  constructor
  · rintro ⟨hOther, -, hOperands⟩
    obtain rfl := Option.some.inj (hNode.symm.trans hOther)
    exact hOperands
  · exact .node hNode hUnmarked

theorem completesWarp_iff (hNode : builder.node? id = some node) (hUnmarked : id ∈ unmarked) :
    builder.CompletesWarp unmarked id ↔
      Meets (builder.Renderable (unmarked.erase id)) (builder.CompletesWarp (unmarked.erase id))
        (node.data.isWarp = true) node.data.operands := by
  rw [meets_iff]
  constructor
  · intro hCompletes
    cases hCompletes with
    | here hOther _ hWarp hOperands =>
        obtain rfl := Option.some.inj (hNode.symm.trans hOther)
        exact .inr ⟨hWarp, hOperands⟩
    | within hOther _ hData hBefore hBelow =>
        obtain rfl := Option.some.inj (hNode.symm.trans hOther)
        exact .inl ⟨_, _, _, hData, hBefore, hBelow⟩
  · rintro (⟨before, operand, after, hData, hBefore, hBelow⟩ | ⟨hWarp, hOperands⟩)
    · exact .within hNode hUnmarked hData hBefore hBelow
    · exact .here hNode hUnmarked hWarp hOperands

/-- In a renderable expression the warps are simply those reached. -/
theorem completesWarp_iff_reaches (hRenderable : builder.Renderable unmarked id) :
    builder.CompletesWarp unmarked id ↔ ∃ other node, builder.Reaches id other ∧
      builder.node? other = some node ∧ node.data.isWarp = true := by
  constructor
  · intro hCompletes
    clear hRenderable
    induction hCompletes with
    | here hNode _ hWarp _ => exact ⟨_, _, .refl, hNode, hWarp⟩
    | within hNode _ hData _ _ ih =>
        obtain ⟨other, node, hReaches, hFound⟩ := ih
        refine ⟨other, node, .head ⟨_, hNode, ?_⟩ hReaches, hFound⟩
        rw [hData]
        exact List.mem_append_right _ List.mem_cons_self
  · rintro ⟨other, node, hReaches, hOther, hWarp⟩
    induction hRenderable with
    | node hNode hUnmarked hOperands ih =>
        rcases Relation.ReflTransGen.cases_head hReaches with rfl |
          ⟨operand, ⟨_, hFirst, hMem⟩, hRest⟩
        · obtain rfl := Option.some.inj (hNode.symm.trans hOther)
          exact .here hNode hUnmarked hWarp hOperands
        · obtain rfl := Option.some.inj (hNode.symm.trans hFirst)
          obtain ⟨before, after, hData⟩ := List.append_of_mem hMem
          refine .within hNode hUnmarked hData (fun earlier hEarlier => hOperands earlier ?_)
            (ih operand hMem hRest)
          rw [hData]
          exact List.mem_append_left _ hEarlier

/-- The operands of a node which a constructor made come before it. -/
theorem renderable_of_built [CDouble D] (hBuilt : Built builder) :
    ∀ id < builder.count, ∀ unmarked : Finset ℕ, (∀ k ≤ id, k ∈ unmarked) →
      builder.Renderable unmarked id := by
  intro id
  induction id using Nat.strongRecOn with
  | ind id ih =>
      intro hCount unmarked hUnmarked
      obtain ⟨node, hNode⟩ := Option.isSome_iff_exists.mp (SimIRBuilder.node?_isSome.mpr hCount)
      refine .node hNode (hUnmarked id (Nat.le_refl _)) fun operand hOperand => ?_
      have hLess := (hBuilt.wellFormed.nodes id node hNode).operands_lt operand hOperand
      refine ih operand hLess (Nat.lt_trans hLess hCount) _ fun k hk => ?_
      exact Finset.mem_erase.mpr ⟨Nat.ne_of_lt (Nat.lt_of_le_of_lt hk hLess),
        hUnmarked k (Nat.le_of_lt (Nat.lt_of_le_of_lt hk hLess))⟩

variable [CDouble D] {texts : MathviewTexts D}

theorem head_texts (name : CText) (type : SimIRType) :
    ∀ writer ∈ simIrMathviewHead name type, ∃ text, Emits .outOfMemory writer text (.ok ()) := by
  simp only [simIrMathviewHead, List.forall_mem_cons]
  exact ⟨⟨_, emits_append _⟩, ⟨_, emits_append _⟩, ⟨_, emits_append _⟩,
    fun _ h => absurd h List.not_mem_nil⟩

/-- The calls for a node append texts and render its operands; only those for a warp end
without a result. -/
theorem nodeWriters_interleaved (child : SimIRNodeId → MathviewWriter) (type : SimIRType)
    (data : SimIRNodeData D) : ∃ last,
    Interleaved .outOfMemory child last (simIrMathviewNodeWriters texts builder child type data)
      data.operands ∧
    Outcome .outOfMemory (sequence last) True (data.isWarp = true) := by
  have hEnd : Outcome .outOfMemory (sequence [] : MathviewWriter) True (false = true) :=
    outcome_nil.congr Iff.rfl (by simp)
  have hString := fun text => emits_appendJsonString text
  have hText := fun text => emits_append text
  cases data with
  | constant value =>
      refine ⟨[], .ofTexts fun writer hMem => ?_, hEnd⟩
      rcases List.mem_append.mp hMem with hHead | hMem
      · exact head_texts _ _ writer hHead
      split at hMem
      · rcases List.mem_pair.mp hMem with rfl | rfl
        · exact ⟨_, hText _⟩
        · exact ⟨_, hText _⟩
      · simp only [List.mem_append, List.mem_flatMap, List.mem_cons, List.not_mem_nil,
          or_false] at hMem
        obtain (rfl | ⟨i, -, rfl | hComma⟩) | rfl := hMem
        · exact ⟨_, hText _⟩
        · exact ⟨_, hText _⟩
        · split at hComma
          · rw [List.mem_singleton.mp hComma]
            exact ⟨_, hText _⟩
          · exact absurd hComma List.not_mem_nil
        · exact ⟨_, hText _⟩
  | fieldRef field =>
      exact ⟨[], .texts (head_texts _ _) (.text (hString _) (.text (hText _) .last)), hEnd⟩
  | param kind =>
      exact ⟨[], .texts (head_texts _ _) (.text (hString _) (.text (hText _) .last)), hEnd⟩
  | index =>
      exact ⟨[], .texts (head_texts _ _) (.text (hString _) (.text (hText _) .last)), hEnd⟩
  | call kind operand =>
      exact ⟨[], .texts (head_texts _ _) (.text (hString _) (.text (hText _) (.part
        (.text (hText _) .last)))), hEnd⟩
  | floor operand =>
      exact ⟨[], .texts (head_texts _ _) (.text (hString _) (.text (hText _) (.part
        (.text (hText _) .last)))), hEnd⟩
  | binary op lhs rhs =>
      exact ⟨[], .texts (head_texts _ _) (.text (hString _) (.text (hText _) (.part
        (.text (hText _) (.part (.text (hText _) .last)))))), hEnd⟩
  | complexRotate operand angle =>
      exact ⟨[], .texts (head_texts _ _) (.text (hString _) (.text (hText _) (.part
        (.text (hText _) (.part (.text (hText _) .last)))))), hEnd⟩
  | complexPack real imag =>
      exact ⟨[], .texts (head_texts _ _) (.text (hString _) (.text (hText _) (.part
        (.text (hText _) (.part (.text (hText _) .last)))))), hEnd⟩
  | coord field axis =>
      refine ⟨[], ?_, hEnd⟩
      rw [simIrMathviewNodeWriters, List.append_assoc, List.append_assoc, List.cons_append,
        List.cons_append, List.nil_append]
      exact .texts (head_texts _ _) (.text (hString _) (.text (hText _)
        (.texts (head_texts _ _) (.text (hString _) (.text (hText _) (.text (hText _) .last))))))
  | diff spec =>
      exact ⟨[], .texts (head_texts _ _) (.text (hString _) (.text (hText _) (.part
        (.text (hText _) (.text (hString _) (.text (hText _) (.text (hString _)
          (.text (hText _) .last)))))))), hEnd⟩
  | noise spec =>
      exact ⟨[], .texts (head_texts _ _) (.text (hString _) (.text (hText _) (.text (hString _)
        (.text (hText _) (.text (hString _) (.text (hText _) .last)))))), hEnd⟩
  | warp spec =>
      exact ⟨[fun _ _ => none], .texts (head_texts _ _) (.text (hString _) (.text (hText _)
        (.text (hString _) (.text (hText _) (.part .last))))),
        (outcome_undefined fun _ => rfl).congr Iff.rfl (by simp [SimIRNodeData.isWarp])⟩
  | stateful spec =>
      exact ⟨[], .texts (head_texts _ _) (.text (hString _) (.text (hText _) (.text (hString _)
        (.text (hText _) .last)))), hEnd⟩

theorem renderNode_outcome (unmarked : Finset ℕ) : ∀ id,
    Outcome .outOfMemory (simIrMathviewRenderNode texts builder unmarked id)
      (builder.Renderable unmarked id) (builder.CompletesWarp unmarked id) := by
  induction unmarked using Finset.strongInduction with
  | H unmarked ih =>
      intro id
      rw [simIrMathviewRenderNode]
      cases hNode : builder.node? id with
      | none =>
          refine .refused ?_ ?_ (emits_fail _)
          · rintro ⟨hOther, -⟩
            cases hNode.symm.trans hOther
          · intro hCompletes
            cases hCompletes with
            | here hOther => cases hNode.symm.trans hOther
            | within hOther => cases hNode.symm.trans hOther
      | some node =>
          dsimp only
          by_cases hUnmarked : id ∈ unmarked
          · rw [dif_pos hUnmarked]
            obtain ⟨last, hSequence, hLast⟩ := @nodeWriters_interleaved D builder _ texts
              (fun operand => simIrMathviewRenderNode texts builder (unmarked.erase id) operand)
              node.valueType node.data
            have hChild := ih (unmarked.erase id) (Finset.erase_ssubset hUnmarked)
            exact (hSequence.outcome hLast fun operand _ => hChild operand).congr
              (renderable_iff hNode hUnmarked).symm (completesWarp_iff hNode hUnmarked).symm
          · rw [dif_neg hUnmarked]
            refine .refused ?_ ?_ (emits_fail _)
            · rintro ⟨-, hMem, -⟩
              exact hUnmarked hMem
            · intro hCompletes
              cases hCompletes with
              | here _ hMem => exact hUnmarked hMem
              | within _ hMem => exact hUnmarked hMem

/-! ### The protocol -/

/-- Without a buffer the length of the text is reported. A buffer which holds more than the text
gets it with a terminating character; a smaller one is an error and gets as much as it holds,
terminated too. Nothing else is written. -/
structure RendersText (texts : MathviewTexts D) (builder : Option (SimIRBuilder D))
    (root : SimIRNodeId) (text : CText) : Prop where
  counted : ∀ memory, simIrMathviewRender texts builder root true none memory =
    some ⟨memory, some text.length, .ok ()⟩
  written : ∀ capacity memory, text.length < capacity →
    simIrMathviewRender texts builder root true (some capacity) memory =
      some ⟨store memory 0 (text ++ [0]), some text.length, .ok ()⟩
  truncated : ∀ capacity memory, 0 < capacity → capacity ≤ text.length → ∃ length error,
    simIrMathviewRender texts builder root true (some capacity) memory =
      some ⟨store memory 0 (text.take (capacity - 1) ++ [0]), some length, .error error⟩

/-- Every call fails, and leaves a terminated text in the buffer. -/
structure RefusesRoot (texts : MathviewTexts D) (builder : Option (SimIRBuilder D))
    (root : SimIRNodeId) : Prop where
  counted : ∃ length error, ∀ memory, simIrMathviewRender texts builder root true none memory =
    some ⟨memory, some length, .error error⟩
  bounded : ∀ capacity memory, 0 < capacity → ∃ written length error, written.length < capacity ∧
    simIrMathviewRender texts builder root true (some capacity) memory =
      some ⟨store memory 0 (written ++ [0]), some length, .error error⟩

/-- The root is a node of the builder, and everything below it can be rendered. -/
def RenderableRoot (builder : Option (SimIRBuilder D)) (root : SimIRNodeId) : Prop :=
  ∃ nodes, builder = some nodes ∧ nodes.Renderable (Finset.range nodes.count) root

/-- The rendering comes to the end of a warp. -/
def CompletesWarpBelow (builder : Option (SimIRBuilder D)) (root : SimIRNodeId) : Prop :=
  ∃ nodes, builder = some nodes ∧ nodes.CompletesWarp (Finset.range nodes.count) root

/-- One text for all calls, and an error from all of them where there is no text. -/
def BoundedProtocol (texts : MathviewTexts D) (builder : Option (SimIRBuilder D))
    (root : SimIRNodeId) : Prop :=
  (RenderableRoot builder root → ∃ text, RendersText texts builder root text) ∧
    (¬ RenderableRoot builder root → RefusesRoot texts builder root)

/-! ### Renderings -/

variable {root : SimIRNodeId} {input : Option (SimIRBuilder D)} {text : CText}
  {result : Except SimError Unit}

theorem body_outcome : Outcome .outOfMemory (simIrMathviewBody texts input root)
    (RenderableRoot input root) (CompletesWarpBelow input root) := by
  refine Outcome.afterText ?_ (emits_append _)
  cases input with
  | none =>
      have hRoot : Outcome .outOfMemory (fail .invalidArgument : MathviewWriter)
          (RenderableRoot (none : Option (SimIRBuilder D)) root)
          (CompletesWarpBelow (none : Option (SimIRBuilder D)) root) := by
        refine .refused ?_ ?_ (emits_fail _)
        · rintro ⟨_, hNone, -⟩
          cases hNone
        · rintro ⟨_, hNone, -⟩
          cases hNone
      exact (hRoot.part outcome_nil).congr (and_iff_left trivial) (by simp)
  | some nodes =>
      have hRoot : Outcome .outOfMemory
          (simIrMathviewRenderNode texts nodes (Finset.range nodes.count) root)
          (RenderableRoot (some nodes) root) (CompletesWarpBelow (some nodes) root) := by
        have hHere : ∀ property : SimIRBuilder D → Prop,
            property nodes ↔ ∃ builder, some nodes = some builder ∧ property builder := by
          refine fun property => ⟨fun h => ⟨nodes, rfl, h⟩, ?_⟩
          rintro ⟨_, hNodes, h⟩
          exact Option.some.inj hNodes ▸ h
        exact (renderNode_outcome _ root).congr
          (hHere fun builder => builder.Renderable (Finset.range builder.count) root)
          (hHere fun builder => builder.CompletesWarp (Finset.range builder.count) root)
      exact (hRoot.part outcome_nil).congr (and_iff_left trivial) (by simp)

theorem render_granted (bound : Option ℕ) (memory : ℕ → UInt8) :
    simIrMathviewRender texts input root true bound memory =
      (simIrMathviewBody texts input root bound ⟨memory, 0⟩).map fun ended =>
        simIrMathviewFinish bound ended.1 ended.2 := by
  rw [simIrMathviewRender, Bool.not_true, Bool.and_false, if_neg Bool.false_ne_true]

theorem render_undefined (hCompletes : CompletesWarpBelow input root) (memory : ℕ → UInt8) :
    simIrMathviewRender texts input root true none memory = none := by
  rw [render_granted]
  cases @body_outcome D _ texts root input with
  | finished _ hNot => exact absurd hCompletes hNot
  | refused _ hNot => exact absurd hCompletes hNot
  | undefined _ hUndefined => rw [hUndefined, Option.map_none]

section Emitted

variable (hBody : Emits .outOfMemory (simIrMathviewBody texts input root) text result)
include hBody

theorem render_counted (memory : ℕ → UInt8) :
    simIrMathviewRender texts input root true none memory =
      some ⟨memory, some text.length, result⟩ := by
  rw [render_granted, hBody.counts, Option.map_some, simIrMathviewFinish, Nat.zero_add]

theorem render_written {capacity : ℕ} (hFits : text.length < capacity) (memory : ℕ → UInt8) :
    simIrMathviewRender texts input root true (some capacity) memory =
      some ⟨store memory 0 (text ++ [0]), some text.length, result⟩ := by
  obtain ⟨x, hX⟩ := hBody.fits capacity ⟨memory, 0⟩ (by rwa [Nat.zero_add])
  have hStore := store_store memory 0 text [] x 0
  rw [List.nil_append, List.append_nil, Nat.zero_add] at hStore
  dsimp only at hX
  rw [Nat.zero_add] at hX
  rw [render_granted, hX, Option.map_some]
  dsimp only [simIrMathviewFinish]
  rw [if_neg (Nat.ne_of_gt (Nat.zero_lt_of_lt hFits)), if_neg (Nat.not_le_of_lt hFits), hStore]

theorem render_truncated {capacity : ℕ} (hOpen : 0 < capacity) (hFull : capacity ≤ text.length)
    (memory : ℕ → UInt8) : ∃ length,
    simIrMathviewRender texts input root true (some capacity) memory =
      some ⟨store memory 0 (text.take (capacity - 1) ++ [0]), some length,
        .error .outOfMemory⟩ := by
  obtain ⟨x, offset, hOffset, hX⟩ :=
    hBody.overflows capacity ⟨memory, 0⟩ hOpen (by rwa [Nat.zero_add])
  have hLength : (text.take (capacity - 1)).length = capacity - 1 := by
    rw [List.length_take]
    omega
  have hStore := store_store memory 0 (text.take (capacity - 1)) [] x 0
  rw [List.nil_append, List.append_nil, Nat.zero_add, hLength] at hStore
  dsimp only at hX
  rw [Nat.sub_zero] at hX
  refine ⟨offset, ?_⟩
  rw [render_granted, hX, Option.map_some]
  dsimp only [simIrMathviewFinish]
  rw [if_neg (Nat.ne_of_gt hOpen), if_pos hOffset, hStore]

end Emitted

/-- The rendering keeps to the bounded protocol, and strings in it decode to what they stand
for, unless it comes to the end of a warp. -/
theorem simIrMathviewRender_protocol (texts : MathviewTexts D)
    (builder : Option (SimIRBuilder D)) (root : SimIRNodeId) :
    (BoundedProtocol texts builder root ∧ ∀ label, ∃ text,
      Emits .outOfMemory (simIrMathviewAppendJsonString label) text (.ok ()) ∧
        JsonString.decode text = some label) ↔
      ¬ CompletesWarpBelow builder root := by
  constructor
  · rintro ⟨⟨hRenders, hRefuses⟩, -⟩ hCompletes
    have hNone := @render_undefined D _ texts root builder hCompletes (fun _ => 0)
    by_cases hRoot : RenderableRoot builder root
    · obtain ⟨text, hText⟩ := hRenders hRoot
      cases hNone.symm.trans (hText.counted _)
    · obtain ⟨length, error, hCounted⟩ := (hRefuses hRoot).counted
      cases hNone.symm.trans (hCounted _)
  · intro hNot
    refine ⟨⟨fun hRoot => ?_, fun hRoot => ?_⟩, fun label =>
      ⟨_, emits_appendJsonString label, JsonString.decode_literal escapes_escaped label⟩⟩
    · cases @body_outcome D _ texts root builder with
      | @finished _ _ text hBody =>
          refine ⟨text, render_counted hBody, fun capacity memory hFits =>
            render_written hBody hFits memory, fun capacity memory hOpen hFull => ?_⟩
          obtain ⟨length, hLength⟩ := render_truncated hBody hOpen hFull memory
          exact ⟨length, _, hLength⟩
      | refused hRefuses => exact absurd hRoot hRefuses
      | undefined hCompletes => exact absurd hCompletes hNot
    · cases @body_outcome D _ texts root builder with
      | finished hRenders => exact absurd hRenders hRoot
      | @refused _ _ text error hBody =>
          refine ⟨⟨text.length, error, render_counted hBody⟩, fun capacity memory hOpen => ?_⟩
          by_cases hFits : text.length < capacity
          · exact ⟨text, _, _, hFits, render_written hBody hFits memory⟩
          · obtain ⟨length, hLength⟩ :=
              render_truncated hBody hOpen (Nat.le_of_not_lt hFits) memory
            refine ⟨text.take (capacity - 1), length, _, ?_, hLength⟩
            rw [List.length_take]
            omega
      | undefined hCompletes => exact absurd hCompletes hNot

/-! ### A warp of a constant -/

/-- The texts play no part in it. -/
def plainTexts : MathviewTexts ℤ := ⟨fun value => signedDecimal value, fun _ => []⟩

def warpedConstant : SimIRBuilder ℤ :=
  BuilderCall.runAll [.constant 2, .warp 0 (some .digamma) 0 0 0]

theorem warpedConstant_breaksProtocol : Built warpedConstant ∧
    RenderableRoot (some warpedConstant) 1 ∧
    ¬ BoundedProtocol plainTexts (some warpedConstant) 1 := by
  have hNode : warpedConstant.node? 0 = some warpedConstant.nodes[0] := rfl
  have hWarp : warpedConstant.node? 1 = some warpedConstant.nodes[1] := rfl
  have hConstant : warpedConstant.Renderable ((Finset.range 2).erase 1) 0 :=
    .node hNode (by decide) (fun _ h => absurd h List.not_mem_nil)
  have hOperands : ∀ operand ∈ [0], warpedConstant.Renderable ((Finset.range 2).erase 1) operand :=
    fun operand hOperand => List.mem_singleton.mp hOperand ▸ hConstant
  have hRoot : RenderableRoot (some warpedConstant) 1 :=
    ⟨_, rfl, .node hWarp (by decide) hOperands⟩
  have hCompletes : CompletesWarpBelow (some warpedConstant) 1 :=
    ⟨_, rfl, .here hWarp (by decide) rfl hOperands⟩
  refine ⟨built_runAll _, hRoot, fun hProtocol => ?_⟩
  obtain ⟨text, hText⟩ := hProtocol.1 hRoot
  have hNone := @render_undefined ℤ _ plainTexts _ _ hCompletes (fun _ => 0)
  cases hNone.symm.trans (hText.counted _)

end Oakfield.KernelIR
