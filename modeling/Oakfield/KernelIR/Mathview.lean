import Mathlib.Data.Finset.Card
import Mathlib.Data.Finset.Range
import Oakfield.KernelIR.Builder
import Oakfield.Library.BoundedWriter

/-! The canonical text of kernel expressions, counted or written into a bounded buffer. -/
namespace Oakfield.KernelIR

open Library.BoundedWriter

variable {D : Type} [CDouble D]

/-- The bytes of a C string, without the terminating one. -/
abbrev CText := List UInt8

def ascii (text : String) : CText := text.toList.map fun c => UInt8.ofNat c.toNat

/-- The conversions `%zu` and `%u`, and `%d` with its sign. -/
def decimal (n : ℕ) : CText := ascii (toString n)

def signedDecimal (n : ℤ) : CText := ascii (toString n)

def hexDigit (n : ℕ) : UInt8 := UInt8.ofNat (if n < 10 then 48 + n else 87 + n)

/-- The conversion `%04x`, for fewer than five digits. -/
def hexFour (n : ℕ) : CText :=
  [hexDigit (n / 4096 % 16), hexDigit (n / 256 % 16), hexDigit (n / 16 % 16), hexDigit (n % 16)]

/-- What the rendering reads beside the nodes: the conversion `%.17g`, and the string at the
address of a label. -/
structure MathviewTexts (D : Type) where
  printDouble : D → CText
  labelText : ℕ → CText

/-! ### Appending

The offset counts the characters one by one and does not come near `SIZE_MAX`. -/

abbrev MathviewWriter := SinkWriter UInt8 SimError

/-- The characters left in the buffer, none without a buffer. -/
def simIrMathviewRemaining (bound : Option ℕ) (offset : ℕ) : ℕ :=
  match bound with
  | some capacity => capacity - offset
  | none => 0

/-- The check behind an append. -/
def simIrMathviewChecked (bound : Option ℕ) (offset : ℕ) : Except SimError Unit :=
  match bound with
  | some capacity => if 0 < capacity ∧ capacity ≤ offset then .error .outOfMemory else .ok ()
  | none => .ok ()

/-- `sim_ir_mathview_append` of a formatted text: `vsnprintf` cuts the text and ends it by a
terminating character. -/
def simIrMathviewAppend (text : CText) : MathviewWriter := fun bound sink =>
  let remaining := simIrMathviewRemaining bound sink.offset
  let memory :=
    if 0 < remaining then store sink.memory sink.offset (text.take (remaining - 1) ++ [0])
    else sink.memory
  let offset := sink.offset + text.length
  some (⟨memory, offset⟩, simIrMathviewChecked bound offset)

/-- `sim_ir_mathview_append_raw`: `memcpy` cuts the text and does not end it. -/
def simIrMathviewAppendRaw (text : CText) : MathviewWriter := fun bound sink =>
  let remaining := simIrMathviewRemaining bound sink.offset
  let memory :=
    if 0 < remaining then store sink.memory sink.offset (text.take remaining) else sink.memory
  let offset := sink.offset + text.length
  some (⟨memory, offset⟩, simIrMathviewChecked bound offset)

/-- The switch over one character of a string. -/
def simIrMathviewEscaped (ch : UInt8) : CText :=
  if ch = 34 then ascii "\\\""
  else if ch = 92 then ascii "\\\\"
  else if ch = 10 then ascii "\\n"
  else if ch = 13 then ascii "\\r"
  else if ch = 9 then ascii "\\t"
  else if ch < 0x20 then ascii "\\u" ++ hexFour ch.toNat
  else [ch]

/-- Only the control characters without an escape of their own are formatted. -/
def simIrMathviewAppendEscaped (ch : UInt8) : MathviewWriter :=
  if ch ≠ 10 ∧ ch ≠ 13 ∧ ch ≠ 9 ∧ ch < 0x20 then simIrMathviewAppend (simIrMathviewEscaped ch)
  else simIrMathviewAppendRaw (simIrMathviewEscaped ch)

def simIrMathviewAppendJsonEscaped (text : CText) : MathviewWriter :=
  sequence (text.map simIrMathviewAppendEscaped)

def simIrMathviewAppendJsonString (text : CText) : MathviewWriter :=
  sequence [simIrMathviewAppendRaw (ascii "\""), simIrMathviewAppendJsonEscaped text,
    simIrMathviewAppendRaw (ascii "\"")]

/-! ### Names -/

/-- `sim_scalar_domain_name`. -/
def simScalarDomainName (domain : SimScalarDomain) : CText :=
  match domain.kind, domain.bitWidth, domain.isSigned with
  | .real, 64, _ => ascii "f64"
  | .complex, 64, _ => ascii "c64"
  | .integer, 8, true => ascii "i8"
  | .integer, 32, true => ascii "i32"
  | .integer, 64, true => ascii "i64"
  | .integer, 8, false => ascii "u8"
  | .integer, 32, false => ascii "u32"
  | .integer, 64, false => ascii "u64"
  | .unknown, _, _ => ascii "unknown"
  | .real, _, _ => ascii "real"
  | .complex, _, _ => ascii "complex"
  | .integer, _, _ => ascii "integer"
  | .modular, _, _ => ascii "modular"

def simIrMathviewParamName : SimIRParamKind → CText
  | .dt => ascii "dt"
  | .stepIndex => ascii "step_index"
  | .sqrtDt => ascii "sqrt_dt"
  | .time => ascii "time"

def simIrMathviewNoiseLawName : SimIRNoiseLaw → CText
  | .stratonovich => ascii "stratonovich"
  | .ito => ascii "ito"

def simIrMathviewNoiseDistributionName : SimIRNoiseDistribution → CText
  | .gaussian => ascii "gaussian"
  | .uniform => ascii "uniform"

def simIrMathviewWarpProfileName : SimIRWarpProfile → CText
  | .trigamma => ascii "trigamma"
  | .digamma7Tail => ascii "digamma_7_tail"
  | .digamma5Tail => ascii "digamma_5_tail"
  | .digammaAdaptive => ascii "digamma_adaptive"
  | .digammaMortici => ascii "digamma_mortici"
  | .digamma => ascii "digamma"

def simIrMathviewCallName : SimIRCallKind → CText
  | .sin => ascii "sin"
  | .cos => ascii "cos"
  | .exp => ascii "exp"
  | .abs => ascii "abs"
  | .log => ascii "log"
  | .tanh => ascii "tanh"
  | .sinh => ascii "sinh"
  | .sign => ascii "sign"

def simIrMathviewBoundaryName : SimIRBoundaryPolicy → CText
  | .dirichlet => ascii "dirichlet"
  | .periodic => ascii "periodic"
  | .reflective => ascii "reflective"
  | .neumann => ascii "neumann"

def simIrMathviewDiffMethodName : SimIRDiffMethod → CText
  | .forward => ascii "forward"
  | .backward => ascii "backward"
  | .central => ascii "central"
  | .auto => ascii "auto"

/-- The name in front of the type of a binary node, and its operator. -/
def simIrMathviewBinaryName : SimIRBinaryOp → CText × CText
  | .add => (ascii "Binary", ascii "+")
  | .sub => (ascii "Binary", ascii "-")
  | .mul => (ascii "Binary", ascii "*")
  | .div => (ascii "Binary", ascii "/")
  | .pow => (ascii "Call", ascii "pow")
  | .mod => (ascii "Call", ascii "mod")

/-- A symbol is printed into 64 characters. -/
def simIrMathviewSymbol (text : CText) : CText := text.take 63

/-! ### Values and types -/

/-- `type.components == 0U ? 1U : type.components`. -/
def SimIRType.mathviewLanes (type : SimIRType) : ℕ :=
  if type.components = 0 then 1 else type.components

def simIrMathviewTypeBlock (type : SimIRType) : CText :=
  let lanes := type.mathviewLanes
  let kind := if type.kind = .scalar ∨ lanes ≤ 1 then ascii "scalar" else ascii "vector"
  let isComplex := if type.domain.isComplex then ascii "true" else ascii "false"
  ascii "\x7bkind=" ++ kind ++ ascii ",lanes=" ++ decimal lanes ++ ascii ",complex=" ++ isComplex ++
    ascii ",scalar_domain=" ++ simScalarDomainName type.domain ++ ascii "\x7d"

variable (texts : MathviewTexts D) (builder : SimIRBuilder D)

/-- `sim_ir_mathview_append_scalar_constant`. -/
def simIrMathviewScalarConstant (type : SimIRType) (value : SimIRConstant D) : CText :=
  if type.domain.isInteger && value.exactInteger then
    if type.domain.isSigned then signedDecimal value.signedScalar.toInt
    else decimal value.unsignedScalar.toNat
  else texts.printDouble value.scalar

/-- `sim_ir_mathview_constant_value`. -/
def simIrMathviewConstantValue (type : SimIRType) (value : SimIRConstant D) (component : ℕ) :
    Option D :=
  if type.mathviewLanes ≤ 1 then some value.scalar
  else
    match value.constantIndex with
    | some idx =>
        if idx < builder.constantsOffsets.length ∧
            component < builder.constantsComponents.getD idx 0 then
          builder.constantsData[builder.constantsOffsets.getD idx 0 + component]?
        else none
    | none => if component < simIrSmallConstantCapacity then value.small[component]? else none

/-! ### Nodes -/

/-- The appends in front of what is in parentheses. -/
def simIrMathviewHead (name : CText) (type : SimIRType) : List MathviewWriter :=
  [simIrMathviewAppend name, simIrMathviewAppend (simIrMathviewTypeBlock type),
    simIrMathviewAppend (ascii "(")]

/-- The calls for one node, which stop at the first failure; `child` renders an operand. -/
def simIrMathviewNodeWriters (child : SimIRNodeId → MathviewWriter) (type : SimIRType) :
    SimIRNodeData D → List MathviewWriter
  | .constant value =>
      simIrMathviewHead (ascii "Const") type ++
        if type.mathviewLanes ≤ 1 then
          [simIrMathviewAppend (simIrMathviewScalarConstant texts type value),
            simIrMathviewAppend (ascii ")")]
        else
          [simIrMathviewAppend (ascii "[")] ++
            (List.range type.mathviewLanes).flatMap (fun i =>
              simIrMathviewAppend (texts.printDouble
                ((simIrMathviewConstantValue builder type value i).getD CDouble.zero)) ::
              if i + 1 < type.mathviewLanes then [simIrMathviewAppend (ascii ",")] else []) ++
            [simIrMathviewAppend (ascii "])")]
  | .fieldRef field =>
      simIrMathviewHead (ascii "Symbol") type ++
        [simIrMathviewAppendJsonString (simIrMathviewSymbol (ascii "field:" ++ decimal field)),
          simIrMathviewAppend (ascii ")")]
  | .param kind =>
      simIrMathviewHead (ascii "Symbol") type ++
        [simIrMathviewAppendJsonString
            (simIrMathviewSymbol (ascii "param:" ++ simIrMathviewParamName kind)),
          simIrMathviewAppend (ascii ")")]
  | .index =>
      simIrMathviewHead (ascii "Symbol") type ++
        [simIrMathviewAppendJsonString (ascii "index"), simIrMathviewAppend (ascii ")")]
  | .call kind operand =>
      simIrMathviewHead (ascii "Call") type ++
        [simIrMathviewAppendJsonString (simIrMathviewCallName kind),
          simIrMathviewAppend (ascii ","), child operand, simIrMathviewAppend (ascii ")")]
  | .floor operand =>
      simIrMathviewHead (ascii "Call") type ++
        [simIrMathviewAppendJsonString (ascii "floor"), simIrMathviewAppend (ascii ","),
          child operand, simIrMathviewAppend (ascii ")")]
  | .binary op lhs rhs =>
      simIrMathviewHead (simIrMathviewBinaryName op).1 type ++
        [simIrMathviewAppendJsonString (simIrMathviewBinaryName op).2,
          simIrMathviewAppend (ascii ","), child lhs, simIrMathviewAppend (ascii ","), child rhs,
          simIrMathviewAppend (ascii ")")]
  | .coord field axis =>
      simIrMathviewHead (ascii "Call") type ++
        [simIrMathviewAppendJsonString (ascii "coord"), simIrMathviewAppend (ascii ",")] ++
        simIrMathviewHead (ascii "Symbol") simIrTypeScalar ++
        [simIrMathviewAppendJsonString (simIrMathviewSymbol (ascii "field:" ++ decimal field)),
          simIrMathviewAppend (ascii ")"),
          simIrMathviewAppend (ascii "," ++ decimal axis ++ ascii ")")]
  | .diff spec =>
      simIrMathviewHead (ascii "Call") type ++
        [simIrMathviewAppendJsonString (ascii "diff"), simIrMathviewAppend (ascii ","),
          child spec.operand,
          simIrMathviewAppend (ascii "," ++ decimal spec.axis ++ ascii "," ++
            texts.printDouble spec.dx ++ ascii "," ++ texts.printDouble spec.scale ++
            ascii "," ++ decimal spec.order ++ ascii "," ++ decimal spec.stencilOrder ++
            ascii ","),
          simIrMathviewAppendJsonString (simIrMathviewDiffMethodName spec.method),
          simIrMathviewAppend (ascii "," ++ texts.printDouble spec.consistencyConstant ++
            ascii ","),
          simIrMathviewAppendJsonString (simIrMathviewBoundaryName spec.boundary),
          simIrMathviewAppend (ascii ")")]
  | .noise spec =>
      simIrMathviewHead (ascii "Call") type ++
        [simIrMathviewAppendJsonString (ascii "noise"),
          simIrMathviewAppend (ascii "," ++ decimal spec.seed.toNat ++ ascii "," ++
            texts.printDouble spec.amplitude ++ ascii "," ++ texts.printDouble spec.variance ++
            ascii ","),
          simIrMathviewAppendJsonString (simIrMathviewNoiseLawName spec.law),
          simIrMathviewAppend (ascii ","),
          simIrMathviewAppendJsonString (simIrMathviewNoiseDistributionName spec.distribution),
          simIrMathviewAppend (ascii ")")]
  | .warp spec =>
      simIrMathviewHead (ascii "Call") type ++
        [simIrMathviewAppendJsonString (ascii "warp"), simIrMathviewAppend (ascii ","),
          simIrMathviewAppendJsonString (simIrMathviewWarpProfileName spec.profile),
          simIrMathviewAppend (ascii ","), child spec.operand,
          -- the format has nine conversions and the call passes eight values, the four
          -- parameters and the four members of the guard: it has no defined result
          fun _ _ => none]
  | .complexRotate operand angle =>
      simIrMathviewHead (ascii "Call") type ++
        [simIrMathviewAppendJsonString (ascii "complex_rotate"), simIrMathviewAppend (ascii ","),
          child operand, simIrMathviewAppend (ascii ","), child angle,
          simIrMathviewAppend (ascii ")")]
  | .complexPack real imag =>
      simIrMathviewHead (ascii "Call") type ++
        [simIrMathviewAppendJsonString (ascii "complex_pack"), simIrMathviewAppend (ascii ","),
          child real, simIrMathviewAppend (ascii ","), child imag,
          simIrMathviewAppend (ascii ")")]
  | .stateful spec =>
      simIrMathviewHead (ascii "Call") type ++
        [simIrMathviewAppendJsonString (ascii "stateful"), simIrMathviewAppend (ascii ","),
          simIrMathviewAppendJsonString
            (if spec.label = 0 then ascii "stateful" else texts.labelText spec.label),
          simIrMathviewAppend (ascii ")")]

/-- `sim_ir_mathview_render_node`; `unmarked` holds the nodes whose stack flag is clear. The
flag of a node is set for the calls of its operands and cleared behind them. -/
def simIrMathviewRenderNode (unmarked : Finset ℕ) (id : SimIRNodeId) : MathviewWriter :=
  match builder.node? id with
  | none => fail .invalidArgument
  | some node =>
      if _ : id ∈ unmarked then
        sequence (simIrMathviewNodeWriters texts builder
          (fun operand => simIrMathviewRenderNode (unmarked.erase id) operand) node.valueType
          node.data)
      else fail .dependencyError
termination_by unmarked.card
decreasing_by exact Finset.card_erase_lt_of_mem ‹_›

/-! ### Rendering -/

/-- What a call leaves: the memory behind the buffer, the length when it was stored, and the
result. -/
structure MathviewRendered where
  memory : ℕ → UInt8
  length : Option ℕ
  result : Except SimError Unit

def simIrMathviewHeader : CText := ascii "math:v1.0;complex=cartesian;branch=principal;"

/-- The calls of the rendering up to the first failure. -/
def simIrMathviewBody (builder : Option (SimIRBuilder D)) (root : SimIRNodeId) : MathviewWriter :=
  sequence [simIrMathviewAppend simIrMathviewHeader,
    match builder with
    | none => fail .invalidArgument
    | some builder => simIrMathviewRenderNode texts builder (Finset.range builder.count) root]

/-- The end of a call, which stores the length and terminates the buffer. -/
def simIrMathviewFinish (bound : Option ℕ) (sink : Sink UInt8) (result : Except SimError Unit) :
    MathviewRendered :=
  match bound with
  | none => ⟨sink.memory, some sink.offset, result⟩
  | some capacity =>
      if capacity = 0 then ⟨sink.memory, some sink.offset, result⟩
      else if capacity ≤ sink.offset then
        ⟨store sink.memory (capacity - 1) [0], some sink.offset,
          match result with
          | .ok () => .error .outOfMemory
          | .error error => .error error⟩
      else ⟨store sink.memory sink.offset [0], some sink.offset, result⟩

/-- `sim_ir_mathview_render` into a buffer of a capacity, or without a buffer; `granted` says
that `calloc` returned the stack flags. -/
def simIrMathviewRender (builder : Option (SimIRBuilder D)) (root : SimIRNodeId) (granted : Bool)
    (bound : Option ℕ) (memory : ℕ → UInt8) : Option MathviewRendered :=
  if builder.any (fun builder => decide (0 < builder.count)) && !granted then
    some ⟨memory, none, .error .outOfMemory⟩
  else
    (simIrMathviewBody texts builder root bound ⟨memory, 0⟩).map fun ended =>
      simIrMathviewFinish bound ended.1 ended.2

end Oakfield.KernelIR
