import ShaderFlow.Interface.Effect
import ShaderFlow.Interface.Fault
import ShaderFlow.Signature

/-!
# Declaring inputs and outputs

`Interface.declare` records one declaration of a stage input or output: it adds an argument or a
member to the entry point together with the effect that moves its data, so that both lists stay in
step.
-/

namespace ShaderFlow

/-- The entry point of a program and its effects. -/
structure Interface where
  entryPoint : EntryPoint := {}
  atEntry : List EntryEffect := []
  atExit : List ExitEffect := []
  /-- One more than the highest input register written at entry. -/
  inputRegisters : Nat := 0
  /-- One more than the highest output register read at exit. -/
  outputRegisters : Nat := 0
  /-- Whether the depth is an output. -/
  hasDepth : Bool := false
  deriving DecidableEq

/-- A declaration, with what is known about the program it stands in. -/
structure StageDeclaration where
  stage : Stage
  signatures : Signatures
  instruction : Instruction

namespace StageDeclaration

/-- The operand that is declared. -/
def operand (d : StageDeclaration) : Except InterfaceFault Operand :=
  orFault (d.instruction.operand? 0) (.missingOperand d.instruction.opcode)

/-- The declared register and its components. -/
def register (d : StageDeclaration) : Except InterfaceFault (UInt32 × Mask) := do
  let o ← d.operand
  match o.index with
  | .d1 register => return (register, o.mask)
  | .d2 _ _ => throw (.perVertexRegister o.kind)
  | index => throw (.indexDimension o.kind index)

/-- The declared system value. -/
def systemName (d : StageDeclaration) : Except InterfaceFault SystemName :=
  match d.instruction.declaration with
  | some (.inputSystemValue name) | some (.pixelInputSystemValue name _)
  | some (.outputSystemValue name) => .ok name
  | _ => .error (.missingSystemValue d.instruction.opcode)

/-- The declared interpolation mode. -/
def interpolationMode (d : StageDeclaration) : InterpolationMode :=
  match d.instruction.declaration with
  | some (.pixelInput mode) | some (.pixelInputSystemValue _ mode) => mode
  | _ => .undefined

/-- The declared interpolation. -/
def interpolation (d : StageDeclaration) : Except InterfaceFault Interpolation :=
  orFault (Interpolation.ofMode? d.interpolationMode) (.invalidInterpolation d.interpolationMode)

/-- The signature element for an input register. -/
def inputElement (d : StageDeclaration) (register : UInt32) (mask : Mask) :
    Except InterfaceFault SignatureElement :=
  orFault (d.signatures.findInput register mask) (.noInputElement register)

/-- The signature element for an output register. -/
def outputElement (d : StageDeclaration) (register : UInt32) (mask : Mask) :
    Except InterfaceFault SignatureElement :=
  orFault (d.signatures.findOutput register mask) (.noOutputElement register)

/-- The declaration is allowed in one stage only. -/
def requireStage (d : StageDeclaration) (stage : Stage) : Except InterfaceFault Unit :=
  require (d.stage = stage) (.wrongStage d.instruction.opcode d.stage)

end StageDeclaration

/-- Integers cannot be interpolated. -/
def requireFlat (i : Interpolation) : Except InterfaceFault Unit :=
  require (i = .flat) (.interpolatedInteger i)

/-- The number of registers up to and with a given one; the last register number has no successor
and is refused. -/
def registerEnd (register : UInt32) : Except InterfaceFault Nat := do
  require (register ≠ 0xffffffff) (.registerOutOfRange register)
  return register.toNat + 1

/-- The thread position that an operand names. -/
def OperandKind.threadBuiltin? : OperandKind → Option ThreadBuiltin
  | .inputThreadId => some .positionInGrid
  | .inputThreadGroupId => some .groupPositionInGrid
  | .inputThreadIdInGroup => some .positionInGroup
  | .inputThreadIdInGroupFlattened => some .indexInGroup
  | _ => none

/-- The bound that comes with a depth register. -/
def OperandKind.depthBound? : OperandKind → Option DepthBound
  | .outputDepth => some .any
  | .outputDepthGreaterEqual => some .greater
  | .outputDepthLessEqual => some .less
  | _ => none

/-- A step that records declarations of inputs and outputs. -/
abbrev DeclareStage := EStateM InterfaceFault Interface

namespace Interface

/-! ## Elementary steps -/

/-- Adds an argument and gives its position. -/
def addArgument (a : Argument) : DeclareStage Nat :=
  modifyGet fun s =>
    let (position, entryPoint) := s.entryPoint.addArgument a
    (position, { s with entryPoint })

/-- Adds a member to the returned value and gives its position. -/
def addMember (m : Member) : DeclareStage Nat :=
  modifyGet fun s =>
    let (position, entryPoint) := s.entryPoint.addMember m
    (position, { s with entryPoint })

/-- Adds an effect at entry. -/
def addEntryEffect (e : EntryEffect) : DeclareStage Unit :=
  modify fun s => { s with atEntry := s.atEntry ++ [e] }

/-- Adds an effect at exit. -/
def addExitEffect (e : ExitEffect) : DeclareStage Unit :=
  modify fun s => { s with atExit := s.atExit ++ [e] }

/-- Takes note of an input register. -/
def touchInput (register : UInt32) : DeclareStage Unit := do
  let bound ← registerEnd register
  modify fun s => { s with inputRegisters := max s.inputRegisters bound }

/-- Adds an argument that is written to an input register. -/
def initInput (a : Argument) (register : UInt32) (mask : Mask) : DeclareStage Unit := do
  touchInput register
  let argument ← addArgument a
  addEntryEffect (.initRegister argument register mask)

/-- Adds an identifier and its base, whose difference is written to an input register. -/
def relativeInput (value base : Argument) (register : UInt32) (mask : Mask) :
    DeclareStage Unit := do
  touchInput register
  let value ← addArgument value
  let base ← addArgument base
  addEntryEffect (.storeRelative value base register mask)

/-- Adds a member that is read from an output register. -/
def popOutput (m : Member) (register : UInt32) (mask : Mask) : DeclareStage Unit := do
  let bound ← registerEnd register
  let member ← addMember m
  addExitEffect (.popRegister register mask member)
  modify fun s => { s with outputRegisters := max s.outputRegisters bound }

/-! ## Declarations -/

/-- A register that a vertex shader reads from its input stream. -/
def declareVertexInput (d : StageDeclaration) : DeclareStage Unit := do
  let (register, mask) ← d.register
  require (d.stage = .vertex) (.inputOutsideVertex register d.stage)
  let element ← d.inputElement register mask
  let type := AttributeType.ofComponentType element.componentType
  initInput (.vertexStageIn register type element.fullSemantic) register mask

/-- A plain input. The cycle counter is accepted and ignored. -/
def declareInput (d : StageDeclaration) : DeclareStage Unit := do
  let o ← d.operand
  if let some builtin := o.kind.threadBuiltin? then
    d.requireStage .compute
    let argument ← addArgument (.thread builtin)
    addEntryEffect (.bindThread argument builtin)
  else
    match o.kind with
    | .input => declareVertexInput d
    | .cycleCounter => pure ()
    | .inputCoverageMask | .innerCoverage => throw (.unsupportedInput o.kind)
    | .inputDomainPoint | .outputControlPointId | .inputPrimitiveId | .inputForkInstanceId
    | .inputJoinInstanceId | .inputGsInstanceId => throw (.primitiveInput o.kind)
    | kind => throw (.unexpectedInput kind)

/-- An input that the pipeline generates. -/
def declareGeneratedInput (d : StageDeclaration) : DeclareStage Unit := do
  let (register, mask) ← d.register
  let name ← d.systemName
  match name with
  | .vertexId =>
    d.requireStage .vertex
    relativeInput .vertexId .baseVertex register mask
  | .instanceId =>
    d.requireStage .vertex
    relativeInput .instanceId .baseInstance register mask
  | .sampleIndex => initInput .sampleIndex register mask
  | .primitiveId => initInput .primitiveId register mask
  | .isFrontFace => initInput .frontFacing register mask
  | name => throw (.inputSystemValue name)

/-- An interpolated input of a pixel shader. -/
def declarePixelInput (d : StageDeclaration) : DeclareStage Unit := do
  d.requireStage .pixel
  let (register, mask) ← d.register
  let interpolation ← d.interpolation
  let element ← d.inputElement register mask
  let type := AttributeType.ofComponentType element.componentType
  initInput (.fragmentStageIn element.fullSemantic type interpolation) register mask

/-- The argument for an interpreted input of a pixel shader. -/
def interpretedArgument (name : SystemName) (interpolation : Interpolation) :
    Except InterfaceFault Argument :=
  match name with
  | .position => do
    require (interpolation.isPerspective = false) (.perspectivePosition interpolation)
    return .position interpolation
  | .renderTargetArrayIndex => do
    requireFlat interpolation
    return .renderTargetArrayIndex
  | .viewportArrayIndex => do
    requireFlat interpolation
    return .viewportArrayIndex
  | name => throw (.pixelInputSystemValue name)

/-- The argument for a generated input of a pixel shader. -/
def generatedArgument (name : SystemName) (interpolation : Interpolation) :
    Except InterfaceFault Argument :=
  match name with
  | .isFrontFace => do
    requireFlat interpolation
    return .frontFacing
  | .sampleIndex => do
    requireFlat interpolation
    return .sampleIndex
  | name => throw (.pixelInputSystemValue name)

/-- An input of a pixel shader that carries a system value. -/
def declarePixelSystemInput (d : StageDeclaration)
    (argument : SystemName → Interpolation → Except InterfaceFault Argument) :
    DeclareStage Unit := do
  d.requireStage .pixel
  let (register, mask) ← d.register
  let interpolation ← d.interpolation
  let name ← d.systemName
  let a ← argument name interpolation
  initInput a register mask

/-- The depth that a pixel shader writes. -/
def declareDepth (d : StageDeclaration) (bound : DepthBound) : DeclareStage Unit := do
  d.requireStage .pixel
  let s ← get
  require (s.hasDepth = false) .depthTwice
  modify fun s => { s with hasDepth := true }
  addEntryEffect .allocateDepth
  let member ← addMember (.depth bound)
  addExitEffect (.popDepth member)

/-- An output register. -/
def declareRegisterOutput (d : StageDeclaration) : DeclareStage Unit := do
  let (register, mask) ← d.register
  let element ← d.outputElement register mask
  let type := AttributeType.ofComponentType element.componentType
  match d.stage with
  | .pixel => popOutput (.renderTarget register type) register mask
  | .vertex => popOutput (.vertex element.fullSemantic type) register mask
  | stage => throw (.outputStage register stage)

/-- A plain output. -/
def declareOutput (d : StageDeclaration) : DeclareStage Unit := do
  let o ← d.operand
  if let some bound := o.kind.depthBound? then
    declareDepth d bound
  else
    match o.kind with
    | .output => declareRegisterOutput d
    | .outputStencilRef | .outputCoverageMask => throw (.unsupportedOutput o.kind)
    | kind => throw (.unexpectedOutput kind)

/-- An output that the pipeline interprets: the position of a vertex. -/
def declareInterpretedOutput (d : StageDeclaration) : DeclareStage Unit := do
  let (register, mask) ← d.register
  let name ← d.systemName
  match name with
  | .position =>
    d.requireStage .vertex
    popOutput .position register mask
  | name => throw (.outputSystemValue name)

/-- Records one declaration of an input or output. -/
def declare (stage : Stage) (signatures : Signatures) (instruction : Instruction) :
    DeclareStage Unit :=
  let d : StageDeclaration := { stage, signatures, instruction }
  match instruction.opcode with
  | .stageDcl .input => declareInput d
  | .stageDcl .inputGenerated => declareGeneratedInput d
  | .stageDcl .inputInterpreted => throw .interpretedInput
  | .stageDcl .pixelInput => declarePixelInput d
  | .stageDcl .pixelInputInterpreted => declarePixelSystemInput d interpretedArgument
  | .stageDcl .pixelInputGenerated => declarePixelSystemInput d generatedArgument
  | .stageDcl .output => declareOutput d
  | .stageDcl .outputInterpreted => declareInterpretedOutput d
  | .stageDcl .outputGenerated => throw .generatedOutput
  | op => throw (.notInterface op)

end Interface

end ShaderFlow
