import ShaderFlow.Fault
import ShaderFlow.Instruction
import ShaderFlow.Interface.Basic

/-!
# Faults of input and output declarations
-/

namespace ShaderFlow

/-- Why a declaration of a stage input or output is refused. -/
inductive InterfaceFault where
  | notInterface (op : Opcode)
  | missingOperand (op : Opcode)
  | missingSystemValue (op : Opcode)
  /-- Registers with two indices belong to stages that work on whole primitives. -/
  | perVertexRegister (kind : OperandKind)
  | indexDimension (kind : OperandKind) (index : OperandIndex)
  | registerOutOfRange (register : UInt32)
  | invalidInterpolation (mode : InterpolationMode)
  | noInputElement (register : UInt32)
  | noOutputElement (register : UInt32)
  | wrongStage (op : Opcode) (stage : Stage)
  | interpretedInput
  | generatedOutput
  | unsupportedInput (kind : OperandKind)
  | primitiveInput (kind : OperandKind)
  | unexpectedInput (kind : OperandKind)
  | inputOutsideVertex (register : UInt32) (stage : Stage)
  | inputSystemValue (name : SystemName)
  | pixelInputSystemValue (name : SystemName)
  | perspectivePosition (interpolation : Interpolation)
  | interpolatedInteger (interpolation : Interpolation)
  | depthTwice
  | unsupportedOutput (kind : OperandKind)
  | unexpectedOutput (kind : OperandKind)
  | outputStage (register : UInt32) (stage : Stage)
  | outputSystemValue (name : SystemName)
  deriving DecidableEq

namespace InterfaceFault

/-- Which refusals concern parts of the format that are not handled. -/
def kind : InterfaceFault → FaultKind
  | .perVertexRegister _ | .wrongStage .. | .interpretedInput | .generatedOutput
  | .unsupportedInput _ | .primitiveInput _ | .inputOutsideVertex .. | .inputSystemValue _
  | .pixelInputSystemValue _ | .perspectivePosition _ | .unsupportedOutput _ | .outputStage ..
  | .outputSystemValue _ => .unsupported
  | _ => .malformed

/-- The wording of a refusal. -/
def message : InterfaceFault → String
  | .notInterface op => op.name ++ " is not an IO declaration"
  | .missingOperand op => op.name ++ " has no declared operand"
  | .missingSystemValue op => op.name ++ " is missing its system value"
  | .perVertexRegister kind =>
    s!"{kind}: per-vertex (2-D) registers of hull/domain/geometry shaders"
  | .indexDimension kind index => s!"{kind}: unexpected index dimension {index.dimension}"
  | .registerOutOfRange register => s!"register index {register} is out of range"
  | .invalidInterpolation mode => s!"invalid interpolation mode {mode}"
  | .noInputElement register => s!"v{register} has no input signature element"
  | .noOutputElement register => s!"o{register} has no output signature element"
  | .wrongStage op stage => s!"{op.name} is not valid in {stage} shaders"
  | .interpretedInput => "dcl_input_siv (hull/domain/geometry system values)"
  | .generatedOutput => "dcl_output_sgv (geometry shader outputs)"
  | .unsupportedInput kind => s!"{kind} input"
  | .primitiveInput kind => s!"{kind} input (hull/domain/geometry shaders)"
  | .unexpectedInput kind => s!"dcl_input of unexpected register type {kind}"
  | .inputOutsideVertex register stage => s!"dcl_input v{register} in {stage} shaders"
  | .inputSystemValue name => s!"input system value {name}"
  | .pixelInputSystemValue name => s!"pixel input system value {name}"
  | .perspectivePosition interpolation =>
    s!"{interpolation} interpolation of the fragment position"
  | .interpolatedInteger interpolation =>
    s!"integer system value declared with {interpolation} interpolation"
  | .depthTwice => "depth output is declared twice"
  | .unsupportedOutput kind => s!"{kind} output"
  | .unexpectedOutput kind => s!"dcl_output of unexpected register type {kind}"
  | .outputStage register stage => s!"o{register} is not valid in {stage} shaders"
  | .outputSystemValue name => s!"output system value {name}"

end InterfaceFault

end ShaderFlow
