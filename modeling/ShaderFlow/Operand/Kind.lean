import ShaderFlow.Code
import ShaderFlow.Text.Dump

/-!
# Operand kinds

The register files, immediates and special registers that an operand can name.
-/

namespace ShaderFlow

/-- Register file, or other source, that an operand names. -/
inductive OperandKind where
  | temp | input | output | indexableTemp | immediate32 | immediate64 | sampler | resource
  | constantBuffer | immediateConstantBuffer | label | inputPrimitiveId | outputDepth | null
  | rasterizer | outputCoverageMask | stream | functionBody | functionTable | interface
  | functionInput | functionOutput | outputControlPointId | inputForkInstanceId
  | inputJoinInstanceId | inputControlPoint | outputControlPoint | inputPatchConstant
  | inputDomainPoint | thisPointer | unorderedAccessView | threadGroupSharedMemory
  | inputThreadId | inputThreadGroupId | inputThreadIdInGroup | inputCoverageMask
  | inputThreadIdInGroupFlattened | inputGsInstanceId | outputDepthGreaterEqual
  | outputDepthLessEqual | cycleCounter | outputStencilRef | innerCoverage
  | unknown (raw : UInt32)
  deriving DecidableEq

namespace OperandKind

/-- Number and names of each value. -/
def code : OperandKind → Code
  | .temp => .listed 0 "r" "Temp"
  | .input => .listed 1 "v" "Input"
  | .output => .listed 2 "o" "Output"
  | .indexableTemp => .listed 3 "x" "IndexableTemp"
  | .immediate32 => .listed 4 "l" "Immediate32"
  | .immediate64 => .listed 5 "d" "Immediate64"
  | .sampler => .listed 6 "s" "Sampler"
  | .resource => .listed 7 "t" "Resource"
  | .constantBuffer => .listed 8 "cb" "ConstantBuffer"
  | .immediateConstantBuffer => .listed 9 "icb" "ImmediateConstantBuffer"
  | .label => .listed 10 "label" "Label"
  | .inputPrimitiveId => .listed 11 "vPrim" "InputPrimitiveId"
  | .outputDepth => .listed 12 "oDepth" "OutputDepth"
  | .null => .listed 13 "null" "Null"
  | .rasterizer => .listed 14 "rasterizer" "Rasterizer"
  | .outputCoverageMask => .listed 15 "oMask" "OutputCoverageMask"
  | .stream => .listed 16 "m" "Stream"
  | .functionBody => .listed 17 "fb" "FunctionBody"
  | .functionTable => .listed 18 "ft" "FunctionTable"
  | .interface => .listed 19 "fp" "Interface"
  | .functionInput => .listed 20 "fi" "FunctionInput"
  | .functionOutput => .listed 21 "fo" "FunctionOutput"
  | .outputControlPointId => .listed 22 "vOutputControlPointID" "OutputControlPointId"
  | .inputForkInstanceId => .listed 23 "vForkInstanceID" "InputForkInstanceId"
  | .inputJoinInstanceId => .listed 24 "vJoinInstanceID" "InputJoinInstanceId"
  | .inputControlPoint => .listed 25 "vicp" "InputControlPoint"
  | .outputControlPoint => .listed 26 "vocp" "OutputControlPoint"
  | .inputPatchConstant => .listed 27 "vpc" "InputPatchConstant"
  | .inputDomainPoint => .listed 28 "vDomain" "InputDomainPoint"
  | .thisPointer => .listed 29 "this" "ThisPointer"
  | .unorderedAccessView => .listed 30 "u" "UnorderedAccessView"
  | .threadGroupSharedMemory => .listed 31 "g" "ThreadGroupSharedMemory"
  | .inputThreadId => .listed 32 "vThreadID" "InputThreadId"
  | .inputThreadGroupId => .listed 33 "vThreadGroupID" "InputThreadGroupId"
  | .inputThreadIdInGroup => .listed 34 "vThreadIDInGroup" "InputThreadIdInGroup"
  | .inputCoverageMask => .listed 35 "vCoverage" "InputCoverageMask"
  | .inputThreadIdInGroupFlattened =>
    .listed 36 "vThreadIDInGroupFlattened" "InputThreadIdInGroupFlattened"
  | .inputGsInstanceId => .listed 37 "vGSInstanceID" "InputGsInstanceId"
  | .outputDepthGreaterEqual => .listed 38 "oDepthGE" "OutputDepthGreaterEqual"
  | .outputDepthLessEqual => .listed 39 "oDepthLE" "OutputDepthLessEqual"
  | .cycleCounter => .listed 40 "vCycleCounter" "CycleCounter"
  | .outputStencilRef => .listed 41 "oStencilRef" "OutputStencilRef"
  | .innerCoverage => .listed 42 "vInnerCoverage" "InnerCoverage"
  | .unknown raw => .unlisted raw

instance : Coded OperandKind where
  listed :=
    [.temp, .input, .output, .indexableTemp, .immediate32, .immediate64, .sampler, .resource,
     .constantBuffer, .immediateConstantBuffer, .label, .inputPrimitiveId, .outputDepth, .null,
     .rasterizer, .outputCoverageMask, .stream, .functionBody, .functionTable, .interface,
     .functionInput, .functionOutput, .outputControlPointId, .inputForkInstanceId,
     .inputJoinInstanceId, .inputControlPoint, .outputControlPoint, .inputPatchConstant,
     .inputDomainPoint, .thisPointer, .unorderedAccessView, .threadGroupSharedMemory,
     .inputThreadId, .inputThreadGroupId, .inputThreadIdInGroup, .inputCoverageMask,
     .inputThreadIdInGroupFlattened, .inputGsInstanceId, .outputDepthGreaterEqual,
     .outputDepthLessEqual, .cycleCounter, .outputStencilRef, .innerCoverage]
  unlisted := unknown
  code := code

instance : ToString OperandKind := ⟨Coded.text⟩

instance : Dump OperandKind := ⟨Coded.ident⟩

end OperandKind

end ShaderFlow
