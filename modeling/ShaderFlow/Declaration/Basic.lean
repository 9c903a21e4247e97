import ShaderFlow.Declaration.Codes
import ShaderFlow.Operand.Mask
import ShaderFlow.Quad

/-!
# Declarations

What a declaration says beyond its opcode and the register it declares, which is the first operand
of the instruction that carries it.
-/

namespace ShaderFlow

/-- The payload of a declaration. Ranges of bindings lie in a register space, which is zero before
shader model 5.1. -/
inductive Declaration where
  | constantBuffer (sizeInVec4 space : UInt32) (dynamicallyIndexed : Bool)
  | sampler (mode : SamplerMode) (space : UInt32)
  | resource (dimension : Dimension) (returnType : Quad ReturnType) (sampleCount space : UInt32)
  | resourceRaw (space : UInt32)
  | resourceStructured (stride space : UInt32)
  | uavTyped (dimension : Dimension) (returnType : Quad ReturnType) (flags space : UInt32)
  | uavRaw (flags space : UInt32)
  | uavStructured (stride flags space : UInt32)
  | temps (count : UInt32)
  | indexableTemp (index registerCount : UInt32) (mask : Mask)
  | threadGroup (x y z : UInt32)
  | sharedRaw (byteCount : UInt32)
  | sharedStructured (stride count : UInt32)
  | input
  | inputSystemValue (name : SystemName)
  | pixelInput (interpolation : InterpolationMode)
  | pixelInputSystemValue (name : SystemName) (interpolation : InterpolationMode)
  | output
  | outputSystemValue (name : SystemName)
  | globalFlags (flags : UInt32)
  | indexRange (count : UInt32)
  | customData (dataClass : DataClass) (data : List UInt32)
  | other
  deriving DecidableEq

instance : Dump Declaration :=
  ⟨fun
    | .constantBuffer size space dynamicallyIndexed => Dump.record "ConstantBuffer"
        [("size_in_vec4", dump size), ("space", dump space),
         ("dynamically_indexed", dump dynamicallyIndexed)]
    | .sampler mode space => Dump.record "Sampler" [("mode", dump mode), ("space", dump space)]
    | .resource dimension returnType sampleCount space => Dump.record "Resource"
        [("dimension", dump dimension), ("return_type", dump returnType),
         ("sample_count", dump sampleCount), ("space", dump space)]
    | .resourceRaw space => Dump.record "ResourceRaw" [("space", dump space)]
    | .resourceStructured stride space => Dump.record "ResourceStructured"
        [("stride", dump stride), ("space", dump space)]
    | .uavTyped dimension returnType flags space => Dump.record "UavTyped"
        [("dimension", dump dimension), ("return_type", dump returnType), ("flags", dump flags),
         ("space", dump space)]
    | .uavRaw flags space => Dump.record "UavRaw" [("flags", dump flags), ("space", dump space)]
    | .uavStructured stride flags space => Dump.record "UavStructured"
        [("stride", dump stride), ("flags", dump flags), ("space", dump space)]
    | .temps count => Dump.record "Temps" [("count", dump count)]
    | .indexableTemp index registerCount mask => Dump.record "IndexableTemp"
        [("index", dump index), ("register_count", dump registerCount), ("mask", dump mask)]
    | .threadGroup x y z => Dump.record "ThreadGroup" [("x", dump x), ("y", dump y), ("z", dump z)]
    | .sharedRaw byteCount => Dump.record "TgsmRaw" [("byte_count", dump byteCount)]
    | .sharedStructured stride count => Dump.record "TgsmStructured"
        [("stride", dump stride), ("count", dump count)]
    | .input => "Input"
    | .inputSystemValue name => Dump.record "InputSystemValue" [("name", dump name)]
    | .pixelInput interpolation => Dump.record "InputPs" [("interpolation", dump interpolation)]
    | .pixelInputSystemValue name interpolation => Dump.record "InputPsSystemValue"
        [("name", dump name), ("interpolation", dump interpolation)]
    | .output => "Output"
    | .outputSystemValue name => Dump.record "OutputSystemValue" [("name", dump name)]
    | .globalFlags flags => Dump.record "GlobalFlags" [("flags", dump flags)]
    | .indexRange count => Dump.record "IndexRange" [("count", dump count)]
    | .customData dataClass data => Dump.record "CustomData"
        [("class", dump dataClass), ("data", dump data)]
    | .other => "Other"⟩

end ShaderFlow
