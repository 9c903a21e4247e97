import ShaderFlow.Code
import ShaderFlow.Text.Dump

/-!
# Codes in declarations

The enumerations that declarations and signature elements refer to by number.
-/

namespace ShaderFlow

/-- Value that the fixed-function pipeline supplies or consumes. -/
inductive SystemName where
  | undefined | position | clipDistance | cullDistance | renderTargetArrayIndex
  | viewportArrayIndex | vertexId | primitiveId | instanceId | isFrontFace | sampleIndex
  | finalQuadEdgeTessFactor | finalQuadInsideTessFactor | finalTriEdgeTessFactor
  | finalTriInsideTessFactor | finalLineDetailTessFactor | finalLineDensityTessFactor
  | unknown (raw : UInt32)
  deriving DecidableEq

namespace SystemName

/-- Number and names of each value. -/
def code : SystemName → Code
  | .undefined => .listed 0 "undefined" "Undefined"
  | .position => .listed 1 "position" "Position"
  | .clipDistance => .listed 2 "clip_distance" "ClipDistance"
  | .cullDistance => .listed 3 "cull_distance" "CullDistance"
  | .renderTargetArrayIndex => .listed 4 "rendertarget_array_index" "RenderTargetArrayIndex"
  | .viewportArrayIndex => .listed 5 "viewport_array_index" "ViewportArrayIndex"
  | .vertexId => .listed 6 "vertex_id" "VertexId"
  | .primitiveId => .listed 7 "primitive_id" "PrimitiveId"
  | .instanceId => .listed 8 "instance_id" "InstanceId"
  | .isFrontFace => .listed 9 "is_front_face" "IsFrontFace"
  | .sampleIndex => .listed 10 "sampleIndex" "SampleIndex"
  | .finalQuadEdgeTessFactor => .listed 11 "finalQuadUeq0EdgeTessFactor" "FinalQuadEdgeTessFactor"
  | .finalQuadInsideTessFactor =>
    .listed 12 "finalQuadUInsideTessFactor" "FinalQuadInsideTessFactor"
  | .finalTriEdgeTessFactor => .listed 13 "finalTriUeq0EdgeTessFactor" "FinalTriEdgeTessFactor"
  | .finalTriInsideTessFactor => .listed 14 "finalTriInsideTessFactor" "FinalTriInsideTessFactor"
  | .finalLineDetailTessFactor => .listed 15 "finalLineDetailTessFactor" "FinalLineDetailTessFactor"
  | .finalLineDensityTessFactor =>
    .listed 16 "finalLineDensityTessFactor" "FinalLineDensityTessFactor"
  | .unknown raw => .unlisted raw

instance : Coded SystemName where
  listed :=
    [.undefined, .position, .clipDistance, .cullDistance, .renderTargetArrayIndex,
     .viewportArrayIndex, .vertexId, .primitiveId, .instanceId, .isFrontFace, .sampleIndex,
     .finalQuadEdgeTessFactor, .finalQuadInsideTessFactor, .finalTriEdgeTessFactor,
     .finalTriInsideTessFactor, .finalLineDetailTessFactor, .finalLineDensityTessFactor]
  unlisted := unknown
  code := code

instance : ToString SystemName := ⟨Coded.text⟩

instance : Dump SystemName := ⟨Coded.ident⟩

end SystemName

/-- How a pixel input varies across a primitive. -/
inductive InterpolationMode where
  | undefined | constant | linear | linearCentroid | linearNoPerspective
  | linearNoPerspectiveCentroid | linearSample | linearNoPerspectiveSample
  | unknown (raw : UInt32)
  deriving DecidableEq

namespace InterpolationMode

/-- Number and names of each value. -/
def code : InterpolationMode → Code
  | .undefined => .listed 0 "undefined" "Undefined"
  | .constant => .listed 1 "constant" "Constant"
  | .linear => .listed 2 "linear" "Linear"
  | .linearCentroid => .listed 3 "linear centroid" "LinearCentroid"
  | .linearNoPerspective => .listed 4 "linear noperspective" "LinearNoPerspective"
  | .linearNoPerspectiveCentroid =>
    .listed 5 "linear noperspective centroid" "LinearNoPerspectiveCentroid"
  | .linearSample => .listed 6 "linear sample" "LinearSample"
  | .linearNoPerspectiveSample =>
    .listed 7 "linear noperspective sample" "LinearNoPerspectiveSample"
  | .unknown raw => .unlisted raw

instance : Coded InterpolationMode where
  listed :=
    [.undefined, .constant, .linear, .linearCentroid, .linearNoPerspective,
     .linearNoPerspectiveCentroid, .linearSample, .linearNoPerspectiveSample]
  unlisted := unknown
  code := code

instance : ToString InterpolationMode := ⟨Coded.text⟩

instance : Dump InterpolationMode := ⟨Coded.ident⟩

end InterpolationMode

/-- Shape of a resource view. -/
inductive Dimension where
  | undefined | buffer | texture1D | texture2D | texture2DMs | texture3D | textureCube
  | texture1DArray | texture2DArray | texture2DMsArray | textureCubeArray | rawBuffer
  | structuredBuffer
  | unknown (raw : UInt32)
  deriving DecidableEq

namespace Dimension

/-- Number and names of each value. -/
def code : Dimension → Code
  | .undefined => .listed 0 "unknown" "Undefined"
  | .buffer => .listed 1 "buffer" "Buffer"
  | .texture1D => .listed 2 "texture1d" "Texture1D"
  | .texture2D => .listed 3 "texture2d" "Texture2D"
  | .texture2DMs => .listed 4 "texture2dms" "Texture2DMs"
  | .texture3D => .listed 5 "texture3d" "Texture3D"
  | .textureCube => .listed 6 "texturecube" "TextureCube"
  | .texture1DArray => .listed 7 "texture1darray" "Texture1DArray"
  | .texture2DArray => .listed 8 "texture2darray" "Texture2DArray"
  | .texture2DMsArray => .listed 9 "texture2dmsarray" "Texture2DMsArray"
  | .textureCubeArray => .listed 10 "texturecubearray" "TextureCubeArray"
  | .rawBuffer => .listed 11 "raw_buffer" "RawBuffer"
  | .structuredBuffer => .listed 12 "structured_buffer" "StructuredBuffer"
  | .unknown raw => .unlisted raw

instance : Coded Dimension where
  listed :=
    [.undefined, .buffer, .texture1D, .texture2D, .texture2DMs, .texture3D, .textureCube,
     .texture1DArray, .texture2DArray, .texture2DMsArray, .textureCubeArray, .rawBuffer,
     .structuredBuffer]
  unlisted := unknown
  code := code

instance : ToString Dimension := ⟨Coded.text⟩

instance : Dump Dimension := ⟨Coded.ident⟩

end Dimension

/-- Type that a typed view returns for one component. -/
inductive ReturnType where
  | unorm | snorm | sint | uint | float | mixed | double | continued | unused
  | unknown (raw : UInt32)
  deriving DecidableEq

namespace ReturnType

/-- Number and names of each value. -/
def code : ReturnType → Code
  | .unorm => .listed 1 "unorm" "Unorm"
  | .snorm => .listed 2 "snorm" "Snorm"
  | .sint => .listed 3 "sint" "Sint"
  | .uint => .listed 4 "uint" "Uint"
  | .float => .listed 5 "float" "Float"
  | .mixed => .listed 6 "mixed" "Mixed"
  | .double => .listed 7 "double" "Double"
  | .continued => .listed 8 "continued" "Continued"
  | .unused => .listed 9 "unused" "Unused"
  | .unknown raw => .unlisted raw

instance : Coded ReturnType where
  listed :=
    [.unorm, .snorm, .sint, .uint, .float, .mixed, .double, .continued, .unused]
  unlisted := unknown
  code := code

instance : ToString ReturnType := ⟨Coded.text⟩

instance : Dump ReturnType := ⟨Coded.ident⟩

end ReturnType

/-- Purpose for which a sampler is declared. -/
inductive SamplerMode where
  | default | comparison | mono
  | unknown (raw : UInt32)
  deriving DecidableEq

namespace SamplerMode

/-- Number and names of each value. -/
def code : SamplerMode → Code
  | .default => .listed 0 "mode_default" "Default"
  | .comparison => .listed 1 "mode_comparison" "Comparison"
  | .mono => .listed 2 "mode_mono" "Mono"
  | .unknown raw => .unlisted raw

instance : Coded SamplerMode where
  listed :=
    [.default, .comparison, .mono]
  unlisted := unknown
  code := code

instance : ToString SamplerMode := ⟨Coded.text⟩

instance : Dump SamplerMode := ⟨Coded.ident⟩

end SamplerMode

/-- What an embedded data block holds. -/
inductive DataClass where
  | comment | debugInfo | opaqueBlob | immediateConstantBuffer | shaderMessage
  | clipPlaneMappings
  | unknown (raw : UInt32)
  deriving DecidableEq

namespace DataClass

/-- Number and names of each value. -/
def code : DataClass → Code
  | .comment => .listed 0 "comment" "Comment"
  | .debugInfo => .listed 1 "debuginfo" "DebugInfo"
  | .opaqueBlob => .listed 2 "opaque" "Opaque"
  | .immediateConstantBuffer => .listed 3 "dcl_immediateConstantBuffer" "ImmediateConstantBuffer"
  | .shaderMessage => .listed 4 "shader_message" "ShaderMessage"
  | .clipPlaneMappings =>
    .listed 5 "clip_plane_constant_mappings_for_dx9" "ClipPlaneConstantMappingsForDx9"
  | .unknown raw => .unlisted raw

instance : Coded DataClass where
  listed :=
    [.comment, .debugInfo, .opaqueBlob, .immediateConstantBuffer, .shaderMessage,
     .clipPlaneMappings]
  unlisted := unknown
  code := code

instance : ToString DataClass := ⟨Coded.text⟩

instance : Dump DataClass := ⟨Coded.ident⟩

end DataClass

/-- Type of the components of a signature element. -/
inductive ComponentType where
  | unspecified | uint32 | sint32 | float32
  | unknown (raw : UInt32)
  deriving DecidableEq

namespace ComponentType

/-- Number and names of each value. -/
def code : ComponentType → Code
  | .unspecified => .listed 0 "unknown" "Unspecified"
  | .uint32 => .listed 1 "uint" "Uint32"
  | .sint32 => .listed 2 "int" "Sint32"
  | .float32 => .listed 3 "float" "Float32"
  | .unknown raw => .unlisted raw

instance : Coded ComponentType where
  listed :=
    [.unspecified, .uint32, .sint32, .float32]
  unlisted := unknown
  code := code

instance : ToString ComponentType := ⟨Coded.text⟩

instance : Dump ComponentType := ⟨Coded.ident⟩

end ComponentType

end ShaderFlow
