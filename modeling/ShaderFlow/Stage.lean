/-!
# Pipeline stages and shader models

A program's first token names the pipeline stage that runs it and the shader model it is written
for (`decodeVersion`).
-/

namespace ShaderFlow

/-- The pipeline stage that runs a program. -/
inductive Stage where
  | pixel | vertex | geometry | hull | domain | compute
  | unknown (number : UInt16)
  deriving DecidableEq

namespace Stage

/-- The stage with a given number in the version token. -/
def ofNumber : UInt16 → Stage
  | 0 => .pixel
  | 1 => .vertex
  | 2 => .geometry
  | 3 => .hull
  | 4 => .domain
  | 5 => .compute
  | number => .unknown number

/-- The name of a stage. -/
def name : Stage → String
  | .pixel => "Pixel"
  | .vertex => "Vertex"
  | .geometry => "Geometry"
  | .hull => "Hull"
  | .domain => "Domain"
  | .compute => "Compute"
  | .unknown number => s!"Unknown({number})"

instance : ToString Stage := ⟨name⟩

/-- The stages whose programs can be compiled. -/
def isSupported : Stage → Bool
  | .vertex | .pixel | .compute => true
  | _ => false

end Stage

/-- Version of the shader model. -/
structure ShaderModel where
  major : UInt8
  minor : UInt8
  deriving DecidableEq

namespace ShaderModel

/-- Shader model 5.1. -/
def sm51 : ShaderModel := ⟨5, 1⟩

/-- Versions are compared by their major number, then by their minor number. -/
def le (a b : ShaderModel) : Bool :=
  a.major < b.major || a.major == b.major && a.minor ≤ b.minor

/-- Whether bindings are declared as ranges, with a lower and an upper bound. -/
def usesResourceRanges (m : ShaderModel) : Bool := sm51.le m

end ShaderModel

/-- The stage and the model in a version token: bits 0 to 3 are the minor version, bits 4 to 7 the
major version, and the upper half is the stage. -/
def decodeVersion (token : UInt32) : Stage × ShaderModel :=
  (.ofNumber (token >>> 16).toUInt16, ⟨((token >>> 4) &&& 0xf).toUInt8, (token &&& 0xf).toUInt8⟩)

end ShaderFlow
