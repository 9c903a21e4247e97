import ShaderFlow.IdMap
import ShaderFlow.Resource.Range

/-!
# Declared resources

`Resources` records everything that a program declares apart from its inputs and outputs. The four
kinds of bindings are also kept in the order of their declarations, which is the order of the
binding table.
-/

namespace ShaderFlow

/-- Type of the elements of a view. -/
inductive ScalarType where
  | float | int | uint
  deriving DecidableEq

/-- The name of a scalar type. -/
def ScalarType.name : ScalarType → String
  | .float => "Float"
  | .int => "Int"
  | .uint => "Uint"

/-- Memory layout of a view. -/
inductive ViewLayout where
  /-- Texture or typed buffer. -/
  | typed
  /-- Buffer addressed by bytes. -/
  | raw
  /-- Buffer of records, each of the given number of bytes. -/
  | structured (stride : UInt32)
  deriving DecidableEq

/-- What a view looks like to the instructions that use it. -/
structure ViewFormat where
  dimension : Dimension
  scalar : ScalarType
  layout : ViewLayout
  deriving DecidableEq

namespace ViewFormat

/-- A buffer addressed by bytes. -/
def raw : ViewFormat := ⟨.rawBuffer, .uint, .raw⟩

/-- A buffer of records. -/
def structured (stride : UInt32) : ViewFormat := ⟨.structuredBuffer, .uint, .structured stride⟩

/-- The element type for a declared return type; normalised integers read as floats. -/
def scalarOf : ReturnType → Except ResourceFault ScalarType
  | .float | .unorm | .snorm => .ok .float
  | .sint => .ok .int
  | .uint => .ok .uint
  | .unknown raw => .error (.invalidReturnType raw)
  | type => .error (.unsupportedReturnType type)

/-- The dimension of a typed view has to be one that the format defines. -/
def checkDimension : Dimension → Except ResourceFault Dimension
  | .undefined => .error (.invalidDimension .undefined)
  | .unknown raw => .error (.invalidDimension (.unknown raw))
  | dimension => .ok dimension

/-- A texture or typed buffer. The first component decides on the element type. -/
def typed (dimension : Dimension) (returnType : Quad ReturnType) :
    Except ResourceFault ViewFormat := do
  let dimension ← checkDimension dimension
  let scalar ← scalarOf returnType.x
  return ⟨dimension, scalar, .typed⟩

end ViewFormat

/-- How a program uses a resource view. -/
structure ResourceUse where
  sampled : Bool := false
  /-- Sampled with a comparison. -/
  compared : Bool := false
  deriving DecidableEq

namespace ResourceUse

/-- Both uses together. -/
def union (a b : ResourceUse) : ResourceUse :=
  ⟨a.sampled || b.sampled, a.compared || b.compared⟩

/-- One bit per use. -/
def bits (u : ResourceUse) : Nat := u.sampled.toNat + 2 * u.compared.toNat

end ResourceUse

/-- How a program uses an access view. -/
structure AccessUse where
  read : Bool := false
  written : Bool := false
  deriving DecidableEq

namespace AccessUse

/-- Both uses together. -/
def union (a b : AccessUse) : AccessUse := ⟨a.read || b.read, a.written || b.written⟩

/-- One bit per use. -/
def bits (u : AccessUse) : Nat := u.read.toNat + 2 * u.written.toNat

end AccessUse

/-- Settings in the declaration of an access view. -/
structure AccessFlags where
  globallyCoherent : Bool
  rasterizerOrdered : Bool
  /-- The view has a counter for appending and consuming. -/
  hasCounter : Bool
  deriving DecidableEq

namespace AccessFlags

/-- The settings among the bits of a token; the other bits say nothing about them. -/
def ofBits (bits : UInt32) : AccessFlags where
  globallyCoherent := bits &&& 0x10000 != 0
  rasterizerOrdered := bits &&& 0x20000 != 0
  hasCounter := bits &&& 0x800000 != 0

/-- The settings at their bits in a token. -/
def bits (f : AccessFlags) : Nat :=
  f.globallyCoherent.toNat * 0x10000 + f.rasterizerOrdered.toNat * 0x20000 +
    f.hasCounter.toNat * 0x800000

end AccessFlags

/-- A declared constant buffer. -/
structure ConstantBuffer where
  range : BindingRange
  /-- Number of four-component rows. -/
  sizeInVec4 : UInt32
  deriving DecidableEq

/-- A declared sampler. -/
structure Sampler where
  range : BindingRange
  mode : SamplerMode
  deriving DecidableEq

/-- A declared view that instructions read and sample. -/
structure ResourceView where
  range : BindingRange
  format : ViewFormat
  use : ResourceUse := {}
  deriving DecidableEq

/-- A declared view that instructions read and write in any order. -/
structure AccessView where
  range : BindingRange
  format : ViewFormat
  flags : AccessFlags
  use : AccessUse := {}
  deriving DecidableEq

/-- Memory shared by the threads of a group. -/
structure SharedMemory where
  /-- Bytes in one element. -/
  stride : UInt32
  /-- Number of elements. -/
  count : UInt32
  /-- Size in 32-bit words. -/
  words : UInt32
  structured : Bool
  deriving DecidableEq

/-- An array of temporary registers. -/
structure IndexableTemp where
  registerCount : UInt32
  mask : Mask
  deriving DecidableEq

/-- The number of threads along each axis of a group. -/
structure ThreadGroup where
  x : UInt32
  y : UInt32
  z : UInt32
  deriving DecidableEq

/-- The axes in order. -/
def ThreadGroup.toList (g : ThreadGroup) : List UInt32 := [g.x, g.y, g.z]

/-- The resources that a program has declared. -/
structure Resources where
  constantBuffers : IdMap ConstantBuffer := ∅
  samplers : IdMap Sampler := ∅
  resourceViews : IdMap ResourceView := ∅
  accessViews : IdMap AccessView := ∅
  sharedMemory : IdMap SharedMemory := ∅
  indexableTemps : IdMap IndexableTemp := ∅
  /-- Number of temporary registers. -/
  temps : UInt32 := 0
  /-- Rows of constants embedded in the program. -/
  immediateConstants : List (Quad UInt32) := []
  threadGroup : Option ThreadGroup := none
  /-- The bindings in the order of their declarations. -/
  order : List (BindingKind × UInt32) := []
  deriving DecidableEq

namespace Resources

/-- The range of a declared binding. -/
def range? (r : Resources) (kind : BindingKind) (id : UInt32) : Option BindingRange :=
  match kind with
  | .constantBuffer => r.constantBuffers[id]?.map (·.range)
  | .sampler => r.samplers[id]?.map (·.range)
  | .resource => r.resourceViews[id]?.map (·.range)
  | .access => r.accessViews[id]?.map (·.range)

/-- Whether a binding is declared. -/
def isDeclared (r : Resources) (kind : BindingKind) (id : UInt32) : Bool :=
  match kind with
  | .constantBuffer => r.constantBuffers.contains id
  | .sampler => r.samplers.contains id
  | .resource => r.resourceViews.contains id
  | .access => r.accessViews.contains id

/-- The number of bindings. -/
def bindingCount (r : Resources) : Nat := r.order.length

end Resources

end ShaderFlow
