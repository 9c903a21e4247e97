import ShaderFlow.Declaration.Codes

/-!
# Entry points

A compiled program is a function. Stage inputs are its arguments, stage outputs the members of the
value it returns; effects refer to both by their positions.
-/

namespace ShaderFlow

/-- Vector type of a stage input or output. -/
inductive AttributeType where
  | float4 | int4
  deriving DecidableEq

namespace AttributeType

/-- Everything that is not a float is carried as an integer. -/
def ofComponentType : ComponentType → AttributeType
  | .float32 => .float4
  | _ => .int4

/-- The name of an attribute type. -/
def name : AttributeType → String
  | .float4 => "Float4"
  | .int4 => "Int4"

end AttributeType

/-- Where and how a pixel input is interpolated. -/
inductive Interpolation where
  | centerPerspective | centerNoPerspective | centroidPerspective | centroidNoPerspective
  | samplePerspective | sampleNoPerspective | flat
  deriving DecidableEq

namespace Interpolation

/-- The interpolation for a declared mode; undefined modes have none. -/
def ofMode? : InterpolationMode → Option Interpolation
  | .constant => some .flat
  | .linear => some .centerPerspective
  | .linearCentroid => some .centroidPerspective
  | .linearNoPerspective => some .centerNoPerspective
  | .linearNoPerspectiveCentroid => some .centroidNoPerspective
  | .linearSample => some .samplePerspective
  | .linearNoPerspectiveSample => some .sampleNoPerspective
  | .undefined | .unknown _ => none

/-- Whether the interpolation takes the distance of the primitive into account. -/
def isPerspective : Interpolation → Bool
  | .centerPerspective | .centroidPerspective | .samplePerspective => true
  | _ => false

/-- The name of an interpolation. -/
def name : Interpolation → String
  | .centerPerspective => "CenterPerspective"
  | .centerNoPerspective => "CenterNoPerspective"
  | .centroidPerspective => "CentroidPerspective"
  | .centroidNoPerspective => "CentroidNoPerspective"
  | .samplePerspective => "SamplePerspective"
  | .sampleNoPerspective => "SampleNoPerspective"
  | .flat => "Flat"

instance : ToString Interpolation := ⟨name⟩

end Interpolation

/-- How a written depth relates to the interpolated one. -/
inductive DepthBound where
  | any | greater | less
  deriving DecidableEq

/-- The name of a bound. -/
def DepthBound.name : DepthBound → String
  | .any => "Any"
  | .greater => "Greater"
  | .less => "Less"

/-- The position of a thread in a compute dispatch. -/
inductive ThreadBuiltin where
  | positionInGrid | groupPositionInGrid | positionInGroup | indexInGroup
  deriving DecidableEq

/-- The name of a thread position. -/
def ThreadBuiltin.name : ThreadBuiltin → String
  | .positionInGrid => "ThreadPositionInGrid"
  | .groupPositionInGrid => "ThreadgroupPositionInGrid"
  | .positionInGroup => "ThreadPositionInThreadgroup"
  | .indexInGroup => "ThreadIndexInThreadgroup"

/-- An argument of an entry point. -/
inductive Argument where
  | vertexId | baseVertex | instanceId | baseInstance | sampleIndex | primitiveId | frontFacing
  | vertexStageIn (slot : UInt32) (type : AttributeType) (name : String)
  | fragmentStageIn (name : String) (type : AttributeType) (interpolation : Interpolation)
  | position (interpolation : Interpolation)
  | renderTargetArrayIndex | viewportArrayIndex
  | thread (builtin : ThreadBuiltin)
  /-- The binding table, at its buffer location. -/
  | bindingTable (location : Nat)
  deriving DecidableEq

/-- A member of the value that an entry point returns. -/
inductive Member where
  | position
  | depth (bound : DepthBound)
  | renderTarget (index : UInt32) (type : AttributeType)
  | vertex (name : String) (type : AttributeType)
  deriving DecidableEq

/-- The type of an entry point. -/
structure EntryPoint where
  arguments : List Argument := []
  members : List Member := []
  deriving DecidableEq

namespace EntryPoint

/-- Adds an argument and gives its position. -/
def addArgument (e : EntryPoint) (a : Argument) : Nat × EntryPoint :=
  (e.arguments.length, { e with arguments := e.arguments ++ [a] })

/-- Adds a member and gives its position. -/
def addMember (e : EntryPoint) (m : Member) : Nat × EntryPoint :=
  (e.members.length, { e with members := e.members ++ [m] })

/-- Whether the entry point returns nothing. -/
def isVoid (e : EntryPoint) : Bool := e.members.isEmpty

end EntryPoint

end ShaderFlow
