import ShaderFlow.Declaration.Codes
import ShaderFlow.Operand.Mask

/-!
# Signatures

The elements that a stage exchanges with its neighbours: each is packed into some components of a
register and known outside by a semantic name.
-/

namespace ShaderFlow

/-- One stage input or output. -/
structure SignatureElement where
  semantic : String
  semanticIndex : UInt32
  /-- Register into which the element is packed. -/
  register : UInt32
  /-- Components of the register that the element occupies. -/
  mask : Mask
  componentType : ComponentType
  /-- Number of the system value that the element carries; zero for none. -/
  systemValue : UInt32 := 0
  deriving DecidableEq

namespace SignatureElement

/-- The semantic name followed by its index. -/
def fullSemantic (e : SignatureElement) : String := e.semantic ++ toString e.semanticIndex

/-- Whether the element is packed into the register and shares a component with the mask. -/
def covers (e : SignatureElement) (register : UInt32) (mask : Mask) : Bool :=
  e.register == register && e.mask.intersects mask

end SignatureElement

/-- The inputs and outputs of a program. -/
structure Signatures where
  inputs : List SignatureElement
  outputs : List SignatureElement
  deriving DecidableEq

namespace Signatures

/-- The first input that covers some of the given components. -/
def findInput (s : Signatures) (register : UInt32) (mask : Mask) : Option SignatureElement :=
  s.inputs.find? (·.covers register mask)

/-- The first output that covers some of the given components. -/
def findOutput (s : Signatures) (register : UInt32) (mask : Mask) : Option SignatureElement :=
  s.outputs.find? (·.covers register mask)

end Signatures

end ShaderFlow
