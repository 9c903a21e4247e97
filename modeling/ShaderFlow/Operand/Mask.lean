import ShaderFlow.Text.Dump

/-!
# Component masks

A mask selects components of a register by its low four bits. The bits above them have no meaning
in the format but are kept: they count in the width and in the overlap of masks.
-/

namespace ShaderFlow

/-- A set of register components. -/
structure Mask where
  bits : UInt8
  deriving DecidableEq

namespace Mask

/-- No component. -/
def empty : Mask := ⟨0⟩

/-- The first component alone. -/
def x : Mask := ⟨1⟩

/-- All four components. -/
def xyzw : Mask := ⟨15⟩

/-- The number of lanes that reach the highest selected component, which is not the number of
components: the mask of `x` and `z` needs three lanes. -/
def channelCount (m : Mask) : Nat :=
  if m.bits = 0 then 0 else m.bits.toNat.log2 + 1

/-- Whether two masks share a bit. -/
def intersects (m n : Mask) : Bool := m.bits &&& n.bits != 0

/-- The mask without the bits that name no component. -/
def truncate (m : Mask) : Mask := ⟨m.bits &&& 15⟩

/-- The components that a mask can select, with their letters. -/
def components : List (String × UInt8) := [("X", 1), ("Y", 2), ("Z", 4), ("W", 8)]

/-- The letters of the selected components; what is left over, and an empty mask, in hexadecimal. -/
def parts (m : Mask) : List String :=
  let letters := (components.filter fun (_, bit) => m.bits &&& bit != 0).map (·.1)
  let rest := m.bits &&& 0xf0
  if rest = 0 ∧ letters ≠ [] then letters else letters ++ ["0x" ++ Dump.hex rest.toNat]

instance : Dump Mask := ⟨fun m => "ComponentMask(" ++ " | ".intercalate m.parts ++ ")"⟩

end Mask

end ShaderFlow
