import ShaderFlow.Operand.Kind
import ShaderFlow.Operand.Mask
import ShaderFlow.Quad

/-!
# Operands

An operand names a register by a kind and up to three indices, or holds immediate values, together
with the components it writes (mask), reads (swizzle) and changes on the way (modifier).
-/

namespace ShaderFlow

/-- The component that each lane reads, by number. -/
structure Swizzle where
  lanes : Quad UInt8
  deriving DecidableEq

namespace Swizzle

/-- Every component in its place. -/
def xyzw : Swizzle := ⟨⟨0, 1, 2, 3⟩⟩

/-- The first component in every lane. -/
def xxxx : Swizzle := ⟨.all 0⟩

/-- Whether every component stays in its place. -/
def isIdentity (s : Swizzle) : Bool := s = xyzw

instance : Dump Swizzle := ⟨fun s => Dump.tuple "Swizzle" [dump s.lanes]⟩

end Swizzle

/-- A change applied to a source value. -/
inductive Modifier where
  | none | neg | abs | absNeg
  deriving DecidableEq

namespace Modifier

/-- The name of a modifier. -/
def text : Modifier → String
  | .none => "None"
  | .neg => "Neg"
  | .abs => "Abs"
  | .absNeg => "AbsNeg"

instance : Dump Modifier := ⟨text⟩

end Modifier

/-- The immediate indices of an operand. -/
inductive OperandIndex where
  | none
  | d1 (a : UInt32)
  | d2 (a b : UInt32)
  | d3 (a b c : UInt32)
  deriving DecidableEq

namespace OperandIndex

/-- The indices in order. -/
def toList : OperandIndex → List UInt32
  | .none => []
  | .d1 a => [a]
  | .d2 a b => [a, b]
  | .d3 a b c => [a, b, c]

/-- The index at a position. -/
def get? (i : OperandIndex) (n : Nat) : Option UInt32 := i.toList[n]?

/-- The number of indices, written as a dimension. -/
def dimension (i : OperandIndex) : String :=
  let rank := i.toList.length
  s!"D{rank}"

instance : Dump OperandIndex :=
  ⟨fun i => match i with
    | .none => "None"
    | _ => Dump.tuple i.dimension (i.toList.map dump)⟩

end OperandIndex

/-- A decoded operand. -/
structure Operand where
  kind : OperandKind
  index : OperandIndex
  /-- Number of components: none, one or four. -/
  components : UInt8
  mask : Mask
  swizzle : Swizzle
  modifier : Modifier
  /-- Values of an immediate operand. -/
  immediate : Quad UInt32
  deriving DecidableEq

namespace Operand

/-- A register with all four components, each in its place. -/
def register (kind : OperandKind) (index : OperandIndex) : Operand where
  kind
  index
  components := 4
  mask := .xyzw
  swizzle := .xyzw
  modifier := .none
  immediate := .all 0

/-- A register without indices and components. -/
def special (kind : OperandKind) : Operand :=
  { register kind .none with components := 0, mask := .empty }

/-- A single immediate value. -/
def scalar (value : UInt32) : Operand where
  kind := .immediate32
  index := .none
  components := 1
  mask := .x
  swizzle := .xxxx
  modifier := .none
  immediate := ⟨value, 0, 0, 0⟩

/-- Four immediate values. -/
def vector (values : Quad UInt32) : Operand :=
  { register .immediate32 .none with immediate := values }

/-- The operand with another swizzle. -/
def withSwizzle (o : Operand) (swizzle : Swizzle) : Operand := { o with swizzle }

/-- The first index: the register, range or array that the operand names. -/
def register? (o : Operand) : Option UInt32 := o.index.get? 0

instance : Dump Operand :=
  ⟨fun o => Dump.record "Operand"
    [("ty", dump o.kind), ("index", dump o.index), ("num_components", dump o.components),
     ("mask", dump o.mask), ("swizzle", dump o.swizzle), ("modifier", dump o.modifier),
     ("immediate", dump o.immediate)]⟩

end Operand

end ShaderFlow
