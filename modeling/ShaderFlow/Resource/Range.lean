import ShaderFlow.Instruction
import ShaderFlow.Resource.Fault

/-!
# Binding ranges

A declaration binds a range of registers. Before shader model 5.1 it names one register, which is a
range of its own; since then it gives the number of the range, its first and its last register.
-/

namespace ShaderFlow

/-- The number of registers in a range. -/
inductive RangeSize where
  | bounded (count : UInt32)
  | unbounded
  deriving DecidableEq

/-- The size as a decimal number or a word. -/
def RangeSize.text : RangeSize → String
  | .bounded count => toString count
  | .unbounded => "unbounded"

/-- The registers that a declaration binds. -/
structure BindingRange where
  /-- Number by which instructions refer to the range. -/
  id : UInt32
  /-- First register. -/
  lower : UInt32
  size : RangeSize
  space : UInt32
  deriving DecidableEq

/-- How many indices the operand of a declaration has before shader model 5.1. -/
inductive LegacyForm where
  /-- The register only. -/
  | register
  /-- The register and a size. -/
  | sized
  deriving DecidableEq

namespace BindingRange

/-- One register in the first space, bound at its own number. -/
def single (id : UInt32) : BindingRange := ⟨id, id, .bounded 1, 0⟩

/-- A range from its first to its last register; the greatest number as the last one stands for no
bound. -/
def between (id lower upper space : UInt32) : Except ResourceFault BindingRange :=
  if upper = 0xffffffff then .ok ⟨id, lower, .unbounded, space⟩
  else if upper < lower then .error (.invertedRange lower upper)
  else .ok ⟨id, lower, .bounded (upper - lower + 1), space⟩

/-- The range that an operand declares. -/
def ofOperand (o : Operand) (legacy : LegacyForm) (space : UInt32) :
    Except ResourceFault BindingRange :=
  match o.index, legacy with
  | .d1 id, .register => .ok (single id)
  | .d2 id _, .sized => .ok (single id)
  | .d3 id lower upper, _ => between id lower upper space
  | index, _ => .error (.indexDimension o.kind index)

end BindingRange

end ShaderFlow
