import ShaderFlow.Declaration.Basic
import ShaderFlow.Opcode.Basic
import ShaderFlow.Operand.Basic
import ShaderFlow.Stage

/-!
# Instructions and programs

A program is a list of decoded instructions and declarations for one pipeline stage. A `Location`
is a place in a program, for diagnostics.
-/

namespace ShaderFlow

/-- The test that a conditional instruction applies to its operand. -/
inductive Test where
  /-- Taken when the operand is zero. -/
  | zero
  /-- Taken when the operand is not zero. -/
  | nonZero
  deriving DecidableEq

namespace Test

/-- The test in bit 18 of an instruction's first token. -/
def ofToken (token : UInt32) : Test :=
  if (token >>> 18) &&& 1 = 0 then .zero else .nonZero

/-- The suffix that the test gives to an instruction's name. -/
def suffix : Test → String
  | .zero => "z"
  | .nonZero => "nz"

instance : Dump Test :=
  ⟨fun
    | .zero => "Zero"
    | .nonZero => "NonZero"⟩

end Test

/-- One instruction or declaration. -/
structure Instruction where
  opcode : Opcode
  /-- Offset of the first token in the program. -/
  dword : Nat := 0
  /-- Test of a conditional instruction. -/
  test : Test := .nonZero
  /-- Whether the result is clamped to the unit interval. -/
  saturate : Bool := false
  operands : List Operand := []
  /-- Payload of a declaration or data block. -/
  declaration : Option Declaration := none
  deriving DecidableEq

instance : Dump Instruction :=
  ⟨fun i => Dump.record "Instruction"
    [("opcode", dump i.opcode), ("at_dword", dump i.dword), ("test", dump i.test),
     ("saturate", dump i.saturate), ("operands", dump i.operands),
     ("decl", dump i.declaration)]⟩

/-- The operand at a position. -/
def Instruction.operand? (i : Instruction) (n : Nat) : Option Operand := i.operands[n]?

/-- A decoded program. -/
structure Program where
  stage : Stage
  model : ShaderModel
  instructions : List Instruction
  deriving DecidableEq

/-- A place in a program. -/
structure Location where
  /-- Position among the instructions. -/
  instruction : Nat := 0
  /-- Offset in tokens. -/
  dword : Nat := 0
  deriving DecidableEq

namespace Location

/-- The place of the instruction at a position. -/
def of (position : Nat) (i : Instruction) : Location := ⟨position, i.dword⟩

/-- The place behind the last instruction, which keeps that instruction's offset. -/
def atEnd (instructions : List Instruction) : Location :=
  ⟨instructions.length, (instructions.getLast?.map (·.dword)).getD 0⟩

end Location

end ShaderFlow
