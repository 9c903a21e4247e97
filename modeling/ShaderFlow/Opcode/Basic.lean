import ShaderFlow.Opcode.Family
import ShaderFlow.Text.Dump

/-!
# Opcodes

An opcode is a member of one of the families, `nop`, an embedded data block, or a number that the
format does not define. The low bits of an instruction's first token hold the opcode
(`Opcode.ofToken`), its high bits the instruction's length (`Opcode.tokenLength`).
-/

namespace ShaderFlow

/-- What an instruction or declaration does. -/
inductive Opcode where
  | flow (op : FlowOp)
  | resourceDcl (op : ResourceDcl)
  | stageDcl (op : StageDcl)
  | foreignDcl (op : ForeignDcl)
  | foreign (op : ForeignOp)
  | sample (op : SampleOp)
  | view (op : ViewOp)
  | atomic (op : AtomicOp)
  | plain (op : PlainOp)
  | nop
  | customData
  | unknown (raw : UInt32)
  deriving DecidableEq

namespace Opcode

/-- Number and names of each opcode. -/
def code : Opcode → Code
  | .flow op => op.code
  | .resourceDcl op => op.code
  | .stageDcl op => op.code
  | .foreignDcl op => op.code
  | .foreign op => op.code
  | .sample op => op.code
  | .view op => op.code
  | .atomic op => op.code
  | .plain op => op.code
  | .nop => .listed 58 "nop" "Nop"
  | .customData => .listed 53 "customdata" "CustomData"
  | .unknown raw => .unlisted raw

instance : Coded Opcode where
  listed :=
    FlowOp.all.map flow ++ ResourceDcl.all.map resourceDcl ++ StageDcl.all.map stageDcl ++
      ForeignDcl.all.map foreignDcl ++ ForeignOp.all.map foreign ++ SampleOp.all.map sample ++
      ViewOp.all.map view ++ AtomicOp.all.map atomic ++ PlainOp.all.map plain ++ [nop, customData]
  unlisted := unknown
  code := code

instance : ToString Opcode := ⟨Coded.text⟩

instance : Dump Opcode := ⟨Coded.ident⟩

/-- The assembly name; undefined opcodes share one. -/
def name (op : Opcode) : String := Coded.name op

/-- Whether the opcode is a declaration. Data blocks are not: they may carry constants, but also
appear as comments among the instructions. -/
def isDeclaration : Opcode → Bool
  | .resourceDcl _ | .stageDcl _ | .foreignDcl _ => true
  | _ => false

/-- Whether the opcode opens, divides, closes or leaves a structured scope. -/
def isControlFlow : Opcode → Bool
  | .flow _ => true
  | _ => false

/-- Whether the opcode declares resources. Data blocks belong here for their constants. -/
def isResourceDeclaration : Opcode → Bool
  | .resourceDcl _ | .customData => true
  | _ => false

/-- Whether the opcode declares a stage input or output. -/
def isStageDeclaration : Opcode → Bool
  | .stageDcl _ => true
  | _ => false

/-- The opcode in the low eleven bits of an instruction's first token. -/
def ofToken (token : UInt32) : Opcode := Coded.ofRaw (token &&& 0x7ff)

/-- The length of an instruction, in tokens, from bits 24 to 30 of its first token. -/
def tokenLength (token : UInt32) : UInt32 := (token >>> 24) &&& 0x7f

end Opcode

end ShaderFlow
