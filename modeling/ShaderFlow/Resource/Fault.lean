import ShaderFlow.Fault
import ShaderFlow.Instruction

/-!
# Faults of resource declarations and uses
-/

namespace ShaderFlow

/-- The bindings that a program receives through its binding table. -/
inductive BindingKind where
  | constantBuffer | sampler | resource | access
  deriving DecidableEq

/-- The letters of a kind's registers. -/
def BindingKind.letters : BindingKind → String
  | .constantBuffer => "cb"
  | .sampler => "s"
  | .resource => "t"
  | .access => "u"

/-- Why a resource declaration is refused. -/
inductive ResourceFault where
  | missingPayload (op : Opcode)
  | unexpectedPayload (op : Opcode) (payload : Declaration)
  | missingOperand (op : Opcode)
  | invalidSamplerMode (raw : UInt32)
  | invalidDimension (dimension : Dimension)
  | invalidReturnType (raw : UInt32)
  /-- A return type of the format for which views are not handled. -/
  | unsupportedReturnType (type : ReturnType)
  | invertedRange (lower upper : UInt32)
  | indexDimension (kind : OperandKind) (index : OperandIndex)
  | bindingTwice (kind : BindingKind) (id : UInt32)
  | indexableTempTwice (id : UInt32)
  | outsideCompute (op : Opcode)
  | emptyThreadGroup (x y z : UInt32)
  | threadGroupTwice
  | sharedSize (bytes : UInt32)
  | sharedStride (stride : UInt32)
  | sharedOverflow (stride count : UInt32)
  | sharedWithoutIndex
  | sharedTwice (id : UInt32)
  /-- Constants that do not fill their last row. -/
  | constantRows (words : Nat)
  | constantsTwice
  deriving DecidableEq

namespace ResourceFault

/-- Which refusals concern parts of the format that are not handled. -/
def kind : ResourceFault → FaultKind
  | .unsupportedReturnType _ | .outsideCompute _ => .unsupported
  | _ => .malformed

/-- The wording of a refusal. -/
def message : ResourceFault → String
  | .missingPayload op => op.name ++ " is missing its declaration payload"
  | .unexpectedPayload op payload => op.name ++ " carries an unexpected payload " ++ dump payload
  | .missingOperand op => op.name ++ " has no declared operand"
  | .invalidSamplerMode raw => s!"invalid sampler mode {raw}"
  | .invalidDimension dimension => s!"invalid resource dimension {dimension}"
  | .invalidReturnType raw => s!"invalid resource return type {raw}"
  | .unsupportedReturnType type => s!"resource return type {type}"
  | .invertedRange lower upper => s!"binding range [{lower}:{upper}] is inverted"
  | .indexDimension kind index =>
    s!"{kind}: unexpected index dimension {index.dimension} for a resource declaration"
  | .bindingTwice kind id => s!"{kind.letters}{id} is declared twice"
  | .indexableTempTwice id => s!"x{id} is declared twice"
  | .outsideCompute op => op.name ++ " is only valid in compute shaders"
  | .emptyThreadGroup x y z => s!"thread group size {x}x{y}x{z} has a zero dimension"
  | .threadGroupTwice => "thread group size is declared twice"
  | .sharedSize bytes =>
    s!"raw thread group shared memory size {bytes} is not a multiple of 4"
  | .sharedStride stride =>
    s!"structured thread group shared memory stride {stride} is not a multiple of 4"
  | .sharedOverflow stride count => s!"thread group shared memory {stride}x{count} overflows"
  | .sharedWithoutIndex => "g# declaration without an index"
  | .sharedTwice id => s!"g{id} is declared twice"
  | .constantRows words =>
    s!"immediate constant buffer of {words * 4} bytes is not whole 16-byte rows"
  | .constantsTwice => "immediate constant buffer is declared twice"

end ResourceFault

/-- The refusal of an operand that refers to something undeclared. -/
structure UndeclaredUse where
  kind : OperandKind
  id : UInt32
  deriving DecidableEq

/-- The wording of the refusal. -/
def UndeclaredUse.message (u : UndeclaredUse) : String := s!"{u.kind}{u.id} is not declared"

end ShaderFlow
