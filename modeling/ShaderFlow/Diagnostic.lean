import ShaderFlow.Flow.Fault
import ShaderFlow.Interface.Fault
import ShaderFlow.Resource.Fault

/-!
# Diagnostics

Why a program as a whole is refused, and where.
-/

namespace ShaderFlow

/-- Why a program is refused. -/
inductive Cause where
  | flow (op : Opcode) (fault : FlowFault)
  | resource (fault : ResourceFault)
  | use (fault : UndeclaredUse)
  | interface (fault : InterfaceFault)
  /-- Programs of the stage are not handled. -/
  | unsupportedStage (stage : Stage)
  /-- The instruction belongs to a stage or feature that is not handled. -/
  | foreignOpcode (op : Opcode)
  | undefinedOpcode (raw : UInt32)
  /-- The program ends before it returns. -/
  | unexpectedEnd
  | missingThreadGroup
  /-- A refusal by whoever lowers instructions. -/
  | reported (kind : FaultKind) (message : String)
  deriving DecidableEq

namespace Cause

/-- Whether the program is wrong or merely not handled. -/
def kind : Cause → FaultKind
  | .flow _ fault => fault.kind
  | .resource fault => fault.kind
  | .interface fault => fault.kind
  | .unsupportedStage _ | .foreignOpcode _ => .unsupported
  | .use _ | .undefinedOpcode _ | .unexpectedEnd | .missingThreadGroup => .malformed
  | .reported kind _ => kind

/-- The wording of a cause. -/
def message : Cause → String
  | .flow op fault => fault.message op
  | .resource fault => fault.message
  | .use fault => fault.message
  | .interface fault => fault.message
  | .unsupportedStage stage => s!"{stage} shaders"
  | .foreignOpcode op => op.name
  | .undefinedOpcode raw => s!"unknown opcode {raw}"
  | .unexpectedEnd => "unexpected end of shader"
  | .missingThreadGroup => "compute shader without dcl_thread_group"
  | .reported _ message => message

end Cause

/-- A cause with the place where it arose. -/
structure Diagnostic where
  location : Location
  cause : Cause
  deriving DecidableEq

namespace Diagnostic

/-- The full text of a diagnostic. -/
def text (d : Diagnostic) : String :=
  let verdict := match d.cause.kind with
    | .malformed => "malformed"
    | .unsupported => "unsupported"
  s!"{verdict} shader at instruction {d.location.instruction} (dword {d.location.dword}): " ++
    d.cause.message

end Diagnostic

end ShaderFlow
